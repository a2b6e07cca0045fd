import LanguageServer.Proofs.Text.Line
import LanguageServer.Proofs.Text.RoundTrip

/-!
# Canonical positions

Several positions may denote one place: a column behind a break denotes the start of the next line,
a column inside a character the start of the character, a missing line the end of the text. The
canonical one names the line that holds the place and measures the way to it. `positionAt` gives
canonical positions only and all of them, and going to an offset and back changes no others but the
ones that are not canonical.
-/

namespace LanguageServer

open Text

namespace LineIndex

/-- The line exists and holds a boundary to which the column measures the way. In the empty text,
which has no lines, the origin is canonical. -/
def IsCanonical (text : String) (position : Position) : Prop :=
  text.toList = [] ∧ position = ⟨0, 0⟩ ∨
    ∃ start b, (ofText text).OnLine b position.line.toNat start ∧ IsBoundary text.toList b ∧
      position.character.toNat = unitLength (slice text.toList start b)

variable {text : String} {position : Position} {b start : Nat}

theorem positionAt_of_toList_eq_nil (hnil : text.toList = []) (offset : Nat) :
    (ofText text).positionAt text offset = ⟨0, 0⟩ := by
  simp only [positionAt, ofText, hnil]
  rfl

theorem OnLine.positionAt_eq (h : (ofText text).OnLine b position.line.toNat start)
    (hb : IsBoundary text.toList b)
    (hcolumn : position.character.toNat = unitLength (slice text.toList start b)) :
    (ofText text).positionAt text b = position := by
  have hline : (ofText text).lineAt b = position.line.toNat := h.lineAt_eq
  have hstart : (ofText text).lineStartAt b = start := h.lineStartAt_eq
  rw [LineIndex.positionAt_eq, hb.snap_eq, hline, hstart, ← hcolumn, UInt32.ofNat_toNat,
    UInt32.ofNat_toNat]

theorem IsCanonical.exists_place (h : IsCanonical text position) : ∃ b,
    IsBoundary text.toList b ∧ (ofText text).positionAt text b = position ∧
      (ofText text).offsetAt text position = b := by
  rcases h with ⟨hnil, rfl⟩ | ⟨start, b, hline, hb, hcolumn⟩
  · exact ⟨0, isBoundary_zero _, positionAt_of_toList_eq_nil hnil 0,
      offsetAt_of_toList_eq_nil hnil _⟩
  · exact ⟨b, hb, hline.positionAt_eq hb hcolumn, hline.offsetAt_eq hb hcolumn⟩

theorem isCanonical_positionAt (hshort : byteLength text.toList < 2 ^ 32) (offset : Nat) :
    IsCanonical text ((ofText text).positionAt text offset) := by
  by_cases hnil : text.toList = []
  · exact Or.inl ⟨hnil, positionAt_of_toList_eq_nil hnil offset⟩
  · have hline := onLine_lineAt hnil (snap text.toList offset)
    change (ofText text).OnLine _ ((ofText text).lineAt _) _ at hline
    rw [← line_positionAt hshort] at hline
    exact Or.inr ⟨_, _, hline, isBoundary_snap _ _, character_positionAt hshort offset⟩

/-- The way to an offset and back leaves canonical positions as they are and no others, whatever
comes back is canonical, and every canonical position is that of an offset in the text. -/
theorem positionAt_offsetAt_eq_self_iff (text : String)
    (hshort : byteLength text.toList < 2 ^ 32) :
    (∀ position, (ofText text).positionAt text ((ofText text).offsetAt text position) = position ↔
      IsCanonical text position) ∧
    (∀ position,
      IsCanonical text ((ofText text).positionAt text ((ofText text).offsetAt text position))) ∧
    ∀ position, IsCanonical text position →
      ∃ offset ≤ byteLength text.toList, (ofText text).positionAt text offset = position := by
  refine ⟨?_, fun position => isCanonical_positionAt hshort _, ?_⟩
  · intro position
    constructor
    · intro hback
      rw [← hback]
      exact isCanonical_positionAt hshort _
    · intro h
      obtain ⟨b, -, hposition, hoffset⟩ := h.exists_place
      rw [hoffset, hposition]
  · intro position h
    obtain ⟨b, hb, hposition, -⟩ := h.exists_place
    exact ⟨b, hb.le_byteLength, hposition⟩

/-- Between `\r` and `\n` a column is canonical; behind them it belongs to the next line, and inside
a surrogate pair to no boundary. -/
theorem positionAt_offsetAt_eq_self_iff_surrogate :
    byteLength "😀\r\nb".toList < 2 ^ 32 ∧ IsCanonical "😀\r\nb" ⟨0, 3⟩ ∧
      (∃ offset ≤ byteLength "😀\r\nb".toList,
        (ofText "😀\r\nb").positionAt "😀\r\nb" offset = ⟨0, 3⟩) ∧
      ¬ IsCanonical "😀\r\nb" ⟨0, 4⟩ ∧ ¬ IsCanonical "😀\r\nb" ⟨0, 1⟩ := by
  have hshort : byteLength "😀\r\nb".toList < 2 ^ 32 := by decide
  obtain ⟨hfixed, -, hreached⟩ := positionAt_offsetAt_eq_self_iff "😀\r\nb" hshort
  have hinside := (hfixed ⟨0, 3⟩).mp (by decide)
  refine ⟨hshort, hinside, hreached _ hinside, ?_, ?_⟩
  · exact mt (hfixed ⟨0, 4⟩).mpr (by decide)
  · exact mt (hfixed ⟨0, 1⟩).mpr (by decide)

end LineIndex

end LanguageServer
