import LanguageServer.Proofs.Text.OffsetAt
import LanguageServer.Proofs.Text.PositionAt
import Mathlib.Data.Prod.Lex
import Mathlib.Order.Monotone.Defs

/-!
# The order of positions

Positions are ordered by line and then by column. A later offset never has an earlier position, a
later boundary has a later one, and a later position never denotes an earlier offset, even where
line or column lie beyond the text.
-/

namespace LanguageServer

open Text

namespace Position

def key (position : Position) : ℕ ×ₗ ℕ := toLex (position.line.toNat, position.character.toNat)

theorem key_injective : Function.Injective key := by
  rintro ⟨line, character⟩ ⟨line', character'⟩ h
  have hpair : (line.toNat, character.toNat) = (line'.toNat, character'.toNat) := h
  obtain ⟨hline, hcharacter⟩ := Prod.mk.inj hpair
  rw [UInt32.toNat_inj.mp hline, UInt32.toNat_inj.mp hcharacter]

instance : LinearOrder Position := LinearOrder.lift' key key_injective

variable {p q : Position}

theorem lt_iff : p < q ↔ p.line.toNat < q.line.toNat ∨
    p.line.toNat = q.line.toNat ∧ p.character.toNat < q.character.toNat :=
  Prod.Lex.toLex_lt_toLex

theorem le_iff : p ≤ q ↔ p.line.toNat < q.line.toNat ∨
    p.line.toNat = q.line.toNat ∧ p.character.toNat ≤ q.character.toNat :=
  Prod.Lex.toLex_le_toLex

end Position

namespace LineIndex

variable {text : String} {a b : Nat} {p q : Position}

theorem positionAt_snap (text : String) (offset : Nat) :
    (ofText text).positionAt text (snap text.toList offset) =
      (ofText text).positionAt text offset := by
  rw [positionAt_eq, positionAt_eq, (isBoundary_snap _ _).snap_eq]

theorem positionAt_lt_positionAt (hshort : byteLength text.toList < 2 ^ 32)
    (ha : IsBoundary text.toList a) (hb : IsBoundary text.toList b) (hab : a < b) :
    (ofText text).positionAt text a < (ofText text).positionAt text b := by
  rw [Position.lt_iff, line_positionAt hshort, line_positionAt hshort, character_positionAt hshort,
    character_positionAt hshort, ha.snap_eq, hb.snap_eq]
  rcases Nat.lt_or_eq_of_le (lineAt_le_lineAt text.toList (Nat.le_of_lt hab)) with hline | hline
  · exact Or.inl hline
  · refine Or.inr ⟨hline, ?_⟩
    have hstart : (ofText text).lineStartAt a = (ofText text).lineStartAt b :=
      lineStartAt_eq_of_lineAt_eq hline
    have hle : (ofText text).lineStartAt b ≤ a := by
      rw [← hstart]
      exact lineStartAt_le _ _
    have hsum := unitLength_slice_add (isBoundary_lineStartAt text.toList b) ha hb hle
      (Nat.le_of_lt hab)
    have hpos := unitLength_slice_pos ha hb hab
    rw [hstart, ofText]
    omega

theorem positionAt_le_positionAt (hshort : byteLength text.toList < 2 ^ 32) (hab : a ≤ b) :
    (ofText text).positionAt text a ≤ (ofText text).positionAt text b := by
  rw [← positionAt_snap text a, ← positionAt_snap text b]
  rcases Nat.lt_or_eq_of_le (snap_le_snap text.toList hab) with hlt | heq
  · exact le_of_lt (positionAt_lt_positionAt hshort (isBoundary_snap _ _) (isBoundary_snap _ _) hlt)
  · rw [heq]

/-- What a line denotes ends where the next line starts. -/
theorem offsetAt_le_of_line_lt {start : Nat}
    (hstart : (ofText text).starts[q.line.toNat]? = some start)
    (hline : p.line.toNat < q.line.toNat) : (ofText text).offsetAt text p ≤ start := by
  obtain ⟨hlength, -⟩ := List.getElem?_eq_some_iff.mp hstart
  obtain ⟨first, hfirst⟩ := exists_start (Nat.lt_trans hline hlength)
  obtain ⟨next, hnext⟩ : ∃ next, (ofText text).starts[p.line.toNat + 1]? = some next :=
    exists_start (Nat.lt_of_le_of_lt hline hlength)
  obtain ⟨-, -, hle, -⟩ := (isGreatest_offsetAt_of_getElem? hfirst).1
  rw [hnext, Option.getD_some] at hle
  apply Nat.le_trans hle
  apply Nat.le_of_not_lt
  intro hbefore
  have hfirst := (lt_iff_of_getElem? (pairwise_starts text.toList) hstart hnext).mp hbefore
  omega

theorem offsetAt_le_offsetAt (h : p ≤ q) :
    (ofText text).offsetAt text p ≤ (ofText text).offsetAt text q := by
  rcases Nat.lt_or_ge q.line.toNat (ofText text).lineCount with hcount | hcount
  · obtain ⟨start, hstart⟩ := exists_start hcount
    have hq := isGreatest_offsetAt_of_getElem? hstart
    rcases Position.le_iff.mp h with hline | ⟨hline, hcharacter⟩
    · exact Nat.le_trans (offsetAt_le_of_line_lt hstart hline) hq.1.2.1
    · rw [← hline] at hstart hq
      exact (isGreatest_offsetAt_of_getElem? hstart).mono hq (placesWithin_subset hcharacter)
  · rw [offsetAt_of_lineCount_le hcount]
    exact offsetAt_le_byteLength text p

/-- Both conversions keep the order, and the one from offsets keeps distinct boundaries apart. -/
theorem monotone_positionAt_offsetAt (text : String) (hshort : byteLength text.toList < 2 ^ 32) :
    Monotone ((ofText text).positionAt text) ∧
      StrictMonoOn ((ofText text).positionAt text) {b | IsBoundary text.toList b} ∧
      Monotone ((ofText text).offsetAt text) := by
  refine ⟨?_, ?_, ?_⟩
  · intro a b hab
    exact positionAt_le_positionAt hshort hab
  · intro a ha b hb hab
    exact positionAt_lt_positionAt hshort ha hb hab
  · intro p q h
    exact offsetAt_le_offsetAt h

/-- A column far beyond its line stays in front of the next one, and the next one in front of a line
that is missing. -/
theorem monotone_positionAt_offsetAt_beyond :
    byteLength "é\r\n😀".toList < 2 ^ 32 ∧
      (ofText "é\r\n😀").offsetAt "é\r\n😀" ⟨0, 4294967295⟩ ≤
        (ofText "é\r\n😀").offsetAt "é\r\n😀" ⟨1, 1⟩ ∧
      (ofText "é\r\n😀").offsetAt "é\r\n😀" ⟨1, 1⟩ ≤
        (ofText "é\r\n😀").offsetAt "é\r\n😀" ⟨4294967295, 0⟩ ∧
      (ofText "é\r\n😀").positionAt "é\r\n😀" 3 < (ofText "é\r\n😀").positionAt "é\r\n😀" 4 := by
  have hshort : byteLength "é\r\n😀".toList < 2 ^ 32 := by decide
  obtain ⟨-, hstrict, hoffset⟩ := monotone_positionAt_offsetAt "é\r\n😀" hshort
  have hthree : IsBoundary "é\r\n😀".toList 3 := by decide
  have hfour : IsBoundary "é\r\n😀".toList 4 := by decide
  exact ⟨hshort, hoffset (by decide), hoffset (by decide), hstrict hthree hfour (by decide)⟩

end LineIndex

end LanguageServer
