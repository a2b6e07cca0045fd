import LanguageServer.Proofs.Document.Contents
import LanguageServer.Proofs.Text.OffsetAt
import LanguageServer.Proofs.Text.RoundTrip

/-!
# Excerpts of a document

The text between two positions runs from the place of the first one through the character at the
place of the second one. It depends on the two places only, so canonical positions for them give the
same text.
-/

namespace LanguageServer

namespace Text

def CharacterAt (cs : List Char) (offset : Nat) (c : Char) : Prop :=
  ∃ before after, before ++ c :: after = cs ∧ byteLength before = offset

def behind (cs : List Char) (offset : Nat) : Nat :=
  offset + ((dropWidth Char.utf8Size offset cs).head?.map Char.utf8Size).getD 0

/-- What a text holds from one place through the character at another one. -/
structure IsExcerpt (cs : List Char) (start stop : Nat) (excerpt : String) : Prop where
  reversed : stop < start → excerpt = ""
  upToEnd : start ≤ stop → stop = byteLength cs → excerpt = .ofList (slice cs start stop)
  through : start ≤ stop → stop < byteLength cs →
    ∃ c, CharacterAt cs stop c ∧ excerpt = .ofList (slice cs start stop ++ [c])

variable {cs : List Char} {start b : Nat} {c : Char}

theorem CharacterAt.behind_eq (h : CharacterAt cs b c) : behind cs b = b + byteLength [c] := by
  obtain ⟨before, after, rfl, rfl⟩ := h
  rw [behind, dropWidth_width_append Char.utf8Size_pos]
  rfl

theorem CharacterAt.isBoundary_behind (h : CharacterAt cs b c) : IsBoundary cs (behind cs b) := by
  rw [h.behind_eq]
  obtain ⟨before, after, rfl, rfl⟩ := h
  exact ⟨before ++ [c], after, by simp, byteLength_append _ _⟩

theorem CharacterAt.slice_behind (h : CharacterAt cs b c) : slice cs b (behind cs b) = [c] := by
  rw [h.behind_eq]
  obtain ⟨before, after, rfl, rfl⟩ := h
  exact slice_append before [c] after

theorem behind_byteLength (cs : List Char) : behind cs (byteLength cs) = byteLength cs := by
  have hrest := dropWidth_width_append Char.utf8Size_pos cs []
  rw [List.append_nil] at hrest
  rw [behind, hrest]
  rfl

theorem IsBoundary.eq_byteLength_or_characterAt (h : IsBoundary cs b) :
    b = byteLength cs ∨ b < byteLength cs ∧ ∃ c, CharacterAt cs b c := by
  obtain ⟨before, after, rfl, rfl⟩ := h
  cases after with
  | nil =>
    rw [List.append_nil]
    exact Or.inl rfl
  | cons c after =>
    refine Or.inr ⟨?_, c, before, after, rfl, rfl⟩
    rw [byteLength_append]
    exact Nat.lt_add_of_pos_right (Nat.add_pos_left c.utf8Size_pos _)

theorem IsBoundary.isBoundary_behind (h : IsBoundary cs b) :
    IsBoundary cs (behind cs b) ∧ b ≤ behind cs b := by
  refine ⟨?_, Nat.le_add_right _ _⟩
  rcases h.eq_byteLength_or_characterAt with rfl | ⟨-, c, hc⟩
  · rwa [behind_byteLength]
  · exact hc.isBoundary_behind

theorem isExcerpt_slice_behind (hstart : IsBoundary cs start) (hb : IsBoundary cs b) :
    IsExcerpt cs start b (if b < start then "" else .ofList (slice cs start (behind cs b))) := by
  refine ⟨?_, ?_, ?_⟩
  · intro hreversed
    rw [if_pos hreversed]
  · rintro hle rfl
    rw [if_neg (Nat.not_lt.mpr hle), behind_byteLength]
  · intro hle hlt
    rcases hb.eq_byteLength_or_characterAt with heq | ⟨-, c, hc⟩
    · exact absurd heq (Nat.ne_of_lt hlt)
    · obtain ⟨hbehind, hfrom⟩ := hb.isBoundary_behind
      refine ⟨c, hc, ?_⟩
      rw [if_neg (Nat.not_lt.mpr hle), ← hc.slice_behind,
        slice_append_slice hstart hb hbehind hle hfrom]

end Text

open Text

namespace TextDocument

variable {document : TextDocument} {range : Range}

theorem IndexCurrent.positionAt_eq (h : document.IndexCurrent) (offset : Nat) :
    document.positionAt offset =
      (LineIndex.ofText document.text).positionAt document.text offset := by
  rw [TextDocument.positionAt, h.lineIndex_eq]

theorem IndexCurrent.offsetAt_eq (h : document.IndexCurrent) (position : Position) :
    document.offsetAt position =
      (LineIndex.ofText document.text).offsetAt document.text position := by
  rw [TextDocument.offsetAt, h.lineIndex_eq]

theorem IndexCurrent.offsetAt_positionAt (h : document.IndexCurrent)
    (hshort : byteLength document.text.toList < 2 ^ 32) (offset : Nat) :
    document.offsetAt (document.positionAt offset) = snap document.text.toList offset := by
  rw [h.offsetAt_eq, h.positionAt_eq]
  exact LineIndex.offsetAt_positionAt hshort offset

theorem IndexCurrent.isBoundary_offsetAt (h : document.IndexCurrent) (position : Position) :
    IsBoundary document.text.toList (document.offsetAt position) := by
  rw [h.offsetAt_eq]
  exact LineIndex.isBoundary_offsetAt _ _

theorem textIn_congr {range' : Range}
    (hstart : document.offsetAt range.start = document.offsetAt range'.start)
    (hstop : document.offsetAt range.stop = document.offsetAt range'.stop) :
    document.textIn range = document.textIn range' := by
  simp only [textIn, hstart, hstop]

theorem IndexCurrent.isExcerpt_textIn (h : document.IndexCurrent) (range : Range) :
    IsExcerpt document.text.toList (document.offsetAt range.start) (document.offsetAt range.stop)
      (document.textIn range) :=
  isExcerpt_slice_behind (h.isBoundary_offsetAt _) (h.isBoundary_offsetAt _)

theorem IndexCurrent.textIn_eq_part (h : document.IndexCurrent)
    (hle : document.offsetAt range.start ≤ document.offsetAt range.stop) :
    ∃ before part after, before ++ (part ++ after) = document.text.toList ∧
      byteLength before = document.offsetAt range.start ∧ document.textIn range = .ofList part := by
  have hstart := h.isBoundary_offsetAt range.start
  obtain ⟨hbehind, hfrom⟩ := (h.isBoundary_offsetAt range.stop).isBoundary_behind
  obtain ⟨before, part, after, hcs, hbefore, hpart⟩ := hstart.cut hbehind (Nat.le_trans hle hfrom)
  refine ⟨before, part, after, hcs, hbefore, ?_⟩
  -- The slice between the ends of a part is that part.
  have hslice := slice_append before part after
  rw [hcs, hpart, hbefore] at hslice
  rw [← hslice]
  exact if_neg (Nat.not_lt.mpr hle)

/-- Between the positions of two offsets stands the text from the place of the first one through the
character at the place of the second one. Any two positions cut out the same text as the canonical
ones for their places; it is a part of the whole that starts at the first place, or nothing if the
second place comes before. A line index that the document remembers has to be that of its text, as
it is in every document that is in use. -/
theorem textIn_positionAt (document : TextDocument) (hindex : document.IndexCurrent)
    (hshort : byteLength document.text.toList < 2 ^ 32) :
    (∀ a b, IsExcerpt document.text.toList (snap document.text.toList a)
      (snap document.text.toList b)
      (document.textIn ⟨document.positionAt a, document.positionAt b⟩)) ∧
    ∀ range : Range,
      document.textIn range =
        document.textIn ⟨document.positionAt (document.offsetAt range.start),
          document.positionAt (document.offsetAt range.stop)⟩ ∧
      (document.offsetAt range.stop < document.offsetAt range.start →
        document.textIn range = "") ∧
      (document.offsetAt range.start ≤ document.offsetAt range.stop →
        ∃ before part after, before ++ (part ++ after) = document.text.toList ∧
          byteLength before = document.offsetAt range.start ∧
          document.textIn range = .ofList part) := by
  refine ⟨?_, ?_⟩
  · intro a b
    have h := hindex.isExcerpt_textIn ⟨document.positionAt a, document.positionAt b⟩
    rwa [hindex.offsetAt_positionAt hshort, hindex.offsetAt_positionAt hshort] at h
  · intro range
    have hback : ∀ position,
        document.offsetAt (document.positionAt (document.offsetAt position)) =
          document.offsetAt position := by
      intro position
      rw [hindex.offsetAt_positionAt hshort, (hindex.isBoundary_offsetAt position).snap_eq]
    refine ⟨?_, (hindex.isExcerpt_textIn range).reversed, hindex.textIn_eq_part⟩
    exact textIn_congr (hback range.start).symm (hback range.stop).symm

/-- A line break of two characters between a character of two bytes and one of four. -/
def broken : TextDocument := ofItem ⟨⟨"file:///a"⟩, "plaintext", 1, "é\r\n😀"⟩

/-- An excerpt through `\r` splits the break, and one through `\n` stops in front of the last
character. -/
theorem textIn_positionAt_broken :
    broken.IndexCurrent ∧ byteLength broken.text.toList < 2 ^ 32 ∧
      IsExcerpt broken.text.toList (snap broken.text.toList 1) (snap broken.text.toList 2)
        (broken.textIn ⟨broken.positionAt 1, broken.positionAt 2⟩) ∧
      broken.textIn ⟨broken.positionAt 1, broken.positionAt 2⟩ = "é\r" ∧
      broken.offsetAt ⟨0, 1⟩ ≤ broken.offsetAt ⟨0, 2⟩ ∧
      (∃ before part after, before ++ (part ++ after) = broken.text.toList ∧
        byteLength before = broken.offsetAt ⟨0, 1⟩ ∧
        broken.textIn ⟨⟨0, 1⟩, ⟨0, 2⟩⟩ = .ofList part) ∧
      broken.textIn ⟨⟨0, 1⟩, ⟨0, 2⟩⟩ = "\r\n" ∧
      broken.offsetAt ⟨0, 1⟩ < broken.offsetAt ⟨9, 0⟩ ∧ broken.textIn ⟨⟨9, 0⟩, ⟨0, 1⟩⟩ = "" := by
  have hindex : broken.IndexCurrent := Or.inl rfl
  have hshort : byteLength broken.text.toList < 2 ^ 32 := by decide
  have hle : broken.offsetAt ⟨0, 1⟩ ≤ broken.offsetAt ⟨0, 2⟩ := by decide
  have hlt : broken.offsetAt ⟨0, 1⟩ < broken.offsetAt ⟨9, 0⟩ := by decide
  obtain ⟨hoffsets, hranges⟩ := textIn_positionAt broken hindex hshort
  exact ⟨hindex, hshort, hoffsets 1 2, by decide, hle, (hranges ⟨⟨0, 1⟩, ⟨0, 2⟩⟩).2.2 hle,
    by decide, hlt, (hranges ⟨⟨9, 0⟩, ⟨0, 1⟩⟩).2.1 hlt⟩

end TextDocument

end LanguageServer
