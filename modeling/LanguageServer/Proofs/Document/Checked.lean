import LanguageServer.Proofs.Document.Excerpt
import LanguageServer.Proofs.Text.Checked

/-!
# Excerpts that check every step

An excerpt is cut out of the text twice, once to see which character stands at its end and once for
its own sake. Together with the conversions that lead there it never ends with a fault, whatever the
text and the range.
-/

namespace LanguageServer.Checked

open Text

def textIn (document : TextDocument) (range : Range) : Except Fault String := do
  let cs := document.text.toList
  let start ← offsetAt document.lineIndex document.text range.start
  let stop ← offsetAt document.lineIndex document.text range.stop
  if stop < start then return ""
  else
    let rest ← cut cs stop (byteLength cs)
    let last := match rest with
      | [] => stop
      | c :: _ => stop + c.utf8Size
    let part ← cut cs start last
    return .ofList part

/-- A remembered table that belongs to another text leads into a character. -/
example : textIn { TextDocument.ofItem ⟨⟨"file:///a"⟩, "plaintext", 1, "é"⟩ with
    lineIndex? := some ⟨[0, 1]⟩ } ⟨⟨1, 0⟩, ⟨1, 0⟩⟩ = .error (.notBoundary 1) := by decide

theorem slice_byteLength {cs : List Char} {b : Nat} (h : IsBoundary cs b) :
    slice cs b (byteLength cs) = dropWidth Char.utf8Size b cs := by
  obtain ⟨before, after, rfl, rfl⟩ := h
  rw [dropWidth_width_append Char.utf8Size_pos, slice_append_end]

theorem last_eq_behind {cs : List Char} {b : Nat} :
    (match dropWidth Char.utf8Size b cs with
      | [] => b
      | c :: _ => b + c.utf8Size) = behind cs b := by
  rw [behind]
  cases dropWidth Char.utf8Size b cs <;> rfl

theorem textIn_eq_ok {document : TextDocument} (hindex : document.IndexCurrent) (range : Range) :
    textIn document range = .ok (document.textIn range) := by
  have hstart := hindex.isBoundary_offsetAt range.start
  have hstop := hindex.isBoundary_offsetAt range.stop
  obtain ⟨hbehind, hfrom⟩ := hstop.isBoundary_behind
  have hoffset : ∀ position, offsetAt document.lineIndex document.text position =
      .ok (document.offsetAt position) := by
    intro position
    rw [hindex.offsetAt_eq, hindex.lineIndex_eq]
    exact offsetAt_eq_ok document.text position
  simp only [textIn, hoffset, ok_bind]
  by_cases hreversed : document.offsetAt range.stop < document.offsetAt range.start
  · rw [if_pos hreversed, TextDocument.textIn, if_pos hreversed]
    rfl
  · have hle := Nat.not_lt.mp hreversed
    rw [if_neg hreversed, cut_eq_ok hstop (isBoundary_byteLength _) hstop.le_byteLength, ok_bind,
      slice_byteLength hstop, last_eq_behind, cut_eq_ok hstart hbehind (Nat.le_trans hle hfrom),
      TextDocument.textIn, if_neg hreversed]
    rfl

/-- Nothing that a conversion does can fail. Lines start at boundaries within the text, the search
for a line finds one unless there is none, rounding down stops at a boundary, and every cut is
between boundaries in the right order. So the conversions that check all this end with the results
of those that do not, and so do excerpts. A line index that a document remembers has to be that of
its text, as it is in every document that is in use. -/
theorem conversions_eq_ok (text : String) :
    (∀ start ∈ (LineIndex.ofText text).starts,
      IsBoundary text.toList start ∧ start ≤ byteLength text.toList) ∧
    ((LineIndex.ofText text).starts ≠ [] → ∀ offset, ∃ point,
      partitionPoint (LineIndex.ofText text).starts offset = .ok point ∧ 1 ≤ point) ∧
    (∀ offset, roundDown text.toList offset = .ok (snap text.toList offset)) ∧
    (∀ offset, positionAt (.ofText text) text offset =
      .ok ((LineIndex.ofText text).positionAt text offset)) ∧
    (∀ position, offsetAt (.ofText text) text position =
        .ok ((LineIndex.ofText text).offsetAt text position) ∧
      IsBoundary text.toList ((LineIndex.ofText text).offsetAt text position) ∧
      (LineIndex.ofText text).offsetAt text position ≤ byteLength text.toList) ∧
    ∀ document : TextDocument, document.text = text → document.IndexCurrent → ∀ range,
      textIn document range = .ok (document.textIn range) ∧
      (document.offsetAt range.start ≤ document.offsetAt range.stop → ∃ stop,
        IsBoundary text.toList stop ∧ document.offsetAt range.start ≤ stop ∧
        stop ≤ byteLength text.toList ∧
        document.textIn range =
          .ofList (slice text.toList (document.offsetAt range.start) stop)) := by
  refine ⟨?_, ?_, roundDown_eq_ok text.toList, positionAt_eq_ok text, ?_, ?_⟩
  · intro start hstart
    have hboundary : IsBoundary text.toList start := LineIndex.isBoundary_of_mem_starts hstart
    exact ⟨hboundary, hboundary.le_byteLength⟩
  · intro hsome offset
    obtain ⟨point, hpoint, hpos, -⟩ := exists_partitionPoint_eq_ok hsome offset
    exact ⟨point, hpoint, hpos⟩
  · intro position
    exact ⟨offsetAt_eq_ok text position, LineIndex.isBoundary_offsetAt text position,
      LineIndex.offsetAt_le_byteLength text position⟩
  · rintro document rfl hindex range
    refine ⟨textIn_eq_ok hindex range, ?_⟩
    intro hle
    obtain ⟨hbehind, hfrom⟩ := (hindex.isBoundary_offsetAt range.stop).isBoundary_behind
    exact ⟨_, hbehind, Nat.le_trans hle hfrom, hbehind.le_byteLength, if_neg (Nat.not_lt.mpr hle)⟩

/-- A range from inside a surrogate pair to a line that is missing. -/
theorem conversions_eq_ok_broken :
    (LineIndex.ofText "é\r\n😀").starts ≠ [] ∧
      (∃ point, partitionPoint (LineIndex.ofText "é\r\n😀").starts 7 = .ok point ∧ 1 ≤ point) ∧
      TextDocument.broken.text = "é\r\n😀" ∧ TextDocument.broken.IndexCurrent ∧
      TextDocument.broken.offsetAt ⟨1, 1⟩ ≤ TextDocument.broken.offsetAt ⟨9, 0⟩ ∧
      textIn .broken ⟨⟨1, 1⟩, ⟨9, 0⟩⟩ = .ok "😀" ∧
      ∃ stop, IsBoundary "é\r\n😀".toList stop ∧ TextDocument.broken.offsetAt ⟨1, 1⟩ ≤ stop ∧
        stop ≤ byteLength "é\r\n😀".toList ∧
        TextDocument.broken.textIn ⟨⟨1, 1⟩, ⟨9, 0⟩⟩ =
          .ofList (slice "é\r\n😀".toList (TextDocument.broken.offsetAt ⟨1, 1⟩) stop) := by
  have hsome : (LineIndex.ofText "é\r\n😀").starts ≠ [] := by decide
  have hindex : TextDocument.broken.IndexCurrent := Or.inl rfl
  have hle : TextDocument.broken.offsetAt ⟨1, 1⟩ ≤ TextDocument.broken.offsetAt ⟨9, 0⟩ := by decide
  have hexcerpt : TextDocument.broken.textIn ⟨⟨1, 1⟩, ⟨9, 0⟩⟩ = "😀" := by decide
  obtain ⟨-, hpoint, -, -, -, hdocument⟩ := conversions_eq_ok "é\r\n😀"
  obtain ⟨hok, hstop⟩ := hdocument .broken rfl hindex ⟨⟨1, 1⟩, ⟨9, 0⟩⟩
  exact ⟨hsome, hpoint hsome 7, rfl, hindex, hle, hok.trans (congrArg _ hexcerpt), hstop hle⟩

end LanguageServer.Checked
