import LanguageServer.Proofs.Text.Bytes
import LanguageServer.Proofs.Text.Line
import Mathlib.Data.Set.Card

/-!
# Cutting a text into its lines

The entries of the table of a text are where its lines start, so cutting the text there gives its
lines, with their breaks at their ends. The same table comes out of one pass over the bytes, and
whether an offset is an entry can be told from the bytes next to it.
-/

namespace LanguageServer

namespace Text

def Unbroken (cs : List Char) : Prop := '\n' ∉ cs ∧ '\r' ∉ cs

/-- A text falls into lines: a break ends each of them but the last, and there is no other. -/
inductive FallsIntoLines : List Char → List (List Char) → Prop where
  | last {cs : List Char} : Unbroken cs → FallsIntoLines cs [cs]
  | line {body brk rest : List Char} {lines : List (List Char)} : Unbroken body →
      IsBreak body brk rest → FallsIntoLines rest lines →
      FallsIntoLines (body ++ (brk ++ rest)) ((body ++ brk) :: lines)

def cutAt (cs : List Char) : List Nat → List (List Char)
  | [] => []
  | start :: starts => slice cs start (starts.head?.getD (byteLength cs)) :: cutAt cs starts

/-- The breaks of a text, each between what stands before it and what stands behind. -/
def lineBreaks (cs : List Char) : Set (List Char × List Char × List Char) :=
  {b | b.1 ++ (b.2.1 ++ b.2.2) = cs ∧ IsBreak b.1 b.2.1 b.2.2}

variable {cs body brk rest before : List Char} {lines : List (List Char)} {c : Char} {offset : Nat}

theorem unbroken_nil : Unbroken [] := ⟨List.not_mem_nil, List.not_mem_nil⟩

theorem unbroken_cons : Unbroken (c :: cs) ↔ ¬ (c = '\n' ∨ c = '\r') ∧ Unbroken cs := by
  simp only [Unbroken, List.mem_cons, not_or, eq_comm (b := c)]
  tauto

theorem IsBreak.of_unbroken (h : IsBreak before brk rest) (hbody : Unbroken body) :
    IsBreak body brk rest := by
  cases h with
  | pair => exact .pair body rest
  | lineFeed => exact .lineFeed fun hlast => hbody.2 (List.mem_of_getLast? hlast)
  | carriageReturn hrest => exact .carriageReturn hrest

/-- Up to its first break, if it has one, a text is a line. -/
theorem unbroken_or_exists_break (cs : List Char) : Unbroken cs ∨
    ∃ body brk rest, cs = body ++ (brk ++ rest) ∧ Unbroken body ∧ IsBreak body brk rest := by
  induction cs with
  | nil => exact Or.inl unbroken_nil
  | cons c cs ih =>
    by_cases hc : c = '\n' ∨ c = '\r'
    · right
      rcases hc with rfl | rfl
      · exact ⟨[], ['\n'], cs, rfl, unbroken_nil, .lineFeed nofun⟩
      · by_cases hnext : cs.head? = some '\n'
        · obtain ⟨rest, rfl⟩ := List.head?_eq_some_iff.mp hnext
          exact ⟨[], ['\r', '\n'], rest, rfl, unbroken_nil, .pair [] rest⟩
        · exact ⟨[], ['\r'], cs, rfl, unbroken_nil, .carriageReturn hnext⟩
    · rcases ih with hcs | ⟨body, brk, rest, rfl, hbody, hbrk⟩
      · exact Or.inl (unbroken_cons.mpr ⟨hc, hcs⟩)
      · have hlonger : Unbroken (c :: body) := unbroken_cons.mpr ⟨hc, hbody⟩
        exact Or.inr ⟨c :: body, brk, rest, rfl, hlonger, hbrk.of_unbroken hlonger⟩

theorem IsBreak.ne_nil (h : IsBreak before brk rest) : brk ≠ [] := by
  cases h <;> exact List.cons_ne_nil _ _

theorem exists_fallsIntoLines (cs : List Char) : ∃ lines, FallsIntoLines cs lines := by
  -- On the length: what stands behind the first break need not be the tail of the list.
  induction hlength : cs.length using Nat.strong_induction_on generalizing cs with
  | _ length ih =>
    rcases unbroken_or_exists_break cs with hcs | ⟨body, brk, rest, rfl, hbody, hbrk⟩
    · exact ⟨_, .last hcs⟩
    · have hpos := List.length_pos_iff.mpr hbrk.ne_nil
      rw [List.length_append, List.length_append] at hlength
      obtain ⟨lines, hlines⟩ := ih rest.length (by omega) rest rfl
      exact ⟨_, .line hbody hbrk hlines⟩

theorem breakEnds_append (hbody : Unbroken body) :
    breakEnds offset (body ++ rest) = breakEnds (offset + byteLength body) rest := by
  induction body generalizing offset with
  | nil => rfl
  | cons c body ih =>
    obtain ⟨hc, hbody⟩ := unbroken_cons.mp hbody
    rw [List.cons_append, breakEnds, if_neg hc, ih hbody, Nat.add_assoc]
    · rfl
    · rintro tail rfl
      exact absurd (Or.inr rfl) hc

theorem breakEnds_break (h : IsBreak before brk rest) :
    breakEnds offset (brk ++ rest) =
      (offset + byteLength brk) :: breakEnds (offset + byteLength brk) rest := by
  cases h with
  | pair => rfl
  | lineFeed => rfl
  | carriageReturn hrest =>
    rw [List.singleton_append, breakEnds, if_pos (Or.inr rfl)]
    · rfl
    · rintro tail - rfl
      exact hrest rfl

/-- Cutting where the walk finds the ends of breaks gives the lines. -/
theorem FallsIntoLines.cutAt_breakEnds (h : FallsIntoLines cs lines) (before : List Char) :
    cutAt (before ++ cs) (byteLength before :: breakEnds (byteLength before) cs) = lines := by
  induction h generalizing before with
  | @last cs hcs =>
    have hnone : breakEnds (byteLength before) cs = [] := by
      rw [← List.append_nil cs, breakEnds_append hcs]
      rfl
    rw [hnone, cutAt, List.head?_nil, Option.getD_none, slice_append_end]
    rfl
  | @line body brk rest lines hbody hbrk _ ih =>
    have hpart := slice_append before (body ++ brk) rest
    have hrest := ih (before ++ (body ++ brk))
    rw [List.append_assoc, List.append_assoc] at hrest
    rw [List.append_assoc] at hpart
    rw [breakEnds_append hbody, breakEnds_break hbrk, Nat.add_assoc, ← byteLength_append,
      cutAt, List.head?_cons, Option.getD_some, hpart, ← byteLength_append, hrest]

theorem FallsIntoLines.flatten_eq (h : FallsIntoLines cs lines) : lines.flatten = cs := by
  induction h with
  | last => exact List.flatten_singleton
  | line _ _ _ ih => rw [List.flatten_cons, ih, List.append_assoc]

theorem image_lineBreaks (cs : List Char) :
    (fun b => byteLength (b.1 ++ b.2.1)) '' lineBreaks cs = {offset | BreakEndsAt cs offset} := by
  ext offset
  constructor
  · rintro ⟨⟨before, brk, after⟩, ⟨heq, hbrk⟩, hlength⟩
    exact ⟨before, brk, after, heq, hbrk, hlength⟩
  · rintro ⟨before, brk, after, heq, hbrk, hlength⟩
    exact ⟨⟨before, brk, after⟩, ⟨heq, hbrk⟩, hlength⟩

theorem injOn_lineBreaks (cs : List Char) :
    Set.InjOn (fun b => byteLength (b.1 ++ b.2.1)) (lineBreaks cs) := by
  rintro ⟨before, brk, after⟩ ⟨heq, hbrk⟩ ⟨before', brk', after'⟩ ⟨heq', hbrk'⟩ hlength
  have hsame : before ++ brk ++ after = before' ++ brk' ++ after' := by
    rw [List.append_assoc, List.append_assoc, heq, heq']
  have hfront := eq_of_append_eq_append hsame hlength
  rw [hfront] at hsame
  obtain rfl := List.append_cancel_left hsame
  obtain ⟨rfl, rfl⟩ := hbrk.unique hbrk' hfront
  rfl

theorem ncard_lineBreaks (cs : List Char) : (lineBreaks cs).ncard = (breakEnds 0 cs).length := by
  have hends : {offset | BreakEndsAt cs offset} = ((breakEnds 0 cs).toFinset : Set Nat) := by
    rw [List.coe_toFinset]
    exact Set.ext fun offset => mem_breakEnds_zero_iff.symm
  rw [← (injOn_lineBreaks cs).ncard_image, image_lineBreaks, hends,
    Set.ncard_coe_finset]
  exact List.toFinset_card_of_nodup ((pairwise_breakEnds 0 cs).imp Nat.ne_of_lt)

end Text

namespace LineIndex

open Text

variable {text : String}

theorem toList_ne_nil (h : text ≠ "") : text.toList ≠ [] := by
  intro hnil
  exact h (String.toList_eq_nil_iff.mp hnil)

theorem starts_ofText_eq_nil_iff : (ofText text).starts = [] ↔ text = "" := by
  constructor
  · intro h
    by_contra hne
    rw [ofText, starts_ofChars (toList_ne_nil hne)] at h
    exact List.cons_ne_nil _ _ h
  · rintro rfl
    rfl

theorem starts_ofText_eq_collectStarts (text : String) :
    (ofText text).starts = collectStarts [] true 0 (utf8 text) := by
  by_cases hne : text = ""
  · subst hne
    rfl
  · rw [utf8_eq_encode, collectStarts_encode (Or.inr (toList_ne_nil hne)), ofText,
      starts_ofChars (toList_ne_nil hne)]
    rfl

theorem mem_starts_ofText_iff (hne : text ≠ "") (offset : Nat) :
    offset ∈ (ofText text).starts ↔
      offset = 0 ∨ EndsLineAt (utf8 text) offset := by
  rw [ofText, mem_starts_iff, breakEndsAt_iff_endsLineAt, utf8_eq_encode]
  exact and_iff_right (toList_ne_nil hne)

theorem lineCount_ofText (hne : text ≠ "") :
    (ofText text).lineCount = (lineBreaks text.toList).ncard + 1 := by
  rw [ncard_lineBreaks, lineCount, ofText, starts_ofChars (toList_ne_nil hne)]
  rfl

theorem fallsIntoLines_cutAt (hne : text ≠ "") :
    FallsIntoLines text.toList (cutAt text.toList (ofText text).starts) := by
  obtain ⟨lines, hlines⟩ := exists_fallsIntoLines text.toList
  have hcut := hlines.cutAt_breakEnds []
  rw [ofText, starts_ofChars (toList_ne_nil hne)]
  exact hcut ▸ hlines

theorem flatten_cutAt (text : String) :
    (cutAt text.toList (ofText text).starts).flatten = text.toList := by
  by_cases hne : text = ""
  · subst hne
    rfl
  · exact (fallsIntoLines_cutAt hne).flatten_eq

/-- The table of a text is what one pass over its bytes collects. It increases, is empty for the
empty text only, and holds boundaries. The table of any other text holds zero and the offsets before
which a line ends, one entry more than there are breaks, and cuts the text into its lines. -/
theorem starts_ofText (text : String) :
    (ofText text).starts = collectStarts [] true 0 (utf8 text) ∧
    (ofText text).starts.Pairwise (· < ·) ∧
    ((ofText text).starts = [] ↔ text = "") ∧
    (∀ offset ∈ (ofText text).starts, IsBoundary text.toList offset) ∧
    (text ≠ "" →
      (∀ offset, offset ∈ (ofText text).starts ↔
        offset = 0 ∨ EndsLineAt (utf8 text) offset) ∧
      (ofText text).lineCount = (lineBreaks text.toList).ncard + 1 ∧
      FallsIntoLines text.toList (cutAt text.toList (ofText text).starts)) ∧
    (cutAt text.toList (ofText text).starts).flatten = text.toList := by
  refine ⟨starts_ofText_eq_collectStarts text, pairwise_starts text.toList,
    starts_ofText_eq_nil_iff, fun _ => isBoundary_of_mem_starts, ?_, flatten_cutAt text⟩
  intro hne
  exact ⟨mem_starts_ofText_iff hne, lineCount_ofText hne, fallsIntoLines_cutAt hne⟩

/-- Between the two `\r` a line ends, between `\r` and `\n` none does, and after the last `\r`
comes a line without characters. -/
theorem starts_ofText_returns :
    "é\r\r\n\na\r" ≠ "" ∧ (ofText "é\r\r\n\na\r").starts = [0, 3, 5, 6, 8] ∧
      EndsLineAt (utf8 "é\r\r\n\na\r") 3 ∧
      ¬ EndsLineAt (utf8 "é\r\r\n\na\r") 4 ∧
      (lineBreaks "é\r\r\n\na\r".toList).ncard = 4 ∧
      FallsIntoLines "é\r\r\n\na\r".toList
        [['é', '\r'], ['\r', '\n'], ['\n'], ['a', '\r'], []] := by
  have hne : "é\r\r\n\na\r" ≠ "" := by decide
  have hstarts : (ofText "é\r\r\n\na\r").starts = [0, 3, 5, 6, 8] := by decide
  obtain ⟨-, -, -, -, hlines, -⟩ := starts_ofText "é\r\r\n\na\r"
  obtain ⟨hends, hcount, hfalls⟩ := hlines hne
  rw [hstarts] at hends hfalls
  refine ⟨hne, hstarts, ?_, ?_, ?_, hfalls⟩
  · exact ((hends 3).mp (by decide)).resolve_left (by decide)
  · exact fun h => absurd ((hends 4).mpr (Or.inr h)) (by decide)
  · rw [lineCount, hstarts] at hcount
    exact (Nat.succ.inj hcount).symm

end LineIndex

end LanguageServer
