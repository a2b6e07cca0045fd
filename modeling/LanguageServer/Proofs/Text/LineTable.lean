import LanguageServer.Proofs.Text.LineBreak
import Mathlib.Data.Nat.Count

/-!
# Looking an offset up in the table of line starts

The part of the table that an offset has reached ends with the start of its line. On the text alone
it is counted and found as well: it has one entry beyond the first for each line break that ends at
or before the offset, and the last of these ends starts the line.
-/

namespace LanguageServer

open Text

section Increasing
variable {l : List Nat}

theorem takeWhile_le_eq_filter (hl : l.Pairwise (· < ·)) (bound : Nat) :
    l.takeWhile (· ≤ bound) = l.filter (· ≤ bound) := by
  induction l with
  | nil => rfl
  | cons a as ih =>
    obtain ⟨ha, has⟩ := List.pairwise_cons.mp hl
    by_cases hle : a ≤ bound
    · simp [hle, ih has]
    · have hnone : as.filter (· ≤ bound) = [] := by
        rw [List.filter_eq_nil_iff]
        intro e he
        have := ha e he
        simp only [decide_eq_true_eq]
        omega
      simp [hle, hnone]

/-- An entry is within a bound exactly when its number is below that of the entries within it. -/
theorem le_iff_lt_length_takeWhile (hl : l.Pairwise (· < ·)) {i e : Nat} (he : l[i]? = some e)
    (bound : Nat) : e ≤ bound ↔ i < (l.takeWhile (· ≤ bound)).length := by
  induction l generalizing i with
  | nil => cases he
  | cons a as ih =>
    obtain ⟨ha, has⟩ := List.pairwise_cons.mp hl
    cases i with
    | zero =>
      obtain rfl : a = e := Option.some.inj he
      by_cases hle : a ≤ bound <;> simp [hle]
    | succ i =>
      rw [List.getElem?_cons_succ] at he
      by_cases hle : a ≤ bound
      · simpa [hle] using ih has he
      · have := ha e (List.mem_of_getElem? he)
        simp only [hle, decide_false, Bool.false_eq_true, not_false_eq_true,
          List.takeWhile_cons_of_neg, List.length_nil, Nat.not_lt_zero, iff_false]
        omega

theorem length_filter_range (p : Nat → Prop) [DecidablePred p] (n : Nat) :
    ((List.range n).filter p).length = Nat.count p n := by
  induction n with
  | zero => simp
  | succ n ih =>
    rw [List.range_succ, List.filter_append, List.length_append, ih, Nat.count_succ]
    by_cases hn : p n <;> simp [hn]

theorem getLast?_filter_range (p : Nat → Prop) [DecidablePred p] (n : Nat) :
    ((List.range (n + 1)).filter p).getLast?.getD 0 = Nat.findGreatest p n := by
  induction n with
  | zero => by_cases h : p 0 <;> simp [h]
  | succ n ih =>
    rw [List.range_succ, List.filter_append, Nat.findGreatest_succ]
    by_cases hn : p (n + 1)
    · simp [hn]
    · simpa [hn] using ih

end Increasing

def breaksUpTo (cs : List Char) (place : Nat) : Nat := Nat.count (BreakEndsAt cs) (place + 1)

/-- End of the last line break that ends at or before a place, or the start of the text. -/
def lastBreakEnd (cs : List Char) (place : Nat) : Nat := Nat.findGreatest (BreakEndsAt cs) place

namespace LineIndex

def lineAt (index : LineIndex) (offset : Nat) : Nat :=
  (index.starts.takeWhile (· ≤ offset)).length - 1

def lineStartAt (index : LineIndex) (offset : Nat) : Nat :=
  (index.starts.takeWhile (· ≤ offset)).getLast?.getD 0

structure OnLine (index : LineIndex) (offset line start : Nat) : Prop where
  start_eq : index.starts[line]? = some start
  start_le : start ≤ offset
  lt_next : ∀ next, index.starts[line + 1]? = some next → offset < next

variable {cs : List Char} {offset : Nat}

theorem starts_ofChars (hne : cs ≠ []) : (ofChars cs).starts = 0 :: breakEnds 0 cs := by
  cases cs with
  | nil => exact absurd rfl hne
  | cons c cs => rfl

theorem pairwise_starts (cs : List Char) : (ofChars cs).starts.Pairwise (· < ·) := by
  cases cs with
  | nil => exact .nil
  | cons c cs => exact .cons (fun _ => lt_of_mem_breakEnds) (pairwise_breakEnds 0 _)

theorem isBoundary_of_mem_starts {b : Nat} (h : b ∈ (ofChars cs).starts) : IsBoundary cs b := by
  cases cs with
  | nil => cases h
  | cons c cs =>
    rcases List.mem_cons.mp h with rfl | hb
    · exact isBoundary_zero _
    · exact (mem_breakEnds_zero_iff.mp hb).isBoundary

theorem takeWhile_breakEnds (cs : List Char) (offset : Nat) :
    (breakEnds 0 cs).takeWhile (· ≤ offset) = (List.range (offset + 1)).filter (BreakEndsAt cs) := by
  have hl := pairwise_breakEnds 0 cs
  rw [takeWhile_le_eq_filter hl]
  apply List.Pairwise.eq_of_mem_iff (hl.sublist List.filter_sublist)
    (List.pairwise_lt_range.sublist List.filter_sublist)
  intro e
  simp only [List.mem_filter, mem_breakEnds_zero_iff, List.mem_range, decide_eq_true_eq,
    Nat.lt_succ_iff]
  exact And.comm

theorem takeWhile_starts (hne : cs ≠ []) (offset : Nat) :
    (ofChars cs).starts.takeWhile (· ≤ offset) = 0 :: (breakEnds 0 cs).takeWhile (· ≤ offset) := by
  rw [starts_ofChars hne]
  exact List.takeWhile_cons_of_pos (by simp)

theorem lineAt_ofChars (cs : List Char) (offset : Nat) :
    (ofChars cs).lineAt offset = breaksUpTo cs offset := by
  rw [breaksUpTo, ← length_filter_range, ← takeWhile_breakEnds]
  by_cases hne : cs = []
  · subst hne
    rfl
  · rw [lineAt, takeWhile_starts hne, List.length_cons, Nat.add_sub_cancel]

theorem lineStartAt_ofChars (cs : List Char) (offset : Nat) :
    (ofChars cs).lineStartAt offset = lastBreakEnd cs offset := by
  rw [lastBreakEnd, ← getLast?_filter_range, ← takeWhile_breakEnds]
  by_cases hne : cs = []
  · subst hne
    rfl
  · rw [lineStartAt, takeWhile_starts hne, List.getLast?_cons, Option.getD_some]

theorem lineAt_le (cs : List Char) (offset : Nat) : (ofChars cs).lineAt offset ≤ offset := by
  rw [lineAt_ofChars, breaksUpTo]
  apply Nat.le_of_lt_succ
  apply Nat.lt_of_le_of_ne (Nat.count_le _)
  intro hall
  have hzero := Nat.count_iff_forall.mp hall 0 (Nat.succ_pos offset)
  exact absurd hzero.pos (Nat.lt_irrefl 0)

theorem onLine_lineAt (hne : cs ≠ []) (offset : Nat) :
    (ofChars cs).OnLine offset ((ofChars cs).lineAt offset) ((ofChars cs).lineStartAt offset) := by
  have hl := pairwise_starts cs
  have hlen : (ofChars cs).lineAt offset + 1 =
      ((ofChars cs).starts.takeWhile (· ≤ offset)).length := by
    rw [lineAt, takeWhile_starts hne, List.length_cons, Nat.add_sub_cancel]
  have hstart : (ofChars cs).starts[(ofChars cs).lineAt offset]? =
      some ((ofChars cs).lineStartAt offset) := by
    obtain ⟨rest, hrest⟩ := List.takeWhile_prefix (l := (ofChars cs).starts) (· ≤ offset)
    rw [← hrest, List.getElem?_append_left (by omega), lineAt, ← List.getLast?_eq_getElem?,
      lineStartAt, takeWhile_starts hne, List.getLast?_cons, Option.getD_some]
  refine ⟨hstart, ?_, ?_⟩
  · rw [le_iff_lt_length_takeWhile hl hstart, ← hlen]
    exact Nat.lt_succ_self _
  · intro next hnext
    rw [← Nat.not_le, le_iff_lt_length_takeWhile hl hnext, ← hlen]
    exact Nat.lt_irrefl _

theorem lineStartAt_le (cs : List Char) (offset : Nat) : (ofChars cs).lineStartAt offset ≤ offset := by
  rw [lineStartAt_ofChars]
  exact Nat.findGreatest_le offset

theorem isBoundary_lineStartAt (cs : List Char) (offset : Nat) :
    IsBoundary cs ((ofChars cs).lineStartAt offset) := by
  by_cases hne : cs = []
  · subst hne
    exact isBoundary_zero []
  · exact isBoundary_of_mem_starts (List.mem_of_getElem? (onLine_lineAt hne offset).start_eq)

end LineIndex

end LanguageServer
