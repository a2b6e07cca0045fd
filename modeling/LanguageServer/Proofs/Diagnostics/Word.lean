import LanguageServer.Diagnostics.Rule
import LanguageServer.Proofs.Text.Boundary

/-!
# Words of a text

A word is a maximal run of word characters. Two words of a text are the same, or one ends before the
other begins and something stands between them. The scan finds the words in order and misses none.

This module does NOT know which characters form words, beyond the letters from `A` to `Z`.
-/

namespace LanguageServer

open Text

/-- A word in a text, together with what stands before and after it. -/
structure IsWord (before word after : List Char) : Prop where
  ne_nil : word ≠ []
  isWordChar : ∀ c ∈ word, isWordChar c = true
  left : ∀ c, before.getLast? = some c → Text.isWordChar c = false
  right : ∀ c, after.head? = some c → Text.isWordChar c = false

def WordAt (cs : List Char) (start : Nat) (word : List Char) : Prop :=
  ∃ before after, before ++ (word ++ after) = cs ∧ byteLength before = start ∧
    IsWord before word after

namespace IsWord

variable {before word after before' word' after' : List Char}

theorem eq_nil_of_left {front part : List Char} (h : IsWord (front ++ part) word after)
    (hpart : ∀ c ∈ part, Text.isWordChar c = true) : part = [] := by
  rcases part.eq_nil_or_concat with rfl | ⟨init, c, rfl⟩
  · rfl
  · have hlast := h.left c (by simp)
    rw [hpart c (by simp)] at hlast
    cases hlast

theorem eq_nil_of_right {part back : List Char} (h : IsWord before word (part ++ back))
    (hpart : ∀ c ∈ part, Text.isWordChar c = true) : part = [] := by
  rcases part with _ | ⟨c, part⟩
  · rfl
  · have hhead := h.right c rfl
    rw [hpart c List.mem_cons_self] at hhead
    cases hhead

theorem eq_of_append_eq (h : IsWord before word after) (h' : IsWord before' word' after')
    (heq : word ++ after = word' ++ after') : word' = word := by
  rcases List.append_eq_append_iff.mp heq with ⟨part, rfl, rfl⟩ | ⟨part, rfl, rfl⟩
  · have hpart := h.eq_nil_of_right fun c hc => h'.isWordChar c (List.mem_append_right _ hc)
    rw [hpart, List.append_nil]
  · have hpart := h'.eq_nil_of_right fun c hc => h.isWordChar c (List.mem_append_right _ hc)
    rw [hpart, List.append_nil]

theorem eq_or_later (h : IsWord before word after) (h' : IsWord before' word' after')
    (heq : before ++ (word ++ after) = before' ++ (word' ++ after'))
    (hle : byteLength before ≤ byteLength before') :
    (before' = before ∧ word' = word) ∨
      ∃ gap, before' = before ++ word ++ gap ∧ after = gap ++ (word' ++ after') := by
  obtain ⟨part, rfl, hrest⟩ : ∃ part, before' = before ++ part ∧
      word ++ after = part ++ (word' ++ after') := by
    rcases List.append_eq_append_iff.mp heq with ⟨part, hbefore, hrest⟩ | ⟨part, rfl, hrest⟩
    · exact ⟨part, hbefore, hrest⟩
    · have hpart : part = [] := by
        rw [byteLength_append] at hle
        apply byteLength_eq_zero_iff.mp
        omega
      subst hpart
      exact ⟨[], by simp, hrest.symm⟩
  rcases List.append_eq_append_iff.mp hrest with ⟨gap, rfl, hafter⟩ | ⟨part', rfl, hrest'⟩
  · exact Or.inr ⟨gap, by simp, hafter⟩
  · -- a word that started inside the first one would have a word character before it
    have hpart := h'.eq_nil_of_left fun c hc => h.isWordChar c (List.mem_append_left _ hc)
    subst hpart
    rw [List.nil_append] at hrest
    exact Or.inl ⟨by simp, h.eq_of_append_eq h' hrest⟩

theorem gap_ne_nil {gap : List Char} (h : IsWord before word after)
    (h' : IsWord (before ++ word ++ gap) word' after') : gap ≠ [] := by
  rintro rfl
  rw [List.append_nil] at h'
  exact h.ne_nil (h'.eq_nil_of_left h.isWordChar)

end IsWord

section Scan

variable {start : Nat} {c : Char} {cs word run : List Char}

theorem isWord_append_cons_iff (hc : isWordChar c = false) {front before after : List Char} :
    IsWord (front ++ c :: before) word after ↔ IsWord before word after := by
  have hleft : (∀ d, (front ++ c :: before).getLast? = some d → isWordChar d = false) ↔
      ∀ d, before.getLast? = some d → isWordChar d = false := by
    cases hlast : before.getLast? <;>
      simp [List.getLast?_append, List.getLast?_cons, hlast, hc]
  constructor
  · intro h
    exact ⟨h.ne_nil, h.isWordChar, hleft.mp h.left, h.right⟩
  · intro h
    exact ⟨h.ne_nil, h.isWordChar, hleft.mpr h.left, h.right⟩

theorem isWord_run (hne : run ≠ []) (hrun : ∀ c ∈ run, isWordChar c = true)
    (hright : ∀ c, cs.head? = some c → isWordChar c = false) : IsWord [] run cs :=
  ⟨hne, hrun, fun _ h => (Option.some_ne_none _ h.symm).elim, hright⟩

theorem IsWord.eq_run_or_later {before after : List Char} (h : IsWord before word after)
    (hrun : ∀ c ∈ run, Text.isWordChar c = true)
    (hright : ∀ c, cs.head? = some c → Text.isWordChar c = false)
    (heq : before ++ (word ++ after) = run ++ cs) :
    (run ≠ [] ∧ before = [] ∧ word = run) ∨
      ∃ gap, before = run ++ gap ∧ gap ++ (word ++ after) = cs := by
  by_cases hne : run = []
  · subst hne
    exact Or.inr ⟨before, rfl, heq⟩
  · rcases (isWord_run hne hrun hright).eq_or_later h heq.symm (Nat.zero_le _) with
      ⟨hbefore, hword⟩ | ⟨gap, hbefore, hcs⟩
    · exact Or.inl ⟨hne, hbefore, hword⟩
    · exact Or.inr ⟨gap, hbefore, hcs.symm⟩

theorem wordAt_run_iff (hrun : ∀ c ∈ run, isWordChar c = true) {offset : Nat} :
    WordAt run offset word ↔ run ≠ [] ∧ offset = 0 ∧ word = run := by
  have hright : ∀ c, ([] : List Char).head? = some c → isWordChar c = false := by
    intro c hc
    cases hc
  constructor
  · rintro ⟨before, after, heq, rfl, h⟩
    rw [← List.append_nil run] at heq
    rcases h.eq_run_or_later hrun hright heq with ⟨hne, rfl, hword⟩ | ⟨gap, -, hgap⟩
    · exact ⟨hne, rfl, hword⟩
    · simp [h.ne_nil] at hgap
  · rintro ⟨hne, rfl, rfl⟩
    exact ⟨[], [], List.append_nil _, rfl, isWord_run hne hrun hright⟩

theorem wordAt_run_append_cons_iff (hrun : ∀ c ∈ run, isWordChar c = true)
    (hc : isWordChar c = false) {offset : Nat} :
    WordAt (run ++ c :: cs) offset word ↔ (run ≠ [] ∧ offset = 0 ∧ word = run) ∨
      ∃ later, WordAt cs later word ∧ offset = byteLength run + c.utf8Size + later := by
  have hright : ∀ d, (c :: cs).head? = some d → isWordChar d = false := by
    intro d hd
    obtain rfl := Option.some.inj hd
    exact hc
  constructor
  · rintro ⟨before, after, heq, rfl, h⟩
    rcases h.eq_run_or_later hrun hright heq with ⟨hne, rfl, hword⟩ | ⟨gap, rfl, hgap⟩
    · exact Or.inl ⟨hne, rfl, hword⟩
    · rcases gap with _ | ⟨d, gap⟩
      · obtain ⟨d, rest, rfl⟩ := List.exists_cons_of_ne_nil h.ne_nil
        obtain ⟨rfl, -⟩ := List.cons.inj hgap
        rw [h.isWordChar d List.mem_cons_self] at hc
        cases hc
      · obtain ⟨rfl, hcs⟩ := List.cons.inj hgap
        refine Or.inr ⟨byteLength gap, ⟨gap, after, hcs, rfl, (isWord_append_cons_iff hc).mp h⟩, ?_⟩
        rw [byteLength_append, Nat.add_assoc]
        rfl
  · rintro (⟨hne, rfl, rfl⟩ | ⟨later, ⟨before, after, rfl, rfl, h⟩, rfl⟩)
    · exact ⟨[], c :: cs, rfl, rfl, isWord_run hne hrun hright⟩
    · refine ⟨run ++ c :: before, after, by simp, ?_, (isWord_append_cons_iff hc).mpr h⟩
      rw [byteLength_append, Nat.add_assoc]
      rfl

end Scan

namespace Rule

variable {start : Nat} {cs run : List Char} {found : Nat × List Char}

theorem mem_closeWord_iff : found ∈ closeWord start run ↔ run ≠ [] ∧ found = (start, run) := by
  unfold closeWord
  cases run <;> simp

/-- The scan finds the words of a text and nothing else. -/
theorem mem_wordsFrom_iff (hrun : ∀ c ∈ run, isWordChar c = true) :
    found ∈ wordsFrom start run cs ↔
      ∃ offset, WordAt (run ++ cs) offset found.2 ∧ found.1 = start + offset := by
  obtain ⟨place, word⟩ := found
  fun_induction wordsFrom start run cs with
  | case1 start run =>
    simp only [mem_closeWord_iff, List.append_nil, wordAt_run_iff hrun, Prod.mk.injEq]
    constructor
    · rintro ⟨hne, rfl, rfl⟩
      exact ⟨0, ⟨hne, rfl, rfl⟩, rfl⟩
    · rintro ⟨_, ⟨hne, rfl, rfl⟩, rfl⟩
      exact ⟨hne, rfl, rfl⟩
  | case2 start run c cs hc ih =>
    have hlonger : ∀ d ∈ run ++ [c], isWordChar d = true := by
      intro d hd
      rcases List.mem_append.mp hd with hd | hd
      · exact hrun d hd
      · obtain rfl := List.mem_singleton.mp hd
        exact hc
    rw [ih hlonger, List.append_assoc]
    rfl
  | case3 start run c cs hc ih =>
    have hc : isWordChar c = false := Bool.eq_false_iff.mpr hc
    simp only [List.mem_append, mem_closeWord_iff, wordAt_run_append_cons_iff hrun hc,
      ih (fun _ h => (List.not_mem_nil h).elim), List.nil_append, Prod.mk.injEq]
    constructor
    · rintro (⟨hne, rfl, rfl⟩ | ⟨later, hword, rfl⟩)
      · exact ⟨0, Or.inl ⟨hne, rfl, rfl⟩, rfl⟩
      · exact ⟨_, Or.inr ⟨later, hword, rfl⟩, by omega⟩
    · rintro ⟨_, ⟨hne, rfl, rfl⟩ | ⟨later, hword, rfl⟩, rfl⟩
      · exact Or.inl ⟨hne, rfl, rfl⟩
      · exact Or.inr ⟨later, hword, by omega⟩

/-- Something stands between two words that the scan finds. -/
theorem pairwise_wordsFrom (start : Nat) (run cs : List Char) :
    (wordsFrom start run cs).Pairwise fun a b => a.1 + byteLength a.2 < b.1 := by
  fun_induction wordsFrom start run cs with
  | case1 start run =>
    unfold closeWord
    split <;> simp
  | case2 start run c cs hc ih => exact ih
  | case3 start run c cs hc ih =>
    refine List.pairwise_append.mpr ⟨?_, ih, ?_⟩
    · unfold closeWord
      split <;> simp
    · -- the character that ended the run stands between
      intro a ha b hb
      obtain ⟨-, rfl⟩ := mem_closeWord_iff.mp ha
      obtain ⟨offset, -, hb⟩ := (mem_wordsFrom_iff fun _ h => (List.not_mem_nil h).elim).mp hb
      have hpos := c.utf8Size_pos
      dsimp only
      omega

end Rule

end LanguageServer
