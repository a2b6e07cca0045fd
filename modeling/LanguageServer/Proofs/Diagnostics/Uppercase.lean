import LanguageServer.Proofs.Diagnostics.Word
import Mathlib.Data.List.Sort

/-!
# The rule for upper case

The rule stands for a search with the pattern `\b[A-Z]{2,}\b`. `Matched` says what such a search
gives: one match after the other, each the leftmost one of what the match before has left, and the
longest one that starts there. It gives the words that are all in upper case, and so does the rule.

This module does NOT know other patterns.
-/

namespace LanguageServer

open Text

def IsWordBoundary (before after : List Char) : Prop :=
  before.getLast?.any isWordChar ≠ after.head?.any isWordChar

/-- How `\b[A-Z]{2,}\b` matches the part of a text between two others. -/
structure IsMatch (before part after : List Char) : Prop where
  starts : IsWordBoundary before (part ++ after)
  letters : ∀ c ∈ part, 'A' ≤ c ∧ c ≤ 'Z'
  two_le : 2 ≤ part.length
  stops : IsWordBoundary (before ++ part) after

/-- What a search gives that goes on after `before`: the matches with their offsets. -/
inductive Matched : List Char → List Char → List (Nat × List Char) → Prop where
  | done {before rest : List Char}
      (none : ∀ skipped part after, skipped ++ (part ++ after) = rest →
        ¬ IsMatch (before ++ skipped) part after) :
      Matched before rest []
  | next {before skipped part after : List Char} {found : List (Nat × List Char)}
      (isMatch : IsMatch (before ++ skipped) part after)
      (leftmost : ∀ skipped' part' after', skipped' ++ (part' ++ after') = skipped ++ (part ++ after) →
        IsMatch (before ++ skipped') part' after' → byteLength skipped ≤ byteLength skipped')
      (longest : ∀ part' after', part' ++ after' = part ++ after →
        IsMatch (before ++ skipped) part' after' → part'.length ≤ part.length)
      (later : Matched (before ++ skipped ++ part) after found) :
      Matched before (skipped ++ (part ++ after)) ((byteLength (before ++ skipped), part) :: found)

theorem isWordChar_of_letter {c : Char} (h : 'A' ≤ c ∧ c ≤ 'Z') : isWordChar c = true := by
  have htable : wordRanges = (0x30, 0x39) :: (0x41, 0x5A) :: wordRanges.drop 2 := rfl
  have hlow : 0x41 ≤ c.toNat := h.1
  have hhigh : c.toNat ≤ 0x5A := h.2
  have hdigit : ¬ c.toNat ≤ 0x39 := by omega
  rw [isWordChar, htable]
  simp [List.find?, hdigit, hhigh, hlow]

section Boundaries

variable {before part after : List Char}

theorem isWordBoundary_iff_left (hne : part ≠ []) (hpart : ∀ c ∈ part, isWordChar c = true) :
    IsWordBoundary before (part ++ after) ↔
      ∀ c, before.getLast? = some c → isWordChar c = false := by
  obtain ⟨c, rest, rfl⟩ := List.exists_cons_of_ne_nil hne
  have hc := hpart c List.mem_cons_self
  cases hlast : before.getLast? <;> simp [IsWordBoundary, hlast, hc]

theorem isWordBoundary_iff_right (hne : part ≠ []) (hpart : ∀ c ∈ part, isWordChar c = true) :
    IsWordBoundary (before ++ part) after ↔
      ∀ c, after.head? = some c → isWordChar c = false := by
  rcases part.eq_nil_or_concat with rfl | ⟨init, c, rfl⟩
  · exact (hne rfl).elim
  · have hc := hpart c (by simp)
    cases hhead : after.head? <;> simp [IsWordBoundary, hhead, hc, ← List.append_assoc]

/-- The pattern matches the words of two or more letters from `A` to `Z`. -/
theorem isMatch_iff : IsMatch before part after ↔
    IsWord before part after ∧ 2 ≤ part.length ∧ ∀ c ∈ part, 'A' ≤ c ∧ c ≤ 'Z' := by
  constructor
  · intro h
    have hne : part ≠ [] := List.ne_nil_of_length_pos (by have := h.two_le; omega)
    have hword : ∀ c ∈ part, isWordChar c = true :=
      fun c hc => isWordChar_of_letter (h.letters c hc)
    have hleft := (isWordBoundary_iff_left hne hword).mp h.starts
    have hright := (isWordBoundary_iff_right hne hword).mp h.stops
    exact ⟨⟨hne, hword, hleft, hright⟩, h.two_le, h.letters⟩
  · rintro ⟨h, htwo, hletters⟩
    exact ⟨(isWordBoundary_iff_left h.ne_nil h.isWordChar).mpr h.left, hletters, htwo,
      (isWordBoundary_iff_right h.ne_nil h.isWordChar).mpr h.right⟩

theorem IsMatch.isWord (h : IsMatch before part after) : IsWord before part after :=
  (isMatch_iff.mp h).1

end Boundaries

def MatchAt (before rest : List Char) (m : Nat × List Char) : Prop :=
  ∃ skipped after, skipped ++ (m.2 ++ after) = rest ∧ byteLength (before ++ skipped) = m.1 ∧
    IsMatch (before ++ skipped) m.2 after

section Search

variable {before skipped part after rest : List Char} {m : Nat × List Char}
  {found : List (Nat × List Char)}

theorem MatchAt.prepend (h : MatchAt (before ++ skipped ++ part) after m) :
    MatchAt before (skipped ++ (part ++ after)) m := by
  obtain ⟨gap, back, rfl, hstart, hmatch⟩ := h
  have hfront : before ++ (skipped ++ part ++ gap) = before ++ skipped ++ part ++ gap := by simp
  refine ⟨skipped ++ part ++ gap, back, by simp, ?_, ?_⟩ <;> rw [hfront]
  · exact hstart
  · exact hmatch

theorem IsMatch.eq_or_later (h : IsMatch (before ++ skipped) part after)
    (hm : MatchAt before (skipped ++ (part ++ after)) m)
    (hle : byteLength (before ++ skipped) ≤ m.1) :
    m = (byteLength (before ++ skipped), part) ∨ MatchAt (before ++ skipped ++ part) after m := by
  obtain ⟨skipped', after', heq, hstart, hmatch⟩ := hm
  have hwhole : before ++ skipped ++ (part ++ after) = before ++ skipped' ++ (m.2 ++ after') := by
    rw [List.append_assoc, List.append_assoc, heq]
  rw [← hstart] at hle
  rcases h.isWord.eq_or_later hmatch.isWord hwhole hle with ⟨hfront, hpart⟩ | ⟨gap, hfront, hafter⟩
  · rw [hfront] at hstart
    exact Or.inl (Prod.ext hstart.symm hpart)
  · rw [hfront] at hstart hmatch
    exact Or.inr ⟨gap, after', hafter.symm, hstart, hmatch⟩

theorem IsMatch.lt_of_later (h : IsMatch (before ++ skipped) part after)
    (hm : MatchAt (before ++ skipped ++ part) after m) :
    byteLength (before ++ skipped) + byteLength part < m.1 := by
  obtain ⟨gap, after', -, hstart, hmatch⟩ := hm
  have hgap := mt byteLength_eq_zero_iff.mp (h.isWord.gap_ne_nil hmatch.isWord)
  rw [byteLength_append, byteLength_append] at hstart
  omega

theorem Matched.sound (h : Matched before rest found) :
    (found.Pairwise fun a b => a.1 + byteLength a.2 < b.1) ∧
      ∀ m, m ∈ found ↔ MatchAt before rest m := by
  induction h with
  | done none =>
    refine ⟨.nil, fun m => ⟨fun hm => (List.not_mem_nil hm).elim, ?_⟩⟩
    rintro ⟨skipped, after, heq, -, hmatch⟩
    exact (none skipped m.2 after heq hmatch).elim
  | @next before skipped part after found isMatch leftmost longest later ih =>
    obtain ⟨hpairwise, hmem⟩ := ih
    refine ⟨List.pairwise_cons.mpr ⟨fun m hm => isMatch.lt_of_later ((hmem m).mp hm), hpairwise⟩, ?_⟩
    intro m
    rw [List.mem_cons, hmem]
    constructor
    · rintro (rfl | hm)
      · exact ⟨skipped, after, rfl, rfl, isMatch⟩
      · exact hm.prepend
    · intro hm
      apply isMatch.eq_or_later hm
      obtain ⟨skipped', after', heq, hstart, hmatch⟩ := hm
      have hle := leftmost skipped' m.2 after' heq hmatch
      rw [byteLength_append] at hstart ⊢
      omega

theorem matched_of_mem_iff
    (hpairwise : found.Pairwise fun a b => a.1 + byteLength a.2 < b.1)
    (hmem : ∀ m, m ∈ found ↔ MatchAt before rest m) : Matched before rest found := by
  induction found generalizing before rest with
  | nil =>
    apply Matched.done
    intro skipped part after heq hmatch
    exact List.not_mem_nil ((hmem (_, part)).mpr ⟨skipped, after, heq, rfl, hmatch⟩)
  | cons m found ih =>
    obtain ⟨start, part⟩ := m
    obtain ⟨skipped, after, rfl, rfl, hmatch⟩ := (hmem _).mp List.mem_cons_self
    obtain ⟨hfirst, hrest⟩ := List.pairwise_cons.mp hpairwise
    -- every other match is listed later, so it starts behind this one
    have hstart : ∀ m, MatchAt before (skipped ++ (part ++ after)) m →
        byteLength (before ++ skipped) ≤ m.1 := by
      intro m hm
      rcases List.mem_cons.mp ((hmem m).mpr hm) with rfl | hm
      · exact Nat.le_refl _
      · have hlt := hfirst m hm
        dsimp only at hlt
        omega
    refine Matched.next hmatch ?_ ?_ (ih hrest ?_)
    · intro skipped' part' after' heq hmatch'
      have hle := hstart (byteLength (before ++ skipped'), part') ⟨skipped', after', heq, rfl, hmatch'⟩
      rw [byteLength_append, byteLength_append] at hle
      omega
    · intro part' after' heq hmatch'
      rw [hmatch.isWord.eq_of_append_eq hmatch'.isWord heq.symm]
    · intro m
      constructor
      · intro hm
        have hlt := hfirst m hm
        have hat := (hmem m).mp (List.mem_cons_of_mem _ hm)
        rcases hmatch.eq_or_later hat (hstart m hat) with rfl | hlater
        · dsimp only at hlt
          omega
        · exact hlater
      · intro hm
        have hlt := hmatch.lt_of_later hm
        rcases List.mem_cons.mp ((hmem m).mpr hm.prepend) with rfl | hm
        · dsimp only at hlt
          omega
        · exact hm

end Search

def IsUppercaseWord (cs : List Char) (start stop : Nat) : Prop :=
  ∃ before word after, before ++ (word ++ after) = cs ∧ byteLength before = start ∧
    start + byteLength word = stop ∧ IsWord before word after ∧
    2 ≤ word.length ∧ ∀ c ∈ word, 'A' ≤ c ∧ c ≤ 'Z'

theorem isUppercaseWord_iff {cs : List Char} {start stop : Nat} :
    IsUppercaseWord cs start stop ↔
      ∃ word, MatchAt [] cs (start, word) ∧ start + byteLength word = stop := by
  constructor
  · rintro ⟨before, word, after, heq, hstart, hstop, hword⟩
    exact ⟨word, ⟨before, after, heq, hstart, isMatch_iff.mpr hword⟩, hstop⟩
  · rintro ⟨word, ⟨before, after, heq, hstart, hmatch⟩, hstop⟩
    exact ⟨before, word, after, heq, hstart, hstop, isMatch_iff.mp hmatch⟩

theorem MatchAt.slice_eq {cs : List Char} {m : Nat × List Char} (h : MatchAt [] cs m) :
    slice cs m.1 (m.1 + byteLength m.2) = m.2 := by
  obtain ⟨before, after, rfl, hstart, -⟩ := h
  rw [← hstart]
  exact slice_append before m.2 after

namespace Rule

variable {cs word : List Char} {m : Nat × List Char}

def shouted (cs : List Char) : List (Nat × List Char) :=
  (wordsFrom 0 [] cs).filter fun m => isShouted m.2

def report (m : Nat × List Char) : Finding :=
  ⟨m.1, m.1 + byteLength m.2, .ofList m.2 ++ " is all uppercase."⟩

theorem isUpper_iff {c : Char} : c.isUpper = true ↔ 'A' ≤ c ∧ c ≤ 'Z' :=
  decide_eq_true_iff

theorem isShouted_iff : isShouted word = true ↔
    2 ≤ word.length ∧ ∀ c ∈ word, 'A' ≤ c ∧ c ≤ 'Z' := by
  simp only [isShouted, Bool.and_eq_true, decide_eq_true_iff, List.all_eq_true, isUpper_iff]

theorem mem_shouted_iff : m ∈ shouted cs ↔ MatchAt [] cs m := by
  rw [shouted, List.mem_filter, isShouted_iff,
    mem_wordsFrom_iff fun _ h => (List.not_mem_nil h).elim]
  constructor
  · rintro ⟨⟨offset, ⟨before, after, heq, rfl, hword⟩, hstart⟩, hshouted⟩
    rw [Nat.zero_add] at hstart
    exact ⟨before, after, heq, hstart.symm, isMatch_iff.mpr ⟨hword, hshouted⟩⟩
  · rintro ⟨before, after, heq, hstart, hmatch⟩
    obtain ⟨hword, hshouted⟩ := isMatch_iff.mp hmatch
    exact ⟨⟨m.1, ⟨before, after, heq, hstart, hword⟩, (Nat.zero_add _).symm⟩, hshouted⟩

theorem pairwise_shouted (cs : List Char) :
    (shouted cs).Pairwise fun a b => a.1 + byteLength a.2 < b.1 :=
  (pairwise_wordsFrom 0 [] cs).filter _

theorem matched_iff {found : List (Nat × List Char)} :
    Matched [] cs found ↔ found = shouted cs := by
  constructor
  · intro h
    obtain ⟨hpairwise, hmem⟩ := h.sound
    have hirrefl : Std.Irrefl fun a b : Nat × List Char => a.1 + byteLength a.2 < b.1 :=
      ⟨fun _ h => by omega⟩
    have hantisymm : Std.Antisymm fun a b : Nat × List Char => a.1 + byteLength a.2 < b.1 :=
      ⟨fun _ _ h h' => by omega⟩
    apply hpairwise.eq_of_mem_iff (pairwise_shouted cs)
    intro m
    rw [hmem, mem_shouted_iff]
  · rintro rfl
    exact matched_of_mem_iff (pairwise_shouted cs) fun _ => mem_shouted_iff

theorem mem_map_report_iff {finding : Finding} : finding ∈ (shouted cs).map report ↔
    IsUppercaseWord cs finding.start finding.stop ∧ finding.message =
      .ofList (slice cs finding.start finding.stop) ++ " is all uppercase." := by
  obtain ⟨start, stop, message⟩ := finding
  rw [List.mem_map, isUppercaseWord_iff]
  dsimp only
  constructor
  · rintro ⟨⟨_, word⟩, hm, heq⟩
    obtain ⟨rfl, rfl, rfl⟩ := Finding.mk.inj heq
    have hat := mem_shouted_iff.mp hm
    refine ⟨⟨word, hat, rfl⟩, ?_⟩
    rw [hat.slice_eq]
  · rintro ⟨⟨word, hat, rfl⟩, hmessage⟩
    refine ⟨(start, word), mem_shouted_iff.mpr hat, ?_⟩
    rw [report, hmessage, hat.slice_eq]

/-- The rule reports every word of two or more letters from `A` to `Z`, once and from left to
right, with something between two of them. That is what a search with the pattern gives. -/
theorem check_uppercase (text : String) :
    ((uppercase.check text).Pairwise fun a b => a.stop < b.start) ∧
      (∀ finding, finding ∈ uppercase.check text ↔
        IsUppercaseWord text.toList finding.start finding.stop ∧ finding.message =
          .ofList (slice text.toList finding.start finding.stop) ++ " is all uppercase.") ∧
      ∃ found, (∀ other, Matched [] text.toList other ↔ other = found) ∧
        uppercase.check text = found.map report := by
  have hcheck : uppercase.check text = (shouted text.toList).map report := rfl
  rw [hcheck]
  refine ⟨?_, fun _ => mem_map_report_iff, shouted text.toList, fun _ => matched_iff, rfl⟩
  exact List.pairwise_map.mpr (pairwise_shouted text.toList)

end Rule

end LanguageServer
