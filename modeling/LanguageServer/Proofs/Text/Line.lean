import LanguageServer.Proofs.Text.LineTable

/-!
# Lines of a text

A line goes from the start of the text or the end of a break up to the end of the next break or the
end of the text, so the break that ends a line belongs to it. The entries of the table are the
places where lines start, and a place is on one line only.

This module does NOT say how columns are counted.
-/

namespace LanguageServer

open Text

section Increasing

variable {l : List Nat} {i j a b : Nat}

theorem lt_of_getElem? (hl : l.Pairwise (· < ·)) (ha : l[i]? = some a) (hb : l[j]? = some b)
    (hij : i < j) : a < b := by
  obtain ⟨hi, rfl⟩ := List.getElem?_eq_some_iff.mp ha
  obtain ⟨hj, rfl⟩ := List.getElem?_eq_some_iff.mp hb
  exact List.pairwise_iff_getElem.mp hl i j hi hj hij

theorem lt_iff_of_getElem? (hl : l.Pairwise (· < ·)) (ha : l[i]? = some a) (hb : l[j]? = some b) :
    a < b ↔ i < j := by
  constructor
  · intro hab
    rcases Nat.lt_trichotomy i j with hij | rfl | hji
    · exact hij
    · rw [ha] at hb
      exact absurd (Option.some.inj hb) (Nat.ne_of_lt hab)
    · exact absurd hab (Nat.lt_asymm (lt_of_getElem? hl hb ha hji))
  · exact lt_of_getElem? hl ha hb

end Increasing

/-- A break that ends inside a part of a text ends with a character of that part. -/
theorem Text.BreakEndsAt.exists_mem {before part after : List Char} {k : Nat}
    (h : BreakEndsAt (before ++ (part ++ after)) k) (hlt : byteLength before < k)
    (hle : k ≤ byteLength before + byteLength part) : ∃ c ∈ part, c = '\n' ∨ c = '\r' := by
  obtain ⟨front, back, heq, hends, rfl⟩ := breakEndsAt_iff.mp h
  rcases List.append_eq_append_iff.mp heq with ⟨rest, hbefore, -⟩ | ⟨rest, rfl, hrest⟩
  · rw [hbefore, byteLength_append] at hlt
    omega
  · rw [byteLength_append] at hlt hle
    have hne : rest ≠ [] := by
      rintro rfl
      exact Nat.lt_irrefl _ hlt
    have hsub : ∀ c ∈ rest, c ∈ part := by
      rcases List.append_eq_append_iff.mp hrest with ⟨more, hmore, -⟩ | ⟨more, hmore, -⟩
      · have hnil : more = [] := by
          rw [hmore, byteLength_append] at hle
          apply byteLength_eq_zero_iff.mp
          omega
        rw [hmore, hnil, List.append_nil]
        exact fun _ hc => hc
      · rw [hmore]
        exact fun _ hc => List.mem_append_left _ hc
    rw [EndsLine, List.getLast?_append_of_ne_nil _ hne] at hends
    rcases hends with hlast | ⟨hlast, -⟩
    · exact ⟨_, hsub _ (List.mem_of_getLast? hlast), Or.inl rfl⟩
    · exact ⟨_, hsub _ (List.mem_of_getLast? hlast), Or.inr rfl⟩

/-- The line with a number starts where the text does or where a break ends, and stops where the
next break ends or the text does. -/
structure IsLine (cs : List Char) (line start stop : Nat) : Prop where
  number : breaksUpTo cs start = line
  starts : start = 0 ∨ BreakEndsAt cs start
  stops : stop = byteLength cs ∨ start < stop ∧ BreakEndsAt cs stop
  unbroken : ∀ k, BreakEndsAt cs k → start < k → stop ≤ k

namespace IsLine

variable {cs : List Char} {line start stop : Nat}

theorem isBoundary_start (h : IsLine cs line start stop) : IsBoundary cs start := by
  rcases h.starts with rfl | hbreak
  · exact isBoundary_zero cs
  · exact hbreak.isBoundary

theorem isBoundary_stop (h : IsLine cs line start stop) : IsBoundary cs stop := by
  rcases h.stops with rfl | ⟨-, hbreak⟩
  · exact isBoundary_byteLength cs
  · exact hbreak.isBoundary

theorem start_le_stop (h : IsLine cs line start stop) : start ≤ stop := by
  rcases h.stops with rfl | ⟨hlt, -⟩
  · exact h.isBoundary_start.le_byteLength
  · exact Nat.le_of_lt hlt

end IsLine

namespace LineIndex

variable {cs : List Char} {a b line start : Nat}

theorem mem_starts_iff : b ∈ (ofChars cs).starts ↔ cs ≠ [] ∧ (b = 0 ∨ BreakEndsAt cs b) := by
  by_cases hne : cs = []
  · subst hne
    simp [ofChars]
  · rw [starts_ofChars hne, List.mem_cons, mem_breakEnds_zero_iff]
    simp [hne]

theorem ne_nil_of_getElem? (h : (ofChars cs).starts[line]? = some start) : cs ≠ [] :=
  (mem_starts_iff.mp (List.mem_of_getElem? h)).1

theorem breakEndsAt_of_getElem? (h : (ofChars cs).starts[line + 1]? = some b) :
    BreakEndsAt cs b := by
  have hmem : b ∈ breakEnds 0 cs := by
    apply List.mem_of_getElem? (i := line)
    rwa [starts_ofChars (ne_nil_of_getElem? h), List.getElem?_cons_succ] at h
  exact mem_breakEnds_zero_iff.mp hmem

theorem OnLine.lineAt_eq (h : (ofChars cs).OnLine b line start) : (ofChars cs).lineAt b = line := by
  have hl := pairwise_starts cs
  have hreached := (le_iff_lt_length_takeWhile hl h.start_eq b).mp h.start_le
  have hlast : ¬ line + 1 < ((ofChars cs).starts.takeWhile (· ≤ b)).length := by
    intro hlt
    have hprefix := (List.takeWhile_prefix (l := (ofChars cs).starts) (· ≤ b)).length_le
    have hnext := List.getElem?_eq_getElem (Nat.lt_of_lt_of_le hlt hprefix)
    have hle := (le_iff_lt_length_takeWhile hl hnext b).mpr hlt
    exact Nat.not_lt.mpr hle (h.lt_next _ hnext)
  rw [lineAt]
  omega

theorem OnLine.lineStartAt_eq (h : (ofChars cs).OnLine b line start) :
    (ofChars cs).lineStartAt b = start := by
  have hstart := (onLine_lineAt (ne_nil_of_getElem? h.start_eq) b).start_eq
  rw [h.lineAt_eq, h.start_eq] at hstart
  exact (Option.some.inj hstart).symm

theorem lineAt_le_lineAt (cs : List Char) (hab : a ≤ b) :
    (ofChars cs).lineAt a ≤ (ofChars cs).lineAt b := by
  rw [lineAt_ofChars, lineAt_ofChars]
  exact Nat.count_monotone _ (Nat.succ_le_succ hab)

theorem lineStartAt_eq_of_lineAt_eq (h : (ofChars cs).lineAt a = (ofChars cs).lineAt b) :
    (ofChars cs).lineStartAt a = (ofChars cs).lineStartAt b := by
  by_cases hne : cs = []
  · subst hne
    rfl
  · have ha := (onLine_lineAt hne a).start_eq
    rw [h, (onLine_lineAt hne b).start_eq] at ha
    exact (Option.some.inj ha).symm

theorem onLine_start (h : (ofChars cs).starts[line]? = some start) :
    (ofChars cs).OnLine start line start :=
  ⟨h, Nat.le_refl _, fun _ hnext => lt_of_getElem? (pairwise_starts cs) h hnext (Nat.lt_succ_self _)⟩

theorem OnLine.of_unbroken (h : (ofChars cs).OnLine a line start) (hab : a ≤ b)
    (hunbroken : ∀ k, BreakEndsAt cs k → a < k → b < k) : (ofChars cs).OnLine b line start := by
  refine ⟨h.start_eq, Nat.le_trans h.start_le hab, ?_⟩
  intro next hnext
  exact hunbroken next (breakEndsAt_of_getElem? hnext) (h.lt_next next hnext)

theorem isLine_of_getElem? (h : (ofChars cs).starts[line]? = some start) :
    IsLine cs line start ((ofChars cs).starts[line + 1]?.getD (byteLength cs)) := by
  have hl := pairwise_starts cs
  have hon := onLine_start h
  obtain ⟨hne, hstart⟩ := mem_starts_iff.mp (List.mem_of_getElem? h)
  refine ⟨(lineAt_ofChars cs start).symm.trans hon.lineAt_eq, hstart, ?_, ?_⟩
  · cases hnext : (ofChars cs).starts[line + 1]? with
    | none => exact Or.inl rfl
    | some next => exact Or.inr ⟨hon.lt_next next hnext, breakEndsAt_of_getElem? hnext⟩
  · intro k hk hlt
    obtain ⟨i, hi⟩ := List.mem_iff_getElem?.mp (mem_starts_iff.mpr ⟨hne, Or.inr hk⟩)
    have hline : line < i := (lt_iff_of_getElem? hl h hi).mp hlt
    cases hnext : (ofChars cs).starts[line + 1]? with
    | none =>
      obtain ⟨hlen, -⟩ := List.getElem?_eq_some_iff.mp hi
      have hend := List.getElem?_eq_none_iff.mp hnext
      omega
    | some next =>
      apply Nat.le_of_not_lt
      intro hbefore
      have hfirst := (lt_iff_of_getElem? hl hi hnext).mp hbefore
      omega

end LineIndex

end LanguageServer
