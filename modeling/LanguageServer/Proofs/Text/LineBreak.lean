import LanguageServer.Proofs.Text.Boundary
import LanguageServer.Text.LineIndex
import Mathlib.Data.List.Sort

/-!
# Line breaks and the table of line starts

A line break is a `\r\n`, a `\n` that no `\r` precedes or a `\r` that no `\n` follows. The table of
a text holds zero and the offsets at which its breaks end, in increasing order and each once.

The meaning of a break looks at the characters on both sides of it, whereas the table is built from
the left; `breakEndsAt_cons` is where the two meet.
-/

namespace LanguageServer.Text

/-- The characters in the middle are one whole line break of the text around them. -/
inductive IsBreak : List Char → List Char → List Char → Prop where
  | pair (before after : List Char) : IsBreak before ['\r', '\n'] after
  | lineFeed {before after : List Char} : before.getLast? ≠ some '\r' → IsBreak before ['\n'] after
  | carriageReturn {before after : List Char} : after.head? ≠ some '\n' → IsBreak before ['\r'] after

def BreakEndsAt (cs : List Char) (offset : Nat) : Prop :=
  ∃ before brk after, before ++ (brk ++ after) = cs ∧ IsBreak before brk after ∧
    byteLength (before ++ brk) = offset

def EndsLine (before after : List Char) : Prop :=
  before.getLast? = some '\n' ∨ before.getLast? = some '\r' ∧ after.head? ≠ some '\n'

instance (before after : List Char) : Decidable (EndsLine before after) :=
  inferInstanceAs (Decidable (_ ∨ _ ∧ _))

theorem IsBreak.endsLine {before brk after : List Char} (h : IsBreak before brk after) :
    EndsLine (before ++ brk) after := by
  cases h with
  | pair => exact Or.inl (by simp)
  | lineFeed => exact Or.inl (by simp)
  | carriageReturn hafter => exact Or.inr ⟨by simp, hafter⟩

theorem EndsLine.exists_isBreak {before after : List Char} (h : EndsLine before after) :
    ∃ start brk, start ++ brk = before ∧ IsBreak start brk after := by
  rcases h with hlast | ⟨hlast, hafter⟩
  · obtain ⟨start, rfl⟩ := List.getLast?_eq_some_iff.mp hlast
    by_cases hstart : start.getLast? = some '\r'
    · obtain ⟨front, rfl⟩ := List.getLast?_eq_some_iff.mp hstart
      exact ⟨front, ['\r', '\n'], by simp, .pair front after⟩
    · exact ⟨start, ['\n'], rfl, .lineFeed hstart⟩
  · obtain ⟨start, rfl⟩ := List.getLast?_eq_some_iff.mp hlast
    exact ⟨start, ['\r'], rfl, .carriageReturn hafter⟩

/-- Two breaks never end at the same place, so counting their ends counts them. -/
theorem IsBreak.unique {start start' brk brk' after : List Char}
    (h : IsBreak start brk after) (h' : IsBreak start' brk' after)
    (heq : start ++ brk = start' ++ brk') : start = start' ∧ brk = brk' := by
  cases h with
  | pair =>
    cases h' with
    | pair => exact ⟨List.append_cancel_right heq, rfl⟩
    | lineFeed hstart' =>
      have hfront : start ++ ['\r'] = start' :=
        List.append_cancel_right ((List.append_assoc start ['\r'] ['\n']).trans heq)
      exact absurd (by simp [← hfront]) hstart'
    | carriageReturn => exact absurd (congrArg List.getLast? heq) (by simp)
  | lineFeed hstart =>
    cases h' with
    | pair =>
      have hfront : start = start' ++ ['\r'] :=
        List.append_cancel_right (heq.trans (List.append_assoc start' ['\r'] ['\n']).symm)
      exact absurd (by simp [hfront]) hstart
    | lineFeed => exact ⟨List.append_cancel_right heq, rfl⟩
    | carriageReturn => exact absurd (congrArg List.getLast? heq) (by simp)
  | carriageReturn =>
    cases h' with
    | pair => exact absurd (congrArg List.getLast? heq) (by simp)
    | lineFeed => exact absurd (congrArg List.getLast? heq) (by simp)
    | carriageReturn => exact ⟨List.append_cancel_right heq, rfl⟩

theorem breakEndsAt_iff {cs : List Char} {offset : Nat} :
    BreakEndsAt cs offset ↔
      ∃ before after, before ++ after = cs ∧ EndsLine before after ∧ byteLength before = offset := by
  constructor
  · rintro ⟨before, brk, after, rfl, hbrk, hlen⟩
    exact ⟨before ++ brk, after, List.append_assoc _ _ _, hbrk.endsLine, hlen⟩
  · rintro ⟨before, after, rfl, hends, hlen⟩
    obtain ⟨start, brk, rfl, hbrk⟩ := hends.exists_isBreak
    exact ⟨start, brk, after, (List.append_assoc _ _ _).symm, hbrk, hlen⟩

theorem breakEndsAt_iff_endsLine {cs : List Char} {offset : Nat} :
    BreakEndsAt cs offset ↔ IsBoundary cs offset ∧
      EndsLine (takeWidth Char.utf8Size offset cs) (dropWidth Char.utf8Size offset cs) := by
  rw [breakEndsAt_iff]
  constructor
  · rintro ⟨before, after, rfl, hends, rfl⟩
    rw [takeWidth_width_append Char.utf8Size_pos, dropWidth_width_append Char.utf8Size_pos]
    exact ⟨⟨before, after, rfl, rfl⟩, hends⟩
  · rintro ⟨hbound, hends⟩
    exact ⟨_, _, takeWidth_append_dropWidth _ _ _, hends, hbound.floorBoundary_eq⟩

instance {cs : List Char} : DecidablePred (BreakEndsAt cs) := fun _ =>
  decidable_of_iff' _ breakEndsAt_iff_endsLine

theorem BreakEndsAt.isBoundary {cs : List Char} {offset : Nat} (h : BreakEndsAt cs offset) :
    IsBoundary cs offset := by
  obtain ⟨before, after, hcs, _, hlen⟩ := breakEndsAt_iff.mp h
  exact ⟨before, after, hcs, hlen⟩

theorem not_endsLine_nil (after : List Char) : ¬ EndsLine [] after := by simp [EndsLine]

theorem endsLine_cons {before : List Char} (hne : before ≠ []) (c : Char) (after : List Char) :
    EndsLine (c :: before) after ↔ EndsLine before after := by
  rw [EndsLine, EndsLine, List.getLast?_cons_of_ne_nil hne]

theorem endsLine_singleton (c : Char) (after : List Char) :
    EndsLine [c] after ↔ c = '\n' ∨ c = '\r' ∧ after.head? ≠ some '\n' := by
  simp [EndsLine]

theorem not_breakEndsAt_nil (offset : Nat) : ¬ BreakEndsAt [] offset := by
  intro h
  obtain ⟨before, after, hcs, hends, _⟩ := breakEndsAt_iff.mp h
  obtain ⟨rfl, rfl⟩ := List.append_eq_nil_iff.mp hcs
  exact not_endsLine_nil [] hends

theorem BreakEndsAt.pos {cs : List Char} {offset : Nat} (h : BreakEndsAt cs offset) :
    0 < offset := by
  obtain ⟨before, after, _, hends, rfl⟩ := breakEndsAt_iff.mp h
  apply Nat.pos_of_ne_zero
  intro hzero
  rw [byteLength_eq_zero_iff.mp hzero] at hends
  exact not_endsLine_nil after hends

theorem breakEndsAt_cons {c : Char} {cs : List Char} {offset : Nat} :
    BreakEndsAt (c :: cs) offset ↔
      EndsLine [c] cs ∧ offset = c.utf8Size ∨
        ∃ rest, BreakEndsAt cs rest ∧ offset = c.utf8Size + rest := by
  simp only [breakEndsAt_iff]
  constructor
  · rintro ⟨before, after, hcs, hends, rfl⟩
    cases before with
    | nil => exact absurd hends (not_endsLine_nil after)
    | cons d before =>
      obtain ⟨rfl, rfl⟩ := List.cons.inj hcs
      cases before with
      | nil => exact Or.inl ⟨hends, rfl⟩
      | cons d' before =>
        rw [endsLine_cons (List.cons_ne_nil _ _)] at hends
        exact Or.inr ⟨_, ⟨d' :: before, after, rfl, hends, rfl⟩, rfl⟩
  · rintro (⟨hends, rfl⟩ | ⟨_, ⟨before, after, rfl, hends, rfl⟩, rfl⟩)
    · exact ⟨[c], cs, rfl, hends, rfl⟩
    · have hne : before ≠ [] := by
        rintro rfl
        exact not_endsLine_nil after hends
      exact ⟨c :: before, after, rfl, (endsLine_cons hne c after).mpr hends, rfl⟩

theorem exists_breakEndsAt_cons {c : Char} {cs : List Char} {offset e : Nat} :
    (∃ k, BreakEndsAt (c :: cs) k ∧ e = offset + k) ↔
      EndsLine [c] cs ∧ e = offset + c.utf8Size ∨
        ∃ k, BreakEndsAt cs k ∧ e = offset + c.utf8Size + k := by
  simp only [breakEndsAt_cons]
  constructor
  · rintro ⟨k, ⟨hends, rfl⟩ | ⟨rest, hrest, rfl⟩, rfl⟩
    · exact Or.inl ⟨hends, rfl⟩
    · exact Or.inr ⟨rest, hrest, (Nat.add_assoc _ _ _).symm⟩
  · rintro (⟨hends, rfl⟩ | ⟨rest, hrest, rfl⟩)
    · exact ⟨_, Or.inl ⟨hends, rfl⟩, rfl⟩
    · exact ⟨_, Or.inr ⟨rest, hrest, rfl⟩, Nat.add_assoc _ _ _⟩

/-- The scan from the left finds the ends of all breaks and nothing else. -/
theorem mem_breakEnds_iff {offset e : Nat} {cs : List Char} :
    e ∈ breakEnds offset cs ↔ ∃ k, BreakEndsAt cs k ∧ e = offset + k := by
  fun_induction breakEnds offset cs with
  | case1 offset => simp [not_breakEndsAt_nil]
  | case2 offset cs ih =>
    have hr : ¬ EndsLine ['\r'] ('\n' :: cs) := by simp [endsLine_singleton]
    have hn : EndsLine ['\n'] cs := (endsLine_singleton _ _).mpr (Or.inl rfl)
    rw [List.mem_cons, ih, exists_breakEndsAt_cons, exists_breakEndsAt_cons]
    simp only [hr, hn, false_and, true_and, false_or]
    rfl
  | case3 offset c cs hpair hc ih =>
    have hends : EndsLine [c] cs := by
      rw [endsLine_singleton]
      refine hc.imp_right fun hr => ⟨hr, fun hhead => ?_⟩
      obtain ⟨rest, rfl⟩ := List.head?_eq_some_iff.mp hhead
      exact hpair rest hr rfl
    have hsize : c.utf8Size = 1 := by
      rcases hc with rfl | rfl <;> rfl
    rw [List.mem_cons, ih, exists_breakEndsAt_cons, hsize]
    simp only [hends, true_and]
  | case4 offset c cs hpair hc ih =>
    have hends : ¬ EndsLine [c] cs := by
      rw [endsLine_singleton]
      exact fun h => hc (h.imp_right And.left)
    rw [ih, exists_breakEndsAt_cons]
    simp only [hends, false_and, false_or]

theorem lt_of_mem_breakEnds {offset e : Nat} {cs : List Char} (h : e ∈ breakEnds offset cs) :
    offset < e := by
  obtain ⟨k, hk, rfl⟩ := mem_breakEnds_iff.mp h
  exact Nat.lt_add_of_pos_right hk.pos

theorem pairwise_breakEnds (offset : Nat) (cs : List Char) :
    (breakEnds offset cs).Pairwise (· < ·) := by
  fun_induction breakEnds offset cs with
  | case1 => exact .nil
  | case2 offset cs ih => exact .cons (fun _ => lt_of_mem_breakEnds) ih
  | case3 offset c cs hpair hc ih => exact .cons (fun _ => lt_of_mem_breakEnds) ih
  | case4 offset c cs hpair hc ih => exact ih

theorem mem_breakEnds_zero_iff {cs : List Char} {e : Nat} :
    e ∈ breakEnds 0 cs ↔ BreakEndsAt cs e := by
  simp [mem_breakEnds_iff]

end LanguageServer.Text
