import LanguageServer.Text.Width
import Mathlib.Data.Nat.Find

/-!
# Boundaries of a text

An offset is a boundary of a text when it stands between two characters or at an end. Rounding an
offset down finds the greatest boundary that is not above it, and the slices between boundaries
join up without loss.

This module does NOT know about lines.
-/

namespace LanguageServer.Text

section Widths
variable {measure : Char → Nat}

theorem takeWidth_width_append (hm : ∀ c, 0 < measure c) (as bs : List Char) :
    takeWidth measure (width measure as) (as ++ bs) = as := by
  induction as with
  | nil =>
    cases bs with
    | nil => rfl
    | cons b bs => simp [takeWidth, Nat.not_le.mpr (hm b)]
  | cons a as ih => simp [takeWidth, ih]

theorem dropWidth_width_append (hm : ∀ c, 0 < measure c) (as bs : List Char) :
    dropWidth measure (width measure as) (as ++ bs) = bs := by
  induction as with
  | nil =>
    cases bs with
    | nil => rfl
    | cons b bs => simp [dropWidth, Nat.not_le.mpr (hm b)]
  | cons a as ih => simp [dropWidth, ih]

theorem isPrefix_takeWidth {budget : Nat} {as : List Char} (h : width measure as ≤ budget)
    (bs : List Char) : as.IsPrefix (takeWidth measure budget (as ++ bs)) := by
  induction as generalizing budget with
  | nil => exact List.nil_prefix
  | cons a as ih =>
    rw [width_cons] at h
    have ha : measure a ≤ budget := by omega
    have has : width measure as ≤ budget - measure a := by omega
    simpa [takeWidth, ha] using ih has

theorem width_le_of_isPrefix {as bs : List Char} (h : as.IsPrefix bs) :
    width measure as ≤ width measure bs := by
  obtain ⟨rest, rfl⟩ := h
  simp

end Widths

theorem units_le_utf8Size (c : Char) : units c ≤ c.utf8Size := by
  have hpos := c.utf8Size_pos
  unfold units
  split
  · exact hpos
  · rename_i hc
    have h7 : ¬ c.val ≤ 0x7F := fun h => hc (Nat.lt_of_le_of_lt h (by decide))
    have h7FF : ¬ c.val ≤ 0x7FF := fun h => hc (Nat.lt_of_le_of_lt h (by decide))
    simp only [Char.utf8Size]
    split
    · exact absurd (by assumption) h7
    · split
      · exact Nat.le_refl 2
      · split <;> omega

theorem unitLength_le_byteLength (cs : List Char) : unitLength cs ≤ byteLength cs := by
  induction cs with
  | nil => exact Nat.le_refl 0
  | cons c cs ih => exact Nat.add_le_add (units_le_utf8Size c) ih

theorem byteLength_append (as bs : List Char) :
    byteLength (as ++ bs) = byteLength as + byteLength bs := width_append _ as bs

theorem byteLength_eq_zero_iff {cs : List Char} : byteLength cs = 0 ↔ cs = [] := by
  cases cs with
  | nil => simp
  | cons c cs =>
    have hc := c.utf8Size_pos
    simp only [width_cons, reduceCtorEq, iff_false]
    omega

/-- An offset between two characters of a text, or at one of its ends. -/
def IsBoundary (cs : List Char) (offset : Nat) : Prop :=
  ∃ before after, before ++ after = cs ∧ byteLength before = offset

variable {cs : List Char} {a b c offset : Nat}

theorem isBoundary_zero (cs : List Char) : IsBoundary cs 0 := ⟨[], cs, rfl, rfl⟩

theorem isBoundary_byteLength (cs : List Char) : IsBoundary cs (byteLength cs) :=
  ⟨cs, [], cs.append_nil, rfl⟩

theorem IsBoundary.le_byteLength (h : IsBoundary cs b) : b ≤ byteLength cs := by
  obtain ⟨before, after, rfl, rfl⟩ := h
  rw [byteLength_append]
  exact Nat.le_add_right _ _

theorem isBoundary_floorBoundary (cs : List Char) (offset : Nat) :
    IsBoundary cs (floorBoundary cs offset) :=
  ⟨_, _, takeWidth_append_dropWidth Char.utf8Size offset cs, rfl⟩

theorem IsBoundary.floorBoundary_eq (h : IsBoundary cs b) : floorBoundary cs b = b := by
  obtain ⟨before, after, rfl, rfl⟩ := h
  rw [floorBoundary, takeWidth_width_append Char.utf8Size_pos]

theorem isBoundary_iff_floorBoundary_eq : IsBoundary cs b ↔ floorBoundary cs b = b := by
  constructor
  · exact IsBoundary.floorBoundary_eq
  · intro h
    rw [← h]
    exact isBoundary_floorBoundary cs b

instance : DecidablePred (IsBoundary cs) := fun _ =>
  decidable_of_iff' _ isBoundary_iff_floorBoundary_eq

theorem IsBoundary.le_floorBoundary (h : IsBoundary cs b) (hb : b ≤ offset) :
    b ≤ floorBoundary cs offset := by
  obtain ⟨before, after, rfl, rfl⟩ := h
  exact width_le_of_isPrefix (isPrefix_takeWidth hb after)

/-- The place that an offset denotes: the greatest boundary that is neither above the offset nor
beyond the text. -/
def snap (cs : List Char) (offset : Nat) : Nat :=
  Nat.findGreatest (IsBoundary cs) (min offset (byteLength cs))

theorem isBoundary_snap (cs : List Char) (offset : Nat) : IsBoundary cs (snap cs offset) :=
  Nat.findGreatest_spec (Nat.zero_le _) (isBoundary_zero cs)

theorem snap_le_byteLength (cs : List Char) (offset : Nat) : snap cs offset ≤ byteLength cs :=
  (isBoundary_snap cs offset).le_byteLength

theorem IsBoundary.snap_eq (h : IsBoundary cs b) : snap cs b = b := by
  unfold snap
  rw [Nat.min_eq_left h.le_byteLength]
  exact Nat.findGreatest_eq h

theorem floorBoundary_eq_snap (cs : List Char) (offset : Nat) :
    floorBoundary cs offset = snap cs offset := by
  have hf := isBoundary_floorBoundary cs offset
  apply Nat.le_antisymm
  · exact Nat.le_findGreatest (Nat.le_min.mpr ⟨floorBoundary_le cs offset, hf.le_byteLength⟩) hf
  · apply (isBoundary_snap cs offset).le_floorBoundary
    exact Nat.le_trans (Nat.findGreatest_le _) (Nat.min_le_left _ _)

theorem snap_le (cs : List Char) (offset : Nat) : snap cs offset ≤ offset := by
  rw [← floorBoundary_eq_snap]
  exact floorBoundary_le cs offset

theorem IsBoundary.le_snap (h : IsBoundary cs b) (hb : b ≤ offset) : b ≤ snap cs offset := by
  rw [← floorBoundary_eq_snap]
  exact h.le_floorBoundary hb

theorem snap_le_snap (cs : List Char) (hab : a ≤ b) : snap cs a ≤ snap cs b :=
  (isBoundary_snap cs a).le_snap (Nat.le_trans (snap_le cs a) hab)

theorem snap_min (cs : List Char) (offset : Nat) :
    snap cs (min offset (byteLength cs)) = snap cs offset := by
  rw [snap, Nat.min_assoc, Nat.min_self, snap]

theorem IsBoundary.cut (ha : IsBoundary cs a) (hb : IsBoundary cs b) (hab : a ≤ b) :
    ∃ before part after, before ++ (part ++ after) = cs ∧
      byteLength before = a ∧ byteLength before + byteLength part = b := by
  obtain ⟨before, rest, rfl, rfl⟩ := ha
  obtain ⟨longer, after, heq, rfl⟩ := hb
  rcases List.append_eq_append_iff.mp heq with ⟨part, hbefore, hafter⟩ | ⟨part, hlonger, hrest⟩
  · -- the second boundary is not above the first one, so nothing stands between them
    have hpart : part = [] := by
      apply byteLength_eq_zero_iff.mp
      rw [hbefore, byteLength_append] at hab
      omega
    subst hpart
    exact ⟨before, [], rest, rfl, rfl, by simp [hbefore]⟩
  · exact ⟨before, part, after, by rw [hrest], rfl, by rw [hlonger, byteLength_append]⟩

theorem eq_of_append_eq_append {as bs as' bs' : List Char} (h : as ++ as' = bs ++ bs')
    (hlen : byteLength as = byteLength bs) : as = bs := by
  rw [← takeWidth_width_append Char.utf8Size_pos as as', h]
  change takeWidth Char.utf8Size (byteLength as) (bs ++ bs') = bs
  rw [hlen, takeWidth_width_append Char.utf8Size_pos]

theorem slice_append (before part after : List Char) :
    slice (before ++ (part ++ after)) (byteLength before) (byteLength before + byteLength part) =
      part := by
  rw [slice, dropWidth_width_append Char.utf8Size_pos, Nat.add_sub_cancel_left,
    takeWidth_width_append Char.utf8Size_pos]

theorem slice_append_end (before after : List Char) :
    slice (before ++ after) (byteLength before) (byteLength (before ++ after)) = after := by
  have hslice := slice_append before after []
  rwa [List.append_nil, ← byteLength_append] at hslice

theorem byteLength_slice (ha : IsBoundary cs a) (hb : IsBoundary cs b) (hab : a ≤ b) :
    a + byteLength (slice cs a b) = b := by
  obtain ⟨before, part, after, rfl, rfl, rfl⟩ := ha.cut hb hab
  rw [slice_append]

theorem slice_append_slice (ha : IsBoundary cs a) (hb : IsBoundary cs b) (hc : IsBoundary cs c)
    (hab : a ≤ b) (hbc : b ≤ c) : slice cs a b ++ slice cs b c = slice cs a c := by
  obtain ⟨before, left, after, hcs, rfl, rfl⟩ := ha.cut hb hab
  obtain ⟨front, right, back, hcs', hfront, rfl⟩ := hb.cut hc hbc
  rw [← byteLength_append] at hfront ⊢
  have hfront' : front = before ++ left :=
    eq_of_append_eq_append (by rw [hcs', List.append_assoc, hcs]) hfront
  subst hfront'
  have hab : slice cs (byteLength before) (byteLength (before ++ left)) = left := by
    rw [← hcs, byteLength_append, slice_append]
  have hbc : slice cs (byteLength (before ++ left)) (byteLength (before ++ left) + byteLength right) =
      right := by
    rw [← hcs', slice_append]
  have hac : slice cs (byteLength before) (byteLength (before ++ left) + byteLength right) =
      left ++ right := by
    rw [← hcs', byteLength_append, Nat.add_assoc, ← byteLength_append, List.append_assoc,
      ← List.append_assoc left, slice_append]
  rw [hab, hbc, hac]

theorem unitLength_slice_add (ha : IsBoundary cs a) (hb : IsBoundary cs b) (hc : IsBoundary cs c)
    (hab : a ≤ b) (hbc : b ≤ c) :
    unitLength (slice cs a b) + unitLength (slice cs b c) = unitLength (slice cs a c) := by
  rw [← slice_append_slice ha hb hc hab hbc]
  exact (width_append _ _ _).symm

theorem unitLength_slice_pos (ha : IsBoundary cs a) (hb : IsBoundary cs b) (hab : a < b) :
    0 < unitLength (slice cs a b) := by
  have hlength := byteLength_slice ha hb (Nat.le_of_lt hab)
  cases hslice : slice cs a b with
  | nil =>
    rw [hslice] at hlength
    exact absurd hlength (Nat.ne_of_lt hab)
  | cons c rest => exact Nat.add_pos_left (units_pos c) _

/-- Behind a boundary the next one is that after the character which stands there. -/
theorem IsBoundary.next_le {before after : List Char} {d : Char}
    (h : IsBoundary (before ++ d :: after) b) (hlt : byteLength before < b) :
    byteLength before + byteLength [d] ≤ b := by
  obtain ⟨front, back, heq, rfl⟩ := h
  rcases List.append_eq_append_iff.mp heq with ⟨rest, hbefore, -⟩ | ⟨rest, rfl, hrest⟩
  · rw [hbefore, byteLength_append] at hlt
    omega
  · cases rest with
    | nil =>
      rw [List.append_nil] at hlt
      exact absurd hlt (Nat.lt_irrefl _)
    | cons e rest =>
      obtain ⟨rfl, -⟩ := List.cons.inj hrest
      rw [byteLength_append]
      exact Nat.add_le_add_left (Nat.add_le_add_left (Nat.zero_le _) _) _

end LanguageServer.Text
