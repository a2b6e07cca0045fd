import LanguageServer.Proofs.Text.Line
import Mathlib.Order.Bounds.Basic

/-!
# From positions to offsets

Along a line `offsetAt` goes as far as the column allows and no further than the line. That is the
last of the boundaries of the line up to which no more units stand than the column counts: a column
inside a character denotes the start of the character, a column behind the line its end.
-/

namespace LanguageServer

open Text

/-- The boundaries of a part of a text that no more units than a column divide from its start. -/
def placesWithin (cs : List Char) (start stop column : Nat) : Set Nat :=
  {b | IsBoundary cs b ∧ start ≤ b ∧ b ≤ stop ∧ unitLength (slice cs start b) ≤ column}

section Places

variable {cs before after : List Char} {start stop column place : Nat} {c : Char}

theorem placesWithin_subset {column' : Nat} (h : column ≤ column') :
    placesWithin cs start stop column ⊆ placesWithin cs start stop column' :=
  fun _ ⟨hb, hstart, hstop, hcolumn⟩ => ⟨hb, hstart, hstop, Nat.le_trans hcolumn h⟩

theorem isGreatest_placesWithin (hstart : IsBoundary cs start) (hstop : IsBoundary cs stop)
    (hle : start ≤ stop) (column : Nat) : IsGreatest (placesWithin cs start stop column)
      (start + byteLength (takeWidth units column (slice cs start stop))) := by
  constructor
  · obtain ⟨before, part, after, rfl, rfl, rfl⟩ := hstart.cut hstop hle
    rw [slice_append]
    have hpart := takeWidth_append_dropWidth units column part
    have hfits := width_takeWidth_le units column part
    generalize takeWidth units column part = taken at hpart hfits ⊢
    generalize dropWidth units column part = rest at hpart
    subst hpart
    refine ⟨⟨before ++ taken, rest ++ after, by simp, byteLength_append _ _⟩, ?_, ?_, ?_⟩
    · exact Nat.le_add_right _ _
    · rw [byteLength_append]
      omega
    · rwa [List.append_assoc, slice_append]
  · rintro b ⟨hb, hstartb, hbstop, hcolumn⟩
    have hlongest := isPrefix_takeWidth hcolumn (slice cs b stop)
    rw [slice_append_slice hstart hb hstop hstartb hbstop] at hlongest
    have hlength : byteLength (slice cs start b) ≤
        byteLength (takeWidth units column (slice cs start stop)) := width_le_of_isPrefix hlongest
    have hslice := byteLength_slice hstart hb hstartb
    omega

/-- A column that falls on a character or inside of it leads to where the character starts. -/
theorem eq_of_isGreatest_of_inside (hstart : IsBoundary cs start)
    (h : IsGreatest (placesWithin cs start stop column) place) (hcs : before ++ c :: after = cs)
    (hfrom : start ≤ byteLength before) (hto : byteLength before ≤ stop)
    (hle : unitLength (slice cs start (byteLength before)) ≤ column)
    (hlt : column < unitLength (slice cs start (byteLength before)) + units c) :
    place = byteLength before := by
  have hbefore : IsBoundary cs (byteLength before) := ⟨before, c :: after, hcs, rfl⟩
  have hnext : IsBoundary cs (byteLength before + byteLength [c]) :=
    ⟨before ++ [c], after, by simp [hcs], byteLength_append _ _⟩
  obtain ⟨⟨hplace, -, -, hcolumn⟩, hgreatest⟩ := h
  apply Nat.le_antisymm
  · by_contra hfar
    have hpast : byteLength before + byteLength [c] ≤ place := by
      rw [← hcs] at hplace
      exact hplace.next_le (Nat.lt_of_not_le hfar)
    have hchar : slice cs (byteLength before) (byteLength before + byteLength [c]) = [c] := by
      rw [← hcs]
      exact slice_append before [c] after
    have hupTo := unitLength_slice_add hstart hbefore hnext hfrom (Nat.le_add_right _ _)
    have hwhole := unitLength_slice_add hstart hnext hplace
      (Nat.le_trans hfrom (Nat.le_add_right _ _)) hpast
    have hunits : unitLength [c] = units c := Nat.add_zero _
    rw [hchar, hunits] at hupTo
    omega
  · exact hgreatest ⟨hbefore, hfrom, hto, hle⟩

theorem eq_stop_of_isGreatest (hstop : IsBoundary cs stop) (hle : start ≤ stop)
    (h : IsGreatest (placesWithin cs start stop column) place)
    (hcolumn : unitLength (slice cs start stop) ≤ column) : place = stop := by
  obtain ⟨⟨-, -, hto, -⟩, hgreatest⟩ := h
  exact Nat.le_antisymm hto (hgreatest ⟨hstop, hle, Nat.le_refl _, hcolumn⟩)

end Places

namespace LineIndex

variable {text : String} {position : Position} {line start : Nat}

theorem exists_start (h : line < (ofText text).lineCount) :
    ∃ start, (ofText text).starts[line]? = some start :=
  ⟨_, List.getElem?_eq_getElem h⟩

theorem offsetAt_of_lineCount_le (h : (ofText text).lineCount ≤ position.line.toNat) :
    (ofText text).offsetAt text position = byteLength text.toList := by
  have hnone : (ofText text).starts[position.line.toNat]? = none := List.getElem?_eq_none_iff.mpr h
  simp only [offsetAt, hnone]

theorem isGreatest_offsetAt_of_getElem?
    (h : (ofText text).starts[position.line.toNat]? = some start) :
    IsGreatest (placesWithin text.toList start
      ((ofText text).starts[position.line.toNat + 1]?.getD (byteLength text.toList))
      position.character.toNat) ((ofText text).offsetAt text position) := by
  have hline := isLine_of_getElem? h
  simp only [offsetAt, h]
  exact isGreatest_placesWithin hline.isBoundary_start hline.isBoundary_stop hline.start_le_stop _

theorem isBoundary_offsetAt (text : String) (position : Position) :
    IsBoundary text.toList ((ofText text).offsetAt text position) := by
  rcases Nat.lt_or_ge position.line.toNat (ofText text).lineCount with hline | hline
  · obtain ⟨start, hstart⟩ := exists_start hline
    exact (isGreatest_offsetAt_of_getElem? hstart).1.1
  · rw [offsetAt_of_lineCount_le hline]
    exact isBoundary_byteLength _

theorem offsetAt_le_byteLength (text : String) (position : Position) :
    (ofText text).offsetAt text position ≤ byteLength text.toList :=
  (isBoundary_offsetAt text position).le_byteLength

/-- A line that is missing denotes the end of the text. A position on one of the lines denotes the
last place of that line that the column reaches. -/
theorem isGreatest_offsetAt (text : String) (position : Position) :
    ((ofText text).lineCount ≤ position.line.toNat →
      (ofText text).offsetAt text position = byteLength text.toList) ∧
    (position.line.toNat < (ofText text).lineCount → ∃ start stop,
      (ofText text).starts[position.line.toNat]? = some start ∧
      (ofText text).starts[position.line.toNat + 1]?.getD (byteLength text.toList) = stop ∧
      IsLine text.toList position.line.toNat start stop ∧
      IsGreatest (placesWithin text.toList start stop position.character.toNat)
        ((ofText text).offsetAt text position) ∧
      (∀ before c after, before ++ c :: after = text.toList →
        start ≤ byteLength before → byteLength before < stop →
        unitLength (slice text.toList start (byteLength before)) ≤ position.character.toNat →
        position.character.toNat <
          unitLength (slice text.toList start (byteLength before)) + units c →
        (ofText text).offsetAt text position = byteLength before) ∧
      (unitLength (slice text.toList start stop) ≤ position.character.toNat →
        (ofText text).offsetAt text position = stop)) := by
  refine ⟨offsetAt_of_lineCount_le, ?_⟩
  intro hcount
  obtain ⟨start, hstart⟩ := exists_start hcount
  have hline := isLine_of_getElem? hstart
  have hgreatest := isGreatest_offsetAt_of_getElem? hstart
  refine ⟨_, _, hstart, rfl, hline, hgreatest, ?_, ?_⟩
  · intro before c after hcs hfrom hto hle hlt
    exact eq_of_isGreatest_of_inside hline.isBoundary_start hgreatest hcs hfrom
      (Nat.le_of_lt hto) hle hlt
  · exact eq_stop_of_isGreatest hline.isBoundary_stop hline.start_le_stop hgreatest

/-- The second half of a surrogate pair is in front of the pair, on its own line. -/
theorem isGreatest_offsetAt_inside_pair :
    1 < (ofText "a\r\n😀b").lineCount ∧
      (ofText "a\r\n😀b").offsetAt "a\r\n😀b" ⟨1, 1⟩ = byteLength ['a', '\r', '\n'] ∧
      (ofText "a\r\n😀b").lineCount ≤ 2 ∧
      (ofText "a\r\n😀b").offsetAt "a\r\n😀b" ⟨2, 0⟩ = byteLength "a\r\n😀b".toList := by
  have hcount : 1 < (ofText "a\r\n😀b").lineCount := by decide
  have hcount' : (ofText "a\r\n😀b").lineCount ≤ 2 := by decide
  obtain ⟨start, stop, hstart, hstop, -, -, hinside, -⟩ :=
    (isGreatest_offsetAt "a\r\n😀b" ⟨1, 1⟩).2 hcount
  obtain rfl : 3 = start := Option.some.inj (Eq.trans (by decide) hstart)
  obtain rfl : 8 = stop := Eq.trans (by decide) hstop
  refine ⟨hcount, ?_, hcount', (isGreatest_offsetAt "a\r\n😀b" ⟨2, 0⟩).1 hcount'⟩
  exact hinside _ '😀' ['b'] (by decide) (by decide) (by decide) (by decide) (by decide)

end LineIndex

end LanguageServer
