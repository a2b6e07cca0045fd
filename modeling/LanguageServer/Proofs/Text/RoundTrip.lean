import LanguageServer.Proofs.Text.PositionAt
import Mathlib.Data.Set.Function

/-!
# From offsets to positions and back

The walk of `offsetAt` along the line that `positionAt` found stops exactly at the place from which
the column was measured. So a boundary comes back as it is, every other offset comes back as the
boundary below it, and no two boundaries share a position.
-/

namespace LanguageServer

open Text

namespace LineIndex

variable {text : String} {b line start : Nat}

theorem OnLine.le_stop (h : (ofText text).OnLine b line start) (hb : IsBoundary text.toList b) :
    IsBoundary text.toList ((ofText text).starts[line + 1]?.getD (byteLength text.toList)) ∧
      b ≤ (ofText text).starts[line + 1]?.getD (byteLength text.toList) := by
  cases hnext : (ofText text).starts[line + 1]? with
  | none => exact ⟨isBoundary_byteLength _, hb.le_byteLength⟩
  | some next =>
    exact ⟨isBoundary_of_mem_starts (List.mem_of_getElem? hnext),
      Nat.le_of_lt (h.lt_next next hnext)⟩

/-- A column that measures the way from the start of the line to a boundary leads back to it. -/
theorem OnLine.offsetAt_eq {position : Position}
    (h : (ofText text).OnLine b position.line.toNat start) (hb : IsBoundary text.toList b)
    (hcolumn : position.character.toNat = unitLength (slice text.toList start b)) :
    (ofText text).offsetAt text position = b := by
  have hstart : IsBoundary text.toList start :=
    isBoundary_of_mem_starts (List.mem_of_getElem? h.start_eq)
  obtain ⟨hstop, hle⟩ := h.le_stop hb
  have hslice := slice_append_slice hstart hb hstop h.start_le hle
  simp only [offsetAt, h.start_eq]
  rw [← hslice, hcolumn, takeWidth_width_append units_pos, byteLength_slice hstart hb h.start_le]

theorem offsetAt_of_toList_eq_nil (hnil : text.toList = []) (position : Position) :
    (ofText text).offsetAt text position = 0 := by
  simp only [offsetAt, ofText, hnil]
  rfl

theorem offsetAt_positionAt (hshort : byteLength text.toList < 2 ^ 32) (offset : Nat) :
    (ofText text).offsetAt text ((ofText text).positionAt text offset) =
      snap text.toList offset := by
  by_cases hnil : text.toList = []
  · rw [offsetAt_of_toList_eq_nil hnil, hnil]
    exact (Nat.le_zero.mp (snap_le_byteLength [] offset)).symm
  · have h := onLine_lineAt hnil (snap text.toList offset)
    change (ofText text).OnLine _ ((ofText text).lineAt _) _ at h
    rw [← line_positionAt hshort] at h
    exact h.offsetAt_eq (isBoundary_snap _ _) (character_positionAt hshort offset)

/-- Offsets survive the way through positions up to rounding, boundaries survive it unchanged, and
so distinct boundaries have distinct positions. -/
theorem offsetAt_positionAt_eq_snap (text : String) (hshort : byteLength text.toList < 2 ^ 32) :
    (∀ offset, (ofText text).offsetAt text ((ofText text).positionAt text offset) =
      snap text.toList offset) ∧
    (∀ b, IsBoundary text.toList b →
      (ofText text).offsetAt text ((ofText text).positionAt text b) = b) ∧
    Set.InjOn ((ofText text).positionAt text) {b | IsBoundary text.toList b} := by
  have hback : ∀ b, IsBoundary text.toList b →
      (ofText text).offsetAt text ((ofText text).positionAt text b) = b := by
    intro b hb
    rw [offsetAt_positionAt hshort, hb.snap_eq]
  refine ⟨offsetAt_positionAt hshort, hback, ?_⟩
  intro a ha b hb heq
  rw [← hback a ha, heq, hback b hb]

theorem offsetAt_positionAt_eq_snap_inside_pair :
    byteLength "é\r\n😀".toList < 2 ^ 32 ∧
      (ofText "é\r\n😀").offsetAt "é\r\n😀" ((ofText "é\r\n😀").positionAt "é\r\n😀" 7) =
        snap "é\r\n😀".toList 7 ∧ snap "é\r\n😀".toList 7 = 4 ∧
      IsBoundary "é\r\n😀".toList 3 ∧
      (ofText "é\r\n😀").offsetAt "é\r\n😀" ((ofText "é\r\n😀").positionAt "é\r\n😀" 3) = 3 := by
  have hshort : byteLength "é\r\n😀".toList < 2 ^ 32 := by decide
  have hthree : IsBoundary "é\r\n😀".toList 3 := by decide
  obtain ⟨hall, hback, _⟩ := offsetAt_positionAt_eq_snap "é\r\n😀" hshort
  exact ⟨hshort, hall 7, by decide, hthree, hback 3 hthree⟩

end LineIndex

end LanguageServer
