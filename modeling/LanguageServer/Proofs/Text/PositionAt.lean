import LanguageServer.Proofs.Text.LineTable

/-!
# From offsets to positions

`positionAt` finds the line in the table. On a text whose length fits into a word it agrees with a
reference that has no table and reads line and column off the text alone.
-/

namespace LanguageServer

open Text

namespace LineIndex

theorem positionAt_eq (index : LineIndex) (text : String) (offset : Nat) :
    index.positionAt text offset =
      ⟨.ofNat (index.lineAt (snap text.toList offset)),
        .ofNat (unitLength (slice text.toList (index.lineStartAt (snap text.toList offset))
          (snap text.toList offset)))⟩ := by
  rw [← floorBoundary_eq_snap]
  rfl

section Short
variable {text : String} (hshort : byteLength text.toList < 2 ^ 32)
include hshort

theorem line_positionAt (offset : Nat) :
    ((ofText text).positionAt text offset).line.toNat =
      (ofText text).lineAt (snap text.toList offset) := by
  rw [positionAt_eq]
  apply UInt32.toNat_ofNat_of_lt'
  exact Nat.lt_of_le_of_lt (lineAt_le _ _) (Nat.lt_of_le_of_lt (snap_le_byteLength _ _) hshort)

theorem character_positionAt (offset : Nat) :
    ((ofText text).positionAt text offset).character.toNat =
      unitLength (slice text.toList ((ofText text).lineStartAt (snap text.toList offset))
        (snap text.toList offset)) := by
  rw [positionAt_eq]
  apply UInt32.toNat_ofNat_of_lt'
  have hpart := byteLength_slice (isBoundary_lineStartAt text.toList (snap text.toList offset))
    (isBoundary_snap text.toList offset) (lineStartAt_le _ _)
  calc
    _ ≤ byteLength _ := unitLength_le_byteLength _
    _ ≤ snap text.toList offset := (Nat.le_add_left _ _).trans_eq hpart
    _ ≤ byteLength text.toList := snap_le_byteLength _ _
    _ < 2 ^ 32 := hshort

end Short

/-- Line and column of the place that an offset denotes, read off the text without a table. -/
def scan (text : String) (offset : Nat) : Nat × Nat :=
  let place := snap text.toList offset
  (breaksUpTo text.toList place,
    unitLength (slice text.toList (lastBreakEnd text.toList place) place))

/-- The table gives every offset the position that the plain scan gives it. -/
theorem positionAt_eq_scan (text : String) (hshort : byteLength text.toList < 2 ^ 32)
    (offset : Nat) :
    (((ofText text).positionAt text offset).line.toNat,
      ((ofText text).positionAt text offset).character.toNat) = scan text offset := by
  rw [line_positionAt hshort, character_positionAt hshort, ofText, lineAt_ofChars,
    lineStartAt_ofChars]
  rfl

/-- Between `\r` and `\n` an offset is still on the line that they end together. -/
theorem positionAt_eq_scan_inside_pair :
    byteLength "😀\r\n\r".toList < 2 ^ 32 ∧
      (((ofText "😀\r\n\r").positionAt "😀\r\n\r" 5).line.toNat,
        ((ofText "😀\r\n\r").positionAt "😀\r\n\r" 5).character.toNat) = scan "😀\r\n\r" 5 ∧
      scan "😀\r\n\r" 5 = (0, 3) :=
  ⟨by decide, positionAt_eq_scan _ (by decide) 5, by decide⟩

/-- After the break that ends a text an offset is on a line of its own. -/
example : scan "😀\r\n\r" 7 = (2, 0) := by decide

end LineIndex

end LanguageServer
