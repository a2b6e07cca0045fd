import LanguageServer.Text.Position
import LanguageServer.Text.Width

/-!
# Line index

The table of offsets at which the lines of a text start, and the two conversions over it. A line
ends after `\n`, after `\r\n` and after a `\r` that no `\n` follows. Both conversions clamp: an
offset beyond the text or inside a character, and a column beyond its line, denote the nearest
place before them.
-/

namespace LanguageServer

open Text

/-- The offset after each line break of a text whose first character stands at `offset`. -/
def breakEnds : Nat → List Char → List Nat
  | _, [] => []
  -- Comes first, for these two are a single break.
  | offset, '\r' :: '\n' :: cs => (offset + 2) :: breakEnds (offset + 2) cs
  | offset, c :: cs =>
    if c = '\n' ∨ c = '\r' then (offset + 1) :: breakEnds (offset + 1) cs
    else breakEnds (offset + c.utf8Size) cs

structure LineIndex where
  starts : List Nat
deriving DecidableEq, Repr

namespace LineIndex

/-- The empty text has no line; any other has one at offset zero and one after each break. -/
def ofChars : List Char → LineIndex
  | [] => ⟨[]⟩
  | c :: cs => ⟨0 :: breakEnds 0 (c :: cs)⟩

def ofText (text : String) : LineIndex := ofChars text.toList

def lineCount (index : LineIndex) : Nat := index.starts.length

/-- The last line that starts at or before the offset, and the units from its start. -/
def positionAt (index : LineIndex) (text : String) (offset : Nat) : Position :=
  let offset := floorBoundary text.toList offset
  let reached := index.starts.takeWhile (· ≤ offset)
  let start := reached.getLast?.getD 0
  ⟨.ofNat (reached.length - 1), .ofNat (unitLength (slice text.toList start offset))⟩

/-- Characters of the line are counted off while the column allows; a missing line is the end. -/
def offsetAt (index : LineIndex) (text : String) (position : Position) : Nat :=
  let chars := text.toList
  match index.starts[position.line.toNat]? with
  | none => byteLength chars
  | some start =>
    let stop := index.starts[position.line.toNat + 1]?.getD (byteLength chars)
    start + byteLength (takeWidth units position.character.toNat (slice chars start stop))

end LineIndex

end LanguageServer
