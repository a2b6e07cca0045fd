import LanguageServer.Text.Split
import LanguageServer.Uri.PercentEncoding

/-!
# Paths

A hierarchical path is a list of segments. `.` and `..`, also written with `%2e`, are resolved
while it is read, and a path never leads above its root or above a drive letter. A tab stands for
any line break in what is read; breaks do not count, except that one behind the drive letter of a
file ends the segment.
-/

namespace LanguageServer.Uri

open Text

/-- A segment with its encoded points read as points. -/
def decodePoints : List Char → List Char
  | '%' :: '2' :: 'e' :: cs | '%' :: '2' :: 'E' :: cs => '.' :: decodePoints cs
  | c :: cs => c :: decodePoints cs
  | [] => []

/-- A letter and a colon, or a bar where one may stand for a colon. -/
def isDriveLetter (barAllowed : Bool) : List Char → Bool
  | [letter, mark] => letter.isAlpha && (mark == ':' || (barAllowed && mark == '|'))
  | _ => false

def opensDrive (segment : List Char) : Bool :=
  isDriveLetter true (segment.take 2) && (segment.length == 2 || segment[2]? == some '\\')

structure Path where
  segments : List (List Char) := []
  /-- Whether the path of a file starts with a drive letter, so that it has no host. -/
  onDrive : Bool := false
deriving Repr

namespace Path

def add (path : Path) (segment : List Char) : Path :=
  { path with segments := path.segments ++ [segment] }

/-- Leaves the last segment; a drive letter is never left. -/
def leave (path : Path) : Path :=
  if path.segments.getLast?.any opensDrive then path
  else { path with segments := path.segments.dropLast }

def dropPlain : Nat → List Char → List Char
  | n + 1, c :: cs => if c = '\t' then dropPlain (n + 1) cs else dropPlain n cs
  | _, cs => cs

/-- The first segment of a file. A drive letter with a bar gets its colon, and a break behind a
drive letter ends it. -/
def addFirst (path : Path) (written : List Char) : Path :=
  let segment := written.filter (· ≠ '\t')
  if isDriveLetter true segment then
    { path with segments := [segment.take 1 ++ [':']], onDrive := true }
  else if isDriveLetter false (segment.take 2) && (dropPlain 2 written).head? = some '\t' &&
      2 < segment.length then
    (path.add (segment.take 2)).add (percentEncode inPathSet (segment.drop 2))
  else path.add (percentEncode inPathSet segment)

/-- Reads a written segment. The last one of a path stays open, and is empty behind points. -/
def read (file last : Bool) (path : Path) (written : List Char) : Path :=
  let close (path : Path) : Path := if last then path.add [] else path
  match decodePoints (written.filter (· ≠ '\t')) with
  | ['.'] => close path
  | ['.', '.'] => close path.leave
  | _ =>
    if file && path.segments.isEmpty then path.addFirst written
    else path.add (percentEncode inPathSet (written.filter (· ≠ '\t')))

def readAll (file : Bool) (path : Path) : List (List Char) → Path
  | [] => path
  | written :: rest => readAll file (path.read file rest.isEmpty written) rest

def ofText (file : Bool) (cs : List Char) : Path := readAll file {} (splitOn '/' cs)

/-- The text of a path. A file's path has no empty segment in front. -/
def text (file : Bool) (path : Path) : List Char :=
  let segments := if file then path.segments.dropWhile List.isEmpty else path.segments
  '/' :: join '/' segments

end Path

end LanguageServer.Uri
