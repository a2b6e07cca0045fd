/-!
# Control sequences

Sequences that a terminal obeys instead of showing them, and texts without them. A sequence starts
with an escape character and has a body or parameters; a line break or a tab inside it is shown, and
what follows is text again.
-/

namespace LanguageServer.Text

/-- How far a control sequence has come. -/
inductive ControlState where
  | ground
  | escape
  /-- An escape with intermediate marks. -/
  | marked
  /-- Parameters and marks up to a final letter. -/
  | sequence
  /-- The title of a window, up to a bell. -/
  | title
  | deviceStart
  | deviceParameters
  | deviceMarked
  /-- A text for a device, up to a string terminator. -/
  | body
deriving DecidableEq, Repr

namespace ControlState

def isBreak (c : Char) : Bool := "\t\n\x0c\r".toList.contains c

def isPlain (c : Char) : Bool := isBreak c || (' ' ≤ c && c ≠ '\x7f')

def shows : ControlState → Char → Bool
  | ground, c => isPlain c
  | escape, c | marked, c | sequence, c => isBreak c
  | _, _ => false

def isMark (c : Char) : Bool := ' ' ≤ c && c ≤ '/'

def isParameter (c : Char) : Bool := '0' ≤ c && c ≤ '?'

/-- Whether a character can end parameters. -/
def isFinal (c : Char) : Bool := '@' ≤ c && c ≤ '~'

/-- Whether the bytes of a character hold the one that terminates strings. -/
def isTerminator (c : Char) : Bool := (String.utf8EncodeChar c).contains 0x9C

/-- What an escape character begins by the character behind it. -/
def begun (c : Char) : ControlState :=
  match c with
  | '[' => sequence
  | ']' => title
  | 'P' => deviceStart
  | 'X' | '^' | '_' => body
  | c => if isMark c then marked else if isParameter c || isFinal c then ground else escape

def next (state : ControlState) (c : Char) : ControlState :=
  if c = '\x1b' then escape
  else if c = '\x18' || c = '\x1a' then ground
  else
    match state with
    | ground => ground
    | escape => begun c
    | marked => if isParameter c || isFinal c then ground else marked
    | sequence => if isFinal c then ground else sequence
    | title => if c = '\x07' then ground else title
    | deviceStart =>
      if isMark c then deviceMarked
      else if isParameter c then deviceParameters
      else if isFinal c then body
      else deviceStart
    | deviceParameters =>
      if isMark c then deviceMarked
      else if isFinal c || ('<' ≤ c && c ≤ '?') then body
      else deviceParameters
    | deviceMarked => if isParameter c || isFinal c then body else deviceMarked
    | body => if isTerminator c then ground else body

end ControlState

/-- What is shown of a text. While it is shown it is plain text, but a sequence that a break has
interrupted goes on behind the next character that is not shown; one outside ASCII ends it. -/
def shownPart (state : ControlState) (showing : Bool) : List Char → List Char
  | [] => []
  | c :: cs =>
    if showing && ControlState.isPlain c then
      c :: shownPart (if c.toNat < 0x80 then state else .ground) true cs
    else if state.shows c then c :: shownPart state true cs
    else shownPart (state.next c) false cs

def withoutControls (text : String) : String := .ofList (shownPart .ground false text.toList)

end LanguageServer.Text
