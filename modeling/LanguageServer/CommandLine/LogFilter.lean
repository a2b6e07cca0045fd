import LanguageServer.Text.Pattern
import LanguageServer.Text.Split
import LanguageServer.Text.Width

/-!
# Log filters

A filter is a list of directives between commas. A directive is a level, a target, or a target and
a level with `=` between them; a target may be narrowed to a span in brackets, and a span to fields
with values. The module says which texts are filters. It does NOT apply them.

The parts of a directive are told apart without the blanks around it, but they are cut out of the
directive with its blanks at the same offsets. So a directive with blanks in front rarely says what
it seems to say, and its parts may not even consist of whole characters.
-/

namespace LanguageServer.LogFilter

open Text

inductive Fault where
  | malformed
  /-- A part begins or ends inside a character. -/
  | unaligned
deriving DecidableEq, Repr

def levels : List String := ["off", "error", "warn", "info", "debug", "trace"]

def isNumeral (cs : List Char) : Bool := !cs.isEmpty && cs.all Char.isDigit

def dropSign : List Char → List Char
  | '+' :: cs | '-' :: cs => cs
  | cs => cs

/-- A level by name in any case or by number from zero to five; it may be left out. -/
def isLevel (cs : List Char) : Bool :=
  let number := match cs with
    | '+' :: cs => cs
    | cs => cs
  cs.isEmpty || levels.contains (.ofList (cs.map Char.toLower)) ||
    (isNumeral number && decimalValue number < levels.length)

/-- Digits with a point and an exponent, each of which may be missing. -/
def isDecimal (cs : List Char) : Bool :=
  let whole := cs.takeWhile Char.isDigit
  let (fraction, rest) := match cs.dropWhile Char.isDigit with
    | '.' :: cs => (cs.takeWhile Char.isDigit, cs.dropWhile Char.isDigit)
    | cs => ([], cs)
  !(whole ++ fraction).isEmpty &&
    match rest with
    | [] => true
    | c :: cs => (c = 'e' || c = 'E') && isNumeral (dropSign cs)

def isNumber (cs : List Char) : Bool :=
  isDecimal (dropSign cs) ||
    ["inf", "infinity", "nan"].contains (.ofList ((dropSign cs).map Char.toLower))

/-- A field has a name and maybe a value, which is a number or a pattern. What stands behind a
second `=` does not count. -/
def isField (cs : List Char) : Bool :=
  match splitOn '=' cs with
  | _ :: value :: _ => isNumber value || Pattern.isPattern value
  | _ => !cs.isEmpty

/-- The part of a directive that has been reached, and the offset at which it begins. -/
inductive Part where
  | start
  | target
  | span (first : Nat)
  | field (first : Nat)
  | fieldsEnd
  | spanEnd
  | level (first : Nat)
deriving DecidableEq, Repr

def cut (text : List Char) (start stop : Nat) : Except Fault (List Char) :=
  if floorBoundary text start = start && floorBoundary text stop = stop then
    .ok (slice text start stop)
  else .error .unaligned

/-- A directive starts with a letter, a digit or one of three marks, or with a span. -/
def startsTarget (c : Char) : Bool := isAlphanumeric c || "-:_".toList.contains c

def require (holds : Bool) (part : Part) : Except Fault Part :=
  if holds then .ok part else .error .malformed

def Part.next (text : List Char) (offset : Nat) (part : Part) (c : Char) : Except Fault Part :=
  match part, c with
  | start, '[' => .ok (span (offset + 1))
  | start, c => require (startsTarget c) target
  | target, '=' => do let _ ← cut text 0 offset; .ok (level (offset + 1))
  | target, '[' => do let _ ← cut text 0 offset; .ok (span (offset + 1))
  | span first, ']' => do let _ ← cut text first offset; .ok spanEnd
  | span first, '\x7b' => do let _ ← cut text first offset; .ok (field (offset + 1))
  | field first, '\x7d' => do require (isField (← cut text first offset)) fieldsEnd
  | fieldsEnd, c => require (c = ']') spanEnd
  | spanEnd, c => require (c = '=') (level (offset + 1))
  | part, _ => .ok part

def Part.check (text : List Char) : Part → Except Fault Unit
  | target | spanEnd => .ok ()
  | level first => do
    if isLevel (← cut text first (byteLength text)) then .ok () else .error .malformed
  | _ => .error .malformed

def Part.read (text : List Char) (offset : Nat) (part : Part) : List Char → Except Fault Unit
  | [] => part.check text
  | c :: cs => do (← part.next text offset c).read text (offset + c.utf8Size) cs

def checkDirective (text : List Char) : Except Fault Unit :=
  Part.start.read text 0 (trim isWhitespace text)

/-- Checks directives from left to right; empty ones do not count. -/
def check (text : String) : Except Fault Unit :=
  ((splitOn ',' text.toList).filter (!·.isEmpty)).forM checkDirective

end LanguageServer.LogFilter
