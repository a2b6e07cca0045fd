import LanguageServer.Json.Number

/-!
# Reading JSON

A text is cut into lexemes, and a stack of open arrays and objects turns them into a value. Both
take at least one character in each step, so reading ends on every text. The reader stops after
the first complete value and gives back what follows it.
-/

namespace LanguageServer.Json

open Text

/-- The smallest units of JSON; a literal, number or string is a `value` of its own. -/
inductive Lexeme where
  | openArray
  | closeArray
  | openObject
  | closeObject
  | comma
  | colon
  | value (v : Json)

def isBlank (c : Char) : Bool := c = ' ' || c = '\t' || c = '\n' || c = '\r'

def codeUnit? (a b c d : Char) : Option Nat := do
  pure (((← hexValue? a) * 16 + (← hexValue? b)) * 256 + (← hexValue? c) * 16 + (← hexValue? d))

def pairChar (high low : Nat) : Char := .ofNat (0x10000 + (high - 0xD800) * 0x400 + (low - 0xDC00))

def simpleEscape? : Char → Option Char
  | '"' => some '"'
  | '\\' => some '\\'
  | '/' => some '/'
  | 'b' => some '\x08'
  | 'f' => some '\x0c'
  | 'n' => some '\n'
  | 'r' => some '\r'
  | 't' => some '\t'
  | _ => none

/-- Reads the rest of a string up to its closing quote. Control characters must be escaped, and a
high surrogate must be followed by a low one. -/
def takeString (read : List Char) : List Char → Option (String × List Char)
  | [] => none
  | '"' :: cs => some (.ofList read.reverse, cs)
  | '\\' :: 'u' :: a :: b :: c :: d :: cs =>
    match codeUnit? a b c d with
    | none => none
    | some unit =>
      if unit < 0xD800 ∨ 0xE000 ≤ unit then takeString (.ofNat unit :: read) cs
      else if unit < 0xDC00 then
        -- Two escapes write one character.
        match cs with
        | '\\' :: 'u' :: e :: f :: g :: h :: cs =>
          match codeUnit? e f g h with
          | none => none
          | some low =>
            if 0xDC00 ≤ low ∧ low < 0xE000 then takeString (pairChar unit low :: read) cs else none
        | _ => none
      else none
  | '\\' :: e :: cs =>
    match simpleEscape? e with
    | none => none
    | some c => takeString (c :: read) cs
  | c :: cs => if c.toNat < 0x20 then none else takeString (c :: read) cs

def takeLexeme : List Char → Option (Lexeme × List Char)
  | '[' :: cs => some (.openArray, cs)
  | ']' :: cs => some (.closeArray, cs)
  | '\x7b' :: cs => some (.openObject, cs)
  | '\x7d' :: cs => some (.closeObject, cs)
  | ',' :: cs => some (.comma, cs)
  | ':' :: cs => some (.colon, cs)
  | '"' :: cs => (takeString [] cs).map fun (s, rest) => (.value (.string s), rest)
  | 'n' :: 'u' :: 'l' :: 'l' :: cs => some (.value .null, cs)
  | 't' :: 'r' :: 'u' :: 'e' :: cs => some (.value (.bool true), cs)
  | 'f' :: 'a' :: 'l' :: 's' :: 'e' :: cs => some (.value (.bool false), cs)
  | '-' :: cs => (takeNumeral true cs).map fun (v, rest) => (.value v, rest)
  | cs => (takeNumeral false cs).map fun (v, rest) => (.value v, rest)

theorem length_takeString_lt {read cs rest : List Char} {s : String}
    (h : takeString read cs = some (s, rest)) : rest.length < cs.length := by
  fun_induction takeString read cs <;> simp_all <;> omega

theorem length_takeLexeme_lt {cs rest : List Char} {lexeme : Lexeme}
    (h : takeLexeme cs = some (lexeme, rest)) : rest.length < cs.length := by
  unfold takeLexeme at h
  split at h <;> grind [→ length_takeString_lt, → length_takeNumeral_lt, Option.map_eq_some_iff]

/-- An array or object that is still open, with what it holds so far. -/
inductive Frame where
  | array (items : List Json)
  | object (fields : List (String × Json))
  | member (fields : List (String × Json)) (name : String)

inductive Expected where
  | value
  | valueOrClose
  | name
  | nameOrClose
  | colon
  | commaOrClose

def depthMax : Nat := 127

inductive Progress where
  | reading (stack : List Frame) (expected : Expected)
  | done (value : Json)

/-- Puts a complete value where the innermost open frame wants it. -/
def Progress.complete (value : Json) : List Frame → Option Progress
  | [] => some (.done value)
  | .array items :: stack => some (.reading (.array (items ++ [value]) :: stack) .commaOrClose)
  | .member fields name :: stack =>
    some (.reading (.object (fields ++ [(name, value)]) :: stack) .commaOrClose)
  | .object _ :: _ => none

def Progress.enter (frame : Frame) (expected : Expected) (stack : List Frame) : Option Progress :=
  if stack.length < depthMax then some (.reading (frame :: stack) expected) else none

/-- What a lexeme does to the state of reading; nothing when it may not stand here. -/
def Progress.next (stack : List Frame) : Expected → Lexeme → Option Progress
  | .value, .value v | .valueOrClose, .value v => complete v stack
  | .value, .openArray | .valueOrClose, .openArray => enter (.array []) .valueOrClose stack
  | .value, .openObject | .valueOrClose, .openObject => enter (.object []) .nameOrClose stack
  | .name, .value (.string s) | .nameOrClose, .value (.string s) =>
    match stack with
    | .object fields :: stack => some (.reading (.member fields s :: stack) .colon)
    | _ => none
  | .colon, .colon => some (.reading stack .value)
  | .valueOrClose, .closeArray | .commaOrClose, .closeArray =>
    match stack with
    | .array items :: stack => complete (.array items) stack
    | _ => none
  | .nameOrClose, .closeObject | .commaOrClose, .closeObject =>
    match stack with
    | .object fields :: stack => complete (.object fields) stack
    | _ => none
  | .commaOrClose, .comma =>
    match stack with
    | .array items :: stack => some (.reading (.array items :: stack) .value)
    | .object fields :: stack => some (.reading (.object fields :: stack) .name)
    | _ => none
  | _, _ => none

/-- Reads on from a state until a value is complete; gives back what follows the value. -/
def readFrom (stack : List Frame) (expected : Expected) (cs : List Char) :
    Option (Json × List Char) :=
  match _lexed : takeLexeme (cs.dropWhile isBlank) with
  | none => none
  | some (lexeme, rest) =>
    match Progress.next stack expected lexeme with
    | none => none
    | some (.done value) => some (value, rest)
    | some (.reading stack expected) => readFrom stack expected rest
termination_by cs.length
decreasing_by
  have := (List.dropWhile_sublist isBlank (l := cs)).length_le
  have := length_takeLexeme_lt _lexed
  omega

def readPart (cs : List Char) : Option (Json × List Char) := readFrom [] .value cs

def parse? (text : String) : Option Json := do
  let (value, rest) ← readPart text.toList
  if rest.all isBlank then some value else none

end LanguageServer.Json
