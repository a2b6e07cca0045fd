import LanguageServer.Text.Digit
import LanguageServer.Text.Split
import LanguageServer.Text.Whitespace

/-!
# Headers

The lines that stand before a message and end with an empty one. Each is a name, a colon and a
value; what is wrong with a line is told as soon as it is read. `Content-Length` counts the bytes
of the message and has to be there; `Content-Type` may be there and must name UTF-8; others do not
count.
-/

namespace LanguageServer.Rpc

open Text

structure Header where
  name : List UInt8
  value : List UInt8
deriving DecidableEq, Repr

namespace Header

def countMax : Nat := 2

def lineFeed : UInt8 := 10

def carriageReturn : UInt8 := 13

def colon : UInt8 := 58

def isBlank (b : UInt8) : Bool := b = 32 || b = 9

/-- Marks that may stand in a name besides letters and digits. -/
def nameMarks : List Char := "!#$%&'*+-.^_`|~".toList

def isNameByte (b : UInt8) : Bool :=
  let c : Char := .ofNat b.toNat
  c.isAlphanum || nameMarks.contains c

/-- A value has no control characters but tabs; bytes outside ASCII may stand in it. -/
def isValueByte (b : UInt8) : Bool := b = 9 || (32 ≤ b && b ≠ 127)

inductive Reading (α : Type) where
  | incomplete
  | broken
  | read (result : α) (rest : List UInt8)

def endLine {α : Type} (result : α) : List UInt8 → Reading α
  | [] => .incomplete
  | b :: bs =>
    if b = lineFeed then .read result bs
    else if b = carriageReturn then
      match bs with
      | [] => .incomplete
      | c :: bs => if c = lineFeed then .read result bs else .broken
    else .broken

/-- Reads a line up to its end; a name is not empty, and blanks around a value do not count. -/
def readLine (bytes : List UInt8) : Reading Header :=
  match bytes.dropWhile isNameByte with
  | [] => .incomplete
  | b :: rest =>
    let name := bytes.takeWhile isNameByte
    let value := (rest.takeWhile isValueByte).dropWhile isBlank
    if b ≠ colon || name.isEmpty then .broken
    else endLine ⟨name, (value.reverse.dropWhile isBlank).reverse⟩ (rest.dropWhile isValueByte)

def startsEmptyLine (bytes : List UInt8) : Bool :=
  bytes.head? = some lineFeed || bytes.head? = some carriageReturn

/-- Reads headers up to the empty line, of which `room` many may still come. -/
def readAll (headers : List Header) : Nat → List UInt8 → Reading (List Header)
  | room, bytes =>
    if startsEmptyLine bytes then endLine headers bytes
    else
      match readLine bytes with
      | .incomplete => .incomplete
      | .broken => .broken
      | .read header rest =>
        match room with
        | 0 => .broken
        | room + 1 => readAll (headers ++ [header]) room rest

/-- A content type must say that the content is UTF-8. -/
def namesUtf8 (value : String) : Bool :=
  let parameters := ((splitOn ';' value.toList).drop 1).map (trim isWhitespace)
  let start := "charset=".toList
  match parameters.find? start.isPrefixOf with
  | some parameter => ["utf-8".toList, "utf8".toList].contains (parameter.drop start.length)
  | none => false

/-- A count of at most sixty-four bits, maybe with a plus sign. -/
def count? (value : String) : Option Nat :=
  let digits := match value.toList with
    | '+' :: cs => cs
    | cs => cs
  if !digits.isEmpty && digits.all Char.isDigit && decimalValue digits ≤ 0xFFFFFFFFFFFFFFFF then
    some (decimalValue digits)
  else none

def utf8? (bytes : List UInt8) : Option String := String.fromUTF8? ⟨bytes.toArray⟩

/-- The number of content bytes that headers announce; the last one that counts them is right. -/
def contentLength? (headers : List Header) : Option Nat := do
  let length? ← headers.foldlM (fun length? header =>
    match utf8? header.name with
    | some "Content-Length" => ((utf8? header.value).bind count?).map some
    | some "Content-Type" =>
      if (utf8? header.value).any namesUtf8 then some length? else none
    | _ => some length?) none
  length?

theorem length_endLine_lt {α : Type} {result found : α} {bytes rest : List UInt8}
    (h : endLine result bytes = .read found rest) : rest.length < bytes.length := by
  unfold endLine at h
  grind

theorem length_readLine_lt {header : Header} {bytes rest : List UInt8}
    (h : readLine bytes = .read header rest) : rest.length < bytes.length := by
  unfold readLine at h
  have := (List.dropWhile_sublist isNameByte (l := bytes)).length_le
  split at h
  · simp at h
  · next tail split =>
    have := (List.dropWhile_sublist isValueByte (l := tail)).length_le
    simp only at h
    split at h
    · simp at h
    · have := length_endLine_lt h
      have := congrArg List.length split
      simp at this
      omega

theorem length_readAll_lt {headers found : List Header} {room : Nat} {bytes rest : List UInt8}
    (h : readAll headers room bytes = .read found rest) : rest.length < bytes.length := by
  induction room generalizing headers bytes with
  | zero =>
    unfold readAll at h
    split at h
    · exact length_endLine_lt h
    · grind
  | succ room ih =>
    unfold readAll at h
    split at h
    · exact length_endLine_lt h
    · split at h
      · simp at h
      · simp at h
      · next line =>
        have := length_readLine_lt line
        have := ih h
        omega

end Header

end LanguageServer.Rpc
