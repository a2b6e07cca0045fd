import LanguageServer.Decimal.Shortest
import LanguageServer.Json.Basic

/-!
# Writing JSON

The compact text of a value: no blanks, fields in their order, control characters escaped and all
other characters as they are. A floating-point number keeps a mark of its kind, a point or an
exponent, so that it reads back as one.
-/

namespace LanguageServer.Json

def hexDigit (n : Nat) : Char := "0123456789abcdef".toList.getD n '0'

def escape (c : Char) : List Char :=
  match c with
  | '"' => ['\\', '"']
  | '\\' => ['\\', '\\']
  | '\x08' => ['\\', 'b']
  | '\x0c' => ['\\', 'f']
  | '\n' => ['\\', 'n']
  | '\r' => ['\\', 'r']
  | '\t' => ['\\', 't']
  | c =>
    if c.toNat < 0x20 then ['\\', 'u', '0', '0', hexDigit (c.toNat / 16), hexDigit (c.toNat % 16)]
    else [c]

def quote (s : String) : String := .ofList ('"' :: s.toList.flatMap escape ++ ['"'])

/-- Lays out a decimal: with a point when that takes at most sixteen digits before it or four zeros
behind it, otherwise with one digit before the point and an exponent. -/
def decimalText (d : Decimal) : String :=
  let digits := (toString d.significand).toList
  let point : Int := digits.length + d.exponent
  if 0 ≤ d.exponent ∧ point ≤ 16 then
    .ofList (digits ++ List.replicate d.exponent.toNat '0' ++ ['.', '0'])
  else if 0 < point ∧ point ≤ 16 then
    .ofList (digits.take point.toNat ++ '.' :: digits.drop point.toNat)
  else if -5 < point ∧ point ≤ 0 then
    .ofList ('0' :: '.' :: List.replicate point.natAbs '0' ++ digits)
  else
    let fraction := if digits.length ≤ 1 then [] else '.' :: digits.drop 1
    .ofList (digits.take 1 ++ fraction ++ 'e' :: (toString (point - 1)).toList)

/-- The text of a floating-point number; one that is not finite has none of its own. -/
def floatText (x : Float) : String :=
  let sign := if 0x8000000000000000 ≤ x.toBits then "-" else ""
  match BinaryFloat.ofBits? x.toBits with
  | some b => sign ++ decimalText b.shortest
  | none => if x == 0 then sign ++ "0.0" else "null"

mutual

def write (text : String) : Json → String
  | null => text ++ "null"
  | bool true => text ++ "true"
  | bool false => text ++ "false"
  | int n => text ++ toString n
  | float x => text ++ floatText x
  | string s => text ++ quote s
  | array items => writeItems (text.push '[') true items |>.push ']'
  | object fields => writeFields (text.push '\x7b') true fields |>.push '\x7d'

def writeItems (text : String) (first : Bool) : List Json → String
  | [] => text
  | item :: items => writeItems (write (if first then text else text.push ',') item) false items

def writeFields (text : String) (first : Bool) : List (String × Json) → String
  | [] => text
  | (name, value) :: fields =>
    let text := (if first then text else text.push ',') ++ quote name
    writeFields (write (text.push ':') value) false fields

end

def compact (value : Json) : String := write "" value

end LanguageServer.Json
