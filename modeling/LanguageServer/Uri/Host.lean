import LanguageServer.Text.Digit
import LanguageServer.Uri.Domain

/-!
# Hosts

The host of a special scheme is a domain, an IPv4 address in dotted form or an IPv6 address in
brackets. The host of any other scheme is an IPv6 address or any text without a delimiter.
-/

namespace LanguageServer

open Text

inductive UriError where
  | emptyHost
  | domain
  | hostCharacter
  | ipv4
  | ipv6
  | port
  | relative
deriving DecidableEq, Repr

def UriError.message : UriError → String
  | emptyHost => "empty host"
  | domain => "invalid international domain name"
  | hostCharacter => "invalid domain character"
  | ipv4 => "invalid IPv4 address"
  | ipv6 => "invalid IPv6 address"
  | port => "invalid port number"
  | relative => "relative URL without a base"

namespace Uri

/-- Numbers of an address are written in the base that their start tells. -/
def addressNumber? : List Char → Option Nat
  | [] => none
  | '0' :: 'x' :: cs | '0' :: 'X' :: cs => valueInBase? 16 cs
  | '0' :: c :: cs => valueInBase? 8 (c :: cs)
  | cs => valueInBase? 10 cs

def labels (cs : List Char) : List (List Char) :=
  let parts := splitOn '.' cs
  if parts.getLast? = some [] && 1 < parts.length then parts.dropLast else parts

/-- A domain whose last label is a number has to be an IPv4 address. -/
def endsInNumber (cs : List Char) : Bool :=
  match (labels cs).getLast? with
  | none => false
  | some last => (!last.isEmpty && last.all Char.isDigit) || (addressNumber? last).isSome

def dotted (address : Nat) : List Char :=
  let bytes := [address / 0x1000000, address / 0x10000 % 256, address / 0x100 % 256, address % 256]
  join '.' (bytes.map fun byte => (toString byte).toList)

/-- Of at most four numbers, each but the last is a byte and the last fills what remains. -/
def ipv4? (cs : List Char) : Option (List Char) := do
  let numbers ← (labels cs).mapM addressNumber?
  let last ← numbers.getLast?
  let leading := numbers.dropLast
  let room := Nat.pow 256 (4 - leading.length)
  if numbers.length ≤ 4 && leading.all (· < 256) && last < room then
    let high := leading.foldl (fun n byte => n * 256 + byte) 0
    some (dotted (high * room + last))
  else none

def plainByte? : List Char → Option Nat
  | [] | '0' :: _ :: _ => none
  | cs => (valueInBase? 10 cs).filter (· < 256)

/-- Groups of sixteen bits between colons; the last one may be an IPv4 address for two groups. -/
def groups? (cs : List Char) : Option (List Nat) :=
  if cs.isEmpty then some []
  else
    let parts := splitOn ':' cs
    let group? (part : List Char) : Option (List Nat) :=
      if part.contains '.' then
        match (splitOn '.' part).mapM plainByte? with
        | some [a, b, c, d] => some [a * 256 + b, c * 256 + d]
        | _ => none
      else if part.isEmpty || 4 < part.length then none
      else (valueInBase? 16 part).map ([·])
    if parts.dropLast.any (·.contains '.') then none else (parts.mapM group?).map List.flatten

def cutAtGap? : List Char → Option (List Char × List Char)
  | ':' :: ':' :: cs => some ([], cs)
  | c :: cs => (cutAtGap? cs).map fun (before, after) => (c :: before, after)
  | [] => none

/-- Eight groups; a pair of colons stands once for at least one group of zeros. -/
def ipv6Groups? (cs : List Char) : Option (List Nat) := do
  match cutAtGap? cs with
  | none =>
    let groups ← groups? cs
    if groups.length = 8 then some groups else none
  | some (before, after) =>
    let head ← groups? before
    let tail ← groups? after
    if head.length + tail.length < 8 && !before.contains '.' then
      some (head ++ List.replicate (8 - head.length - tail.length) 0 ++ tail)
    else none

def zeroRun (groups : List Nat) : Nat := (groups.takeWhile (· = 0)).length

/-- Groups in hexadecimal; the first longest run of two or more zeros becomes a pair of colons. -/
def ipv6Text (groups : List Nat) : List Char :=
  let hex (group : Nat) : List Char := Nat.toDigits 16 group
  let runs := (List.range groups.length).map fun i => zeroRun (groups.drop i)
  let longest := runs.foldl max 0
  if longest < 2 then join ':' (groups.map hex)
  else
    let start := runs.idxOf longest
    join ':' ((groups.take start).map hex) ++ [':', ':'] ++
      join ':' ((groups.drop (start + longest)).map hex)

def bracketed (cs : List Char) : Except UriError (List Char) :=
  match cs.getLast? with
  | some ']' =>
    match ipv6Groups? cs.dropLast with
    | some groups => .ok ('[' :: ipv6Text groups ++ [']'])
    | none => .error .ipv6
  | _ => .error .ipv6

def percentDecode : List Char → List UInt8
  | '%' :: a :: b :: cs =>
    match hexValue? a, hexValue? b with
    | some high, some low => .ofNat (high * 16 + low) :: percentDecode cs
    | _, _ => '%'.toUInt8 :: percentDecode (a :: b :: cs)
  | c :: cs => String.utf8EncodeChar c ++ percentDecode cs
  | [] => []

def domain (cs : List Char) : Except UriError (List Char) :=
  match (String.fromUTF8? ⟨(percentDecode cs).toArray⟩).bind (Domain.toAscii? ·.toList) with
  | some domain => .ok domain
  | none => .error .domain

def specialHost : List Char → Except UriError (List Char)
  | '[' :: cs => bracketed cs
  | cs => do
    let domain ← domain cs
    if domain.isEmpty then .error .emptyHost
    else if endsInNumber domain then
      match ipv4? domain with
      | some address => .ok address
      | none => .error .ipv4
    else .ok domain

def isHostDelimiter (c : Char) : Bool := "\x00\t\n\r #/:<>?@[\\]^|".toList.contains c

/-- The host of a scheme that is not special; it may be empty. -/
def otherHost : List Char → Except UriError (List Char)
  | '[' :: cs => bracketed cs
  | cs =>
    if cs.any isHostDelimiter then .error .hostCharacter
    else .ok (percentEncode inControlSet cs)

end Uri

end LanguageServer
