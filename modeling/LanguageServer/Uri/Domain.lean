import LanguageServer.Text.Normalization
import LanguageServer.Uri.Domain.Direction
import LanguageServer.Uri.Domain.Joining
import LanguageServer.Uri.Domain.Mapping
import LanguageServer.Uri.PercentEncoding
import LanguageServer.Uri.Punycode

/-!
# Domains

A domain is a sequence of labels between points. It is brought into the one form that uses ASCII
only: characters are replaced by what they stand for, and a label with other characters is written
in Punycode behind `xn--`. A label may be written so already, and must then be what its characters
are written as. How long a domain may be is NOT restricted here.
-/

namespace LanguageServer.Uri.Domain

open Text

structure Label where
  written : List Char
  characters : List Char

namespace Label

def codedStart : List Char := "xn--".toList

def digitsMax : Nat := 2000

def charactersMax : Nat := 1000

def isAscii (cs : List Char) : Bool := cs.all (·.toNat < 0x80)

/-- Whether characters could have been written as a label that needs Punycode. -/
def needsCode (characters : List Char) : Bool :=
  !isAscii characters && !codedStart.isPrefixOf characters && characters.all isValid &&
    compose characters == characters

/-- Reads a label whose characters have been replaced. -/
def ofMapped? (cs : List Char) : Option Label :=
  if codedStart.isPrefixOf cs then
    let digits := cs.drop codedStart.length
    if !isAscii cs || digitsMax < digits.length then none
    else ((Punycode.decode? digits).filter needsCode).map (⟨cs, ·⟩)
  else if isAscii cs then some ⟨cs, cs⟩
  else if charactersMax < cs.length then none
  else some ⟨codedStart ++ Punycode.encode cs, cs⟩

/-- Characters that end or split a host, or open an encoded byte. -/
def delimiters : List Char := " #%/:<>?@[\\]^|".toList

def isForbidden (c : Char) : Bool := c.toNat < 0x80 && (inControlSet c || delimiters.contains c)

def isAcceptable (label : Label) : Bool :=
  !label.characters.any isForbidden && !label.characters.head?.any isMark &&
    joinersFit [] label.characters

end Label

/-- The form of a domain that uses ASCII only. -/
def toAscii? (cs : List Char) : Option (List Char) := do
  let mapped ← cs.mapM mapCharacter?
  let labels ← (splitOn '.' (compose mapped.flatten)).mapM Label.ofMapped?
  if labels.all Label.isAcceptable && isBidirectional (labels.map Label.characters) then
    some (join '.' (labels.map Label.written))
  else none

end LanguageServer.Uri.Domain
