/-!
# Percent-encoding

A character that may not stand in a part of a URI is written as `%` and two upper-case hexadecimal
digits for each of its UTF-8 bytes. The sets say which characters those are in each part. A `%`
that is already there is never touched.
-/

namespace LanguageServer.Uri

/-- Controls and everything outside ASCII are encoded in every part. -/
def inControlSet (c : Char) : Bool := c.toNat < 0x20 || 0x7E < c.toNat

def inFragmentSet (c : Char) : Bool := inControlSet c || " \"<>`".toList.contains c

/-- In a query of a special scheme a quote is encoded too. -/
def inQuerySet (special : Bool) (c : Char) : Bool :=
  inControlSet c || " \"#<>".toList.contains c || (special && c == '\'')

def inPathSet (c : Char) : Bool := inFragmentSet c || "#?\x7b\x7d".toList.contains c

def inUserSet (c : Char) : Bool := inPathSet c || "/:;=@[\\]^|".toList.contains c

def upperHexDigit (n : Nat) : Char := "0123456789ABCDEF".toList.getD n '0'

def percentEncode (set : Char → Bool) (cs : List Char) : List Char :=
  cs.flatMap fun c =>
    if set c then
      (String.utf8EncodeChar c).flatMap fun byte =>
        ['%', upperHexDigit (byte.toNat / 16), upperHexDigit (byte.toNat % 16)]
    else [c]

end LanguageServer.Uri
