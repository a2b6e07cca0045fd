import LanguageServer.Text.Printable

/-!
# Quoted texts

A text between quotes as messages to people show it: what cannot be seen is written by its code
point.
-/

namespace LanguageServer.Text

/-- A character as it is shown between quotes. -/
def shown (c : Char) : List Char :=
  match c with
  | '"' => ['\\', '"']
  | '\\' => ['\\', '\\']
  | '\n' => ['\\', 'n']
  | '\r' => ['\\', 'r']
  | '\t' => ['\\', 't']
  | '\x00' => ['\\', '0']
  | c =>
    if isPrintable c then [c] else '\\' :: 'u' :: '\x7b' :: Nat.toDigits 16 c.toNat ++ ['\x7d']

def quoted (text : String) : String := .ofList ('"' :: text.toList.flatMap shown ++ ['"'])

end LanguageServer.Text
