import LanguageServer.Text.CodeTable

/-!
# Whitespace

The characters of all writing systems that are shown as a gap or a new line.
-/

namespace LanguageServer.Text

def whitespace : CodeSet :=
  .ofLines ["9-D 20 85 A0 1680 2000-200A 2028-2029 202F 205F 3000"]

def isWhitespace (c : Char) : Bool := whitespace.contains c

end LanguageServer.Text
