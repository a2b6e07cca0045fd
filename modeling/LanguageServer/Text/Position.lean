/-!
# Positions in a text

An editor names a place by line and column, both counted from zero in words of 32 bits. This
module does NOT say which place of a text a position denotes.
-/

namespace LanguageServer

/-- A line and a column in UTF-16 code units. -/
structure Position where
  line : UInt32
  character : UInt32
deriving DecidableEq, Repr, Inhabited

structure Range where
  start : Position
  stop : Position
deriving DecidableEq, Repr, Inhabited

structure TextEdit where
  range : Range
  newText : String
deriving DecidableEq, Repr

end LanguageServer
