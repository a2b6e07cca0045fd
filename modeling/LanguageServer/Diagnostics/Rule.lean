import LanguageServer.Text.Width
import LanguageServer.Text.WordCharacter

/-!
# Rules

A rule scans a text and reports findings from left to right, located by byte offsets. The built-in
rule reports words in upper case; another one reports every occurrence of a given text.
-/

namespace LanguageServer

open Text

structure Finding where
  start : Nat
  stop : Nat
  message : String
deriving DecidableEq, Repr, Inhabited

structure Rule where
  check : String → List Finding

namespace Rule

/-- A word that starts at an offset; no word at all when it is empty. -/
def closeWord (start : Nat) (word : List Char) : List (Nat × List Char) :=
  if word.isEmpty then [] else [(start, word)]

/-- The maximal runs of word characters with their offsets. `word`, which starts at `start`, is the
part of a run that stands right before the text. -/
def wordsFrom (start : Nat) (word : List Char) : List Char → List (Nat × List Char)
  | [] => closeWord start word
  | c :: cs =>
    if isWordChar c then wordsFrom start (word ++ [c]) cs
    else closeWord start word ++ wordsFrom (start + byteLength word + c.utf8Size) [] cs

def isShouted (word : List Char) : Bool := decide (2 ≤ word.length) && word.all Char.isUpper

def uppercase : Rule where
  check text := ((wordsFrom 0 [] text.toList).filter fun w => isShouted w.2).map fun w =>
    ⟨w.1, w.1 + byteLength w.2, .ofList w.2 ++ " is all uppercase."⟩

/-- Offsets at which a needle occurs in a text that starts at `offset`. The first `skipped`
characters belong to the occurrence before. -/
def occurrencesFrom (needle : List Char) (offset skipped : Nat) : List Char → List Nat
  | [] => if needle.isEmpty then [offset] else []
  | c :: cs =>
    match skipped with
    | n + 1 => occurrencesFrom needle (offset + c.utf8Size) n cs
    | 0 =>
      if needle.isPrefixOf (c :: cs) then
        offset :: occurrencesFrom needle (offset + c.utf8Size) (needle.length - 1) cs
      else occurrencesFrom needle (offset + c.utf8Size) 0 cs

/-- Reports the occurrences of a needle that do not overlap; the empty one occurs at every boundary
between characters. -/
def occurrences (needle message : String) : Rule where
  check text := (occurrencesFrom needle.toList 0 0 text.toList).map fun start =>
    ⟨start, start + needle.utf8ByteSize, message⟩

def constant (findings : List Finding) : Rule where
  check _ := findings

end Rule

end LanguageServer
