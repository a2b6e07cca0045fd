import LanguageServer.Text.Composition

/-!
# Composed texts

In a composed text every mark that has a composite with the character before it is part of that
composite, and other marks stand in the order of their classes. Two texts that mean the same have
the same composed form. The syllables of Hangul are composites of two or three letters each, and
are computed rather than listed.
-/

namespace LanguageServer.Text

namespace Hangul

def syllableBase : Nat := 0xAC00

def leadBase : Nat := 0x1100

def vowelBase : Nat := 0x1161

/-- Final letters are counted from one; no final letter is counted as zero. -/
def tailBase : Nat := 0x11A7

def leadCount : Nat := 19

def vowelCount : Nat := 21

def tailCount : Nat := 28

/-- The last step of composing a syllable, taken back. -/
def split? (c : Char) : Option (Char × Char) :=
  let index := c.toNat - syllableBase
  if c.toNat < syllableBase || leadCount * vowelCount * tailCount ≤ index then none
  else
    let tail := index % tailCount
    if tail = 0 then
      some (.ofNat (leadBase + index / tailCount / vowelCount),
        .ofNat (vowelBase + index / tailCount % vowelCount))
    else some (.ofNat (c.toNat - tail), .ofNat (tailBase + tail))

/-- The syllable of two letters, or of a syllable without final letter and a final letter. -/
def join? (a b : Char) : Option Char :=
  let lead := a.toNat - leadBase
  let vowel := b.toNat - vowelBase
  let index := a.toNat - syllableBase
  let tail := b.toNat - tailBase
  if leadBase ≤ a.toNat && lead < leadCount && vowelBase ≤ b.toNat && vowel < vowelCount then
    some (.ofNat (syllableBase + (lead * vowelCount + vowel) * tailCount))
  else if syllableBase ≤ a.toNat && index < leadCount * vowelCount * tailCount &&
      index % tailCount = 0 && tailBase < b.toNat && tail < tailCount then
    some (.ofNat (a.toNat + tail))
  else none

end Hangul

def splitComposite? (c : Char) : Option (Char × Char) :=
  match composites.get? c with
  | some [a, b] => some (a, b)
  | _ => Hangul.split? c

def compositePairs : List ((Char × Char) × Char) :=
  composites.flatMap fun
    | .shifted _ _ => []
    | .listed first images => images.zipIdx.filterMap fun
      | ([a, b], i) => some ((a, b), .ofNat (first + i))
      | _ => none

def composite? (a b : Char) : Option Char :=
  (compositePairs.lookup (a, b)).orElse fun _ => Hangul.join? a b

/-- How often a composite can be split on its left at most. -/
def compositeDepth : Nat := 4

def decompose : Nat → Char → List Char
  | 0, c => [c]
  | depth + 1, c =>
    match splitComposite? c with
    | some (a, b) => decompose depth a ++ [b]
    | none => [c]

/-- Puts a character in front of a text and behind the marks of lower classes there. -/
def insertMark (c : Char) : List Char → List Char
  | [] => [c]
  | d :: ds =>
    if 0 < markClass d && markClass d < markClass c then d :: insertMark c ds else c :: d :: ds

/-- Composes a character with what follows it. `waiting` are the marks between them that had no
composite; behind a mark of the same or a higher class nothing is composed. -/
def composeFrom (base : Char) (waiting : List Char) : List Char → List Char
  | [] => base :: waiting
  | c :: cs =>
    let free := (waiting.getLast?.map fun last => decide (markClass last < markClass c)).getD true
    match if free then composite? base c else none with
    | some composite => composeFrom composite waiting cs
    | none =>
      if markClass c = 0 then base :: waiting ++ composeFrom c [] cs
      else composeFrom base (waiting ++ [c]) cs

def compose (cs : List Char) : List Char :=
  match (cs.flatMap (decompose compositeDepth)).foldr insertMark [] with
  | [] => []
  | c :: cs => composeFrom c [] cs

end LanguageServer.Text
