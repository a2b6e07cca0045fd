import LanguageServer.Text.Digit
import LanguageServer.Text.Split

/-!
# Tables of code points

Properties of characters are written as lines of words, each of which is a run of code points in
hexadecimal: `first`, `first-last` or `first-last/step`. In a map a word goes on with a colon and
the images of its characters. A run has one image that goes up with it; where the word names only
its first character, there follow the images of consecutive characters between commas, and `+`
stands between the characters of one image.
-/

namespace LanguageServer.Text

/-- Every `step`-th code point from `first` to `last`. -/
structure CodeRun where
  first : Nat
  last : Nat
  step : Nat := 1
deriving DecidableEq, Repr

namespace CodeRun

def contains (run : CodeRun) (n : Nat) : Bool :=
  run.first ≤ n && n ≤ run.last && (n - run.first) % run.step == 0

def ofText? (cs : List Char) : Option CodeRun := do
  let (range, step) := (cutAt? '/' cs).getD (cs, ['1'])
  let (first, last) := (cutAt? '-' range).getD (range, range)
  some ⟨← valueInBase? 16 first, ← valueInBase? 16 last, ← valueInBase? 16 step⟩

end CodeRun

def tableWords (lines : List String) : List (List Char) :=
  lines.flatMap fun line => splitOn ' ' line.toList

abbrev CodeSet := List CodeRun

namespace CodeSet

def ofLines (lines : List String) : CodeSet := (tableWords lines).filterMap CodeRun.ofText?

def contains (set : CodeSet) (c : Char) : Bool := set.any (·.contains c.toNat)

end CodeSet

inductive CodeImages where
  /-- Single characters that go up with the run. -/
  | shifted (run : CodeRun) (image : Nat)
  /-- Images of consecutive characters. -/
  | listed (first : Nat) (images : List (List Char))
deriving Repr

namespace CodeImages

def get? : CodeImages → Char → Option (List Char)
  | shifted run image, c =>
    if run.contains c.toNat then some [.ofNat (image + (c.toNat - run.first))] else none
  | listed first images, c => if first ≤ c.toNat then images[c.toNat - first]? else none

def image? (cs : List Char) : Option (List Char) :=
  (splitOn '+' cs).mapM fun code => (valueInBase? 16 code).map Char.ofNat

def ofText? (cs : List Char) : Option CodeImages := do
  let (domain, images) ← cutAt? ':' cs
  let run ← CodeRun.ofText? domain
  if domain.contains '-' then some (shifted run (← valueInBase? 16 images))
  else some (listed run.first (← (splitOn ',' images).mapM image?))

end CodeImages

abbrev CodeMap := List CodeImages

namespace CodeMap

def ofLines (lines : List String) : CodeMap := (tableWords lines).filterMap CodeImages.ofText?

def get? (map : CodeMap) (c : Char) : Option (List Char) := map.findSome? (·.get? c)

end CodeMap

end LanguageServer.Text
