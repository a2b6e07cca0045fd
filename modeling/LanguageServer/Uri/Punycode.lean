import LanguageServer.Text.Split

/-!
# Punycode

Writes a label with letters, digits and hyphens only. The characters of ASCII come first, then a
hyphen if there are any, then the others as a sequence of insertions in the order of their code
points. An insertion is a distance, written in base 36 with the lowest digit first; which digits
end a number depends on a bias that adapts to the distances before.
-/

namespace LanguageServer.Uri.Punycode

open Text

def digitChar (d : Nat) : Char := "abcdefghijklmnopqrstuvwxyz0123456789".toList.getD d '0'

def digit? (c : Char) : Option Nat :=
  if 'a' ≤ c ∧ c ≤ 'z' then some (c.toNat - 'a'.toNat)
  else if '0' ≤ c ∧ c ≤ '9' then some (c.toNat - '0'.toNat + 26)
  else none

/-- Digits below the threshold of their place end a number; `place` goes up by 36. -/
def threshold (place bias : Nat) : Nat := min 26 (max 1 (place - bias))

theorem threshold_pos (place bias : Nat) : 0 < threshold place bias := by unfold threshold; omega

/-- Divides a distance by 35 until it is small, and counts the divisions in steps of 36. -/
def scaleDown (distance count : Nat) : Nat × Nat :=
  if 455 < distance then scaleDown (distance / 35) (count + 36) else (distance, count)
termination_by distance
decreasing_by omega

/-- The bias after an insertion into a text that has `length` characters with it. -/
def adapt (distance length : Nat) (first : Bool) : Nat :=
  let damped := if first then distance / 700 else distance / 2
  let (rest, count) := scaleDown (damped + damped / length) 0
  count + 36 * rest / (rest + 38)

def encodeNumber (bias place n : Nat) : List Char :=
  let t := threshold place bias
  if n < t then [digitChar n]
  else digitChar (t + (n - t) % (36 - t)) :: encodeNumber bias (place + 36) ((n - t) / (36 - t))
termination_by n
decreasing_by
  have := threshold_pos place bias
  have := Nat.div_le_self (n - threshold place bias) (36 - threshold place bias)
  omega

structure Encoding where
  digits : List Char
  /-- How far it is from the last insertion to here. -/
  distance : Nat
  bias : Nat
  written : Nat

/-- Passes a character of the label in the round for the code point `code`. -/
def Encoding.pass (basic code : Nat) (e : Encoding) (c : Char) : Encoding :=
  if c.toNat < code then { e with distance := e.distance + 1 }
  else if c.toNat = code then
    { digits := (encodeNumber e.bias 36 e.distance).reverse ++ e.digits
      distance := 0
      bias := adapt e.distance (e.written + 1) (e.written = basic)
      written := e.written + 1 }
  else e

/-- One round over the label for each code point, from the lowest one on. -/
def encodeRounds (label : List Char) (basic : Nat) : List Nat → Nat → Encoding → Encoding
  | [], _, e => e
  | code :: codes, reached, e =>
    let e := { e with distance := e.distance + (code - reached) * (e.written + 1) }
    let e := label.foldl (Encoding.pass basic code) e
    encodeRounds label basic codes (code + 1) { e with distance := e.distance + 1 }

/-- The code points of a label outside ASCII, each once and in order. -/
def codesToInsert (label : List Char) : List Nat :=
  (((label.filter (0x80 ≤ ·.toNat)).map Char.toNat).mergeSort (· ≤ ·)).eraseReps

def encode (label : List Char) : List Char :=
  let basic := label.filter (·.toNat < 0x80)
  let lead := if basic.isEmpty then [] else basic ++ ['-']
  let start : Encoding := ⟨[], 0, 72, basic.length⟩
  lead ++ (encodeRounds label basic.length (codesToInsert label) 0x80 start).digits.reverse

def numberMax : Nat := 0xFFFFFFFF

def takeNumber (bias : Nat) (place weight sum : Nat) : List Char → Option (Nat × List Char)
  | [] => none
  | c :: cs =>
    match digit? c with
    | none => none
    | some d =>
      let t := threshold place bias
      if d < t then some (sum + d * weight, cs)
      else if numberMax < weight * (36 - t) then none
      else takeNumber bias (place + 36) (weight * (36 - t)) (sum + d * weight) cs

theorem length_takeNumber_lt {bias place weight sum n : Nat} {cs rest : List Char}
    (h : takeNumber bias place weight sum cs = some (n, rest)) : rest.length < cs.length := by
  fun_induction takeNumber bias place weight sum cs <;> simp_all
  omega

/-- Reads insertions one after the other. `code` and `position` are where the last one was made. -/
def insertAll (bias code position : Nat) (label : List Char) (cs : List Char) :
    Option (List Char) :=
  if cs.isEmpty then some label
  else
    match _number : takeNumber bias 36 1 0 cs with
    | none => none
    | some (distance, rest) =>
      let length := label.length + 1
      let place := position + distance
      let code := code + place / length
      if numberMax < place ∨ ¬ code.isValidChar then none
      else
        insertAll (adapt distance length (position = 0)) code (place % length + 1)
          (label.insertIdx (place % length) (.ofNat code)) rest
termination_by cs.length
decreasing_by exact length_takeNumber_lt _number

/-- The label that a text of small letters, digits and hyphens writes. -/
def decode? (cs : List Char) : Option (List Char) :=
  match cutAt? '-' cs.reverse with
  | none => insertAll 72 0x80 0 [] cs
  | some (_, []) => none
  | some (insertions, basic) => insertAll 72 0x80 0 basic.reverse insertions.reverse

end LanguageServer.Uri.Punycode
