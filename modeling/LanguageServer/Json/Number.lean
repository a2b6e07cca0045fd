import LanguageServer.Json.Basic
import LanguageServer.Text.Digit

/-!
# Numerals

A numeral is an optional minus sign, an integer part without leading zero, an optional fraction
and an optional exponent. A numeral without fraction and exponent is an integer where it fits one.
Any other is read as a significand of at most 64 bits, further digits only counting as places, and
scaled by one power of ten, so the last bit of a long numeral may differ from the nearest
floating-point number.
-/

namespace LanguageServer.Json

open Text

def significandMax : Nat := 0xFFFFFFFFFFFFFFFF

/-- Appends digits to a significand until one does not fit; that digit and the rest are left. -/
def appendDigits : Nat → List Char → Nat × List Char
  | significand, [] => (significand, [])
  | significand, d :: ds =>
    let next := significand * 10 + digitValue d
    if next ≤ significandMax then appendDigits next ds else (significand, d :: ds)

/-- A power of ten with an exponent of at most 308. -/
def powerOfTen (exponent : Nat) : Float := .ofScientific 1 false exponent

/-- The floating-point number `significand · 10 ^ exponent`, or nothing when it overflows. -/
def scale (significand : Nat) (exponent : Int) : Option Float :=
  let f := significand.toUInt64.toFloat
  if 0 ≤ exponent then
    if exponent ≤ 308 then
      let scaled := f * powerOfTen exponent.toNat
      if scaled.isInf then none else some scaled
    else if significand = 0 then some 0 else none
  else if -308 ≤ exponent then some (f / powerOfTen exponent.natAbs)
  else if -616 ≤ exponent then some (f / powerOfTen 308 / powerOfTen (exponent + 308).natAbs)
  else some 0

structure Numeral where
  negative : Bool
  whole : List Char
  fraction? : Option (List Char)
  exponent? : Option Int

def Numeral.float? (n : Numeral) : Option Json :=
  let (leading, overflow) := appendDigits 0 n.whole
  let fraction := n.fraction?.getD []
  let (significand, ignored) := appendDigits leading fraction
  let places : Int := overflow.length - (fraction.length - ignored.length : Nat)
  (scale significand (places + n.exponent?.getD 0)).map fun f =>
    .float (if n.negative then -f else f)

/-- The value of a numeral; minus zero and integers out of range are floating-point numbers. -/
def Numeral.value? (n : Numeral) : Option Json :=
  match n.fraction?, n.exponent? with
  | none, none =>
    let magnitude : Int := decimalValue n.whole
    if n.negative then
      if 0 < magnitude ∧ integerMin ≤ -magnitude then some (.int (-magnitude)) else n.float?
    else if magnitude ≤ integerMax then some (.int magnitude) else n.float?
  | _, _ => n.float?

def takeDigits (cs : List Char) : List Char × List Char :=
  (cs.takeWhile Char.isDigit, cs.dropWhile Char.isDigit)

/-- The integer part: a zero, or digits that do not start with one. -/
def takeWhole (cs : List Char) : Option (List Char × List Char) :=
  match takeDigits cs with
  | ([], _) => none
  | (['0'], rest) => some (['0'], rest)
  | ('0' :: _, _) => none
  | (digits, rest) => some (digits, rest)

/-- The fraction, when a point stands first; at least one digit follows the point. -/
def takeFraction : List Char → Option (Option (List Char) × List Char)
  | '.' :: cs =>
    match takeDigits cs with
    | ([], _) => none
    | (digits, rest) => some (some digits, rest)
  | cs => some (none, cs)

/-- Digits, at least one, with the sign that stood before them. -/
def takeMagnitude (sign : Int) (cs : List Char) : Option (Int × List Char) :=
  match takeDigits cs with
  | ([], _) => none
  | (digits, rest) => some (sign * decimalValue digits, rest)

def takeSigned : List Char → Option (Int × List Char)
  | '+' :: cs => takeMagnitude 1 cs
  | '-' :: cs => takeMagnitude (-1) cs
  | cs => takeMagnitude 1 cs

def takeExponent : List Char → Option (Option Int × List Char)
  | 'e' :: cs | 'E' :: cs => (takeSigned cs).map fun (value, rest) => (some value, rest)
  | cs => some (none, cs)

def takeNumeral (negative : Bool) (cs : List Char) : Option (Json × List Char) := do
  let (whole, cs) ← takeWhole cs
  let (fraction?, cs) ← takeFraction cs
  let (exponent?, cs) ← takeExponent cs
  let value ← Numeral.value? ⟨negative, whole, fraction?, exponent?⟩
  pure (value, cs)

theorem length_takeDigits_snd_le (cs : List Char) : (takeDigits cs).2.length ≤ cs.length :=
  (List.dropWhile_sublist _).length_le

theorem length_takeDigits_lt {cs digits rest : List Char} (h : takeDigits cs = (digits, rest))
    (nonempty : digits ≠ []) : rest.length < cs.length := by
  have split := List.takeWhile_append_dropWhile (p := Char.isDigit) (l := cs)
  simp only [takeDigits, Prod.mk.injEq] at h
  rw [h.1, h.2] at split
  have := congrArg List.length split
  have := List.length_pos_iff.2 nonempty
  simp at *
  omega

theorem length_takeWhole_lt {cs digits rest : List Char} (h : takeWhole cs = some (digits, rest)) :
    rest.length < cs.length := by
  unfold takeWhole at h
  split at h
  · simp at h
  · next whole =>
    simp only [Option.some.injEq, Prod.mk.injEq] at h
    exact h.2 ▸ length_takeDigits_lt whole (by simp)
  · simp at h
  · next nonempty _ _ whole =>
    simp only [Option.some.injEq, Prod.mk.injEq] at h
    exact h.2 ▸ length_takeDigits_lt whole nonempty

theorem length_takeFraction_le {cs rest : List Char} {digits : Option (List Char)}
    (h : takeFraction cs = some (digits, rest)) : rest.length ≤ cs.length := by
  unfold takeFraction at h
  split at h
  · next cs =>
    have := length_takeDigits_snd_le cs
    split at h <;> simp_all
    omega
  · simp_all

theorem length_takeMagnitude_le {sign value : Int} {cs rest : List Char}
    (h : takeMagnitude sign cs = some (value, rest)) : rest.length ≤ cs.length := by
  have := length_takeDigits_snd_le cs
  unfold takeMagnitude at h
  split at h <;> simp_all

theorem length_takeSigned_le {value : Int} {cs rest : List Char}
    (h : takeSigned cs = some (value, rest)) : rest.length ≤ cs.length := by
  unfold takeSigned at h
  split at h <;> have := length_takeMagnitude_le h <;> simp <;> omega

theorem length_takeExponent_le {cs rest : List Char} {exponent : Option Int}
    (h : takeExponent cs = some (exponent, rest)) : rest.length ≤ cs.length := by
  unfold takeExponent at h
  split at h
  · simp only [Option.map_eq_some_iff, Prod.mk.injEq, Prod.exists] at h
    obtain ⟨_, _, signed, _, rfl⟩ := h
    have := length_takeSigned_le signed
    simp
    omega
  · simp only [Option.map_eq_some_iff, Prod.mk.injEq, Prod.exists] at h
    obtain ⟨_, _, signed, _, rfl⟩ := h
    have := length_takeSigned_le signed
    simp
    omega
  · simp_all

theorem length_takeNumeral_lt {negative : Bool} {cs rest : List Char} {value : Json}
    (h : takeNumeral negative cs = some (value, rest)) : rest.length < cs.length := by
  simp only [takeNumeral, Option.bind_eq_bind, Option.bind_eq_some_iff, Prod.exists] at h
  obtain ⟨whole, cs₁, h₁, fraction, cs₂, h₂, exponent, cs₃, h₃, v, _, h₄⟩ := h
  simp only [Option.pure_def, Option.some.injEq, Prod.mk.injEq] at h₄
  have := length_takeWhole_lt h₁
  have := length_takeFraction_le h₂
  have := length_takeExponent_le h₃
  rw [← h₄.2]
  omega

end LanguageServer.Json
