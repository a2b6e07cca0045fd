/-!
# Shortest decimals

A floating-point number stands for the interval of reals that round to it. Its shortest decimal
has the fewest digits among the decimals in that interval and is the nearest of those. All
arithmetic here is exact; how the digits are laid out is left to the format that writes them.
-/

namespace LanguageServer

structure Decimal where
  significand : Nat
  exponent : Int
deriving DecidableEq, Repr

def Decimal.trim (d : Decimal) : Decimal :=
  if 0 < d.significand ∧ d.significand % 10 = 0 then
    trim ⟨d.significand / 10, d.exponent + 1⟩
  else d
termination_by d.significand

/-- A positive finite number of double precision, `mantissa · 2 ^ exponent`. -/
structure BinaryFloat where
  mantissa : Nat
  exponent : Int
  /-- The next number below is only half as far away as the one above. -/
  narrowBelow : Bool
deriving DecidableEq, Repr

def BinaryFloat.ofBits? (bits : UInt64) : Option BinaryFloat :=
  let fraction : Nat := bits.toNat % 0x10000000000000
  let scale : Nat := bits.toNat / 0x10000000000000 % 0x800
  if scale = 2047 then none
  else if scale = 0 then
    if fraction = 0 then none else some ⟨fraction, -1074, false⟩
  else
    some ⟨0x10000000000000 + fraction, (scale : Int) - 1075, fraction == 0 && decide (1 < scale)⟩

namespace BinaryFloat

/-- Quarters of the last place: the number itself and the ends of its interval. -/
def quarters (b : BinaryFloat) : Nat × Nat × Nat :=
  (4 * b.mantissa, 4 * b.mantissa - if b.narrowBelow then 1 else 2, 4 * b.mantissa + 2)

/-- Integers `n` and `d` with `quarters / 10 ^ place = quarters · n / d`. -/
def ratio (b : BinaryFloat) (place : Int) : Nat × Nat :=
  (Nat.pow 2 (b.exponent - 2).toNat * Nat.pow 10 (-place).toNat,
    Nat.pow 2 (2 - b.exponent).toNat * Nat.pow 10 place.toNat)

/-- The decimal with its last digit at `place` that is in the interval, the nearer if two are. -/
def decimalAt? (b : BinaryFloat) (place : Int) : Option Decimal :=
  let (n, d) := b.ratio place
  let (value, low, high) := b.quarters
  let below := value * n / d
  let inside (candidate : Nat) : Bool :=
    let x := candidate * d
    if b.mantissa % 2 = 0 then decide (low * n ≤ x ∧ x ≤ high * n)
    else decide (low * n < x ∧ x < high * n)
  let toBelow := value * n - below * d
  let toAbove := (below + 1) * d - value * n
  let belowFirst := toBelow < toAbove || (toBelow == toAbove && below % 2 == 0)
  match inside below, inside (below + 1) with
  | true, true => some ⟨if belowFirst then below else below + 1, place⟩
  | true, false => some ⟨below, place⟩
  | false, true => some ⟨below + 1, place⟩
  | false, false => none

def leadingPlace (b : BinaryFloat) : Int :=
  let one := Nat.pow 2 (-b.exponent).toNat
  let whole := b.mantissa * Nat.pow 2 b.exponent.toNat / one
  let reachesOne (shift : Nat) : Bool := one ≤ b.mantissa * Nat.pow 10 shift
  if whole = 0 then -(((List.range 325).find? reachesOne).getD 324 : Nat)
  else (Nat.toDigits 10 whole).length - 1

/-- One to sixteen digits are tried before seventeen, which always suffice. -/
def shortest (b : BinaryFloat) : Decimal :=
  let digitsAt (count : Nat) : Option Decimal := b.decimalAt? (b.leadingPlace - count)
  ((List.range 17).findSome? digitsAt).getD ⟨0, 0⟩ |>.trim

end BinaryFloat

end LanguageServer
