import Bystander.Decimal.Power
/-! # The exact value of a double

A finite double is a signed integer times a power of two.  All text of numbers in the library is computed from this
exact value in integer arithmetic, so nothing is rounded twice.
-/
namespace Bystander.Decimal

/-- A finite double as the exact number `± mantissa · 2 ^ exponent`. -/
structure Binary where
  negative : Bool
  mantissa : Nat
  exponent : Int
deriving Repr, DecidableEq

inductive Kind where
  | undefined
  | infinite (negative : Bool)
  | finite (value : Binary)

/-- The parts of a double: one sign bit, eleven bits of exponent, fifty-two of fraction. -/
def Kind.ofBits (bits : Nat) : Kind :=
  let negative := bits / twoTo 63 % 2 == 1
  let biased : Nat := bits / twoTo 52 % twoTo 11
  let fraction : Nat := bits % twoTo 52
  if biased = 2047 then
    if fraction = 0 then .infinite negative else .undefined
  else if biased = 0 then .finite ⟨negative, fraction, -1074⟩
  else .finite ⟨negative, fraction + twoTo 52, (biased : Int) - 1075⟩

def Kind.ofFloat (x : Float) : Kind := .ofBits x.toBits.toNat

namespace Binary

/-- The magnitude is `numerator / denominator`. -/
def numerator (b : Binary) : Nat := b.mantissa * twoTo b.exponent.toNat

def denominator (b : Binary) : Nat := twoTo (-b.exponent).toNat

theorem denominator_pos (b : Binary) : 0 < b.denominator := twoTo_pos _

/-- The greatest integer not above the number. -/
def floor (b : Binary) : Int :=
  if b.negative then -((b.numerator + (b.denominator - 1)) / b.denominator : Nat)
  else (b.numerator / b.denominator : Nat)

end Binary

/-- The quotient of two naturals rounded to the nearest natural; a half goes to the even neighbour. -/
def roundDiv (num den : Nat) : Nat :=
  let q := num / den
  let twice := 2 * (num % den)
  if twice < den then q
  else if den < twice then q + 1
  else if q % 2 = 0 then q else q + 1

/-- The number of decimal digits of a natural; zero has none. -/
def digitCount (n : Nat) : Nat := if n = 0 then 0 else (Nat.toDigits 10 n).length

/-- The `e` with `10 ^ e ≤ num / den < 10 ^ (e + 1)`, for a positive quotient. -/
def decimalExponent (num den : Nat) : Int :=
  let guess : Int := (digitCount num : Int) - digitCount den
  if den * tenTo guess.toNat ≤ num * tenTo (-guess).toNat then guess else guess - 1

/-- `num / den` divided by `10 ^ k`, as a fraction. -/
def scaled (num den : Nat) (k : Int) : Nat × Nat := (num * tenTo (-k).toNat, den * tenTo k.toNat)

end Bystander.Decimal
