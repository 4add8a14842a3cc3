import Bystander.Decimal.Binary
/-! # Numbers with a fixed count of digits

The exact value is rounded once to the digits asked for, a half going to the even neighbour.  A number keeps its sign
when it is rounded to zero.
-/
namespace Bystander.Decimal

/-- The texts of the numbers that have no digits. -/
def textOfInfinite (negative : Bool) : String := if negative then "-inf" else "inf"
def textOfUndefined : String := "nan"

def padded (width n : Nat) : String :=
  let digits := toString n
  String.ofList (List.replicate (width - digits.length) '0') ++ digits

/-- The magnitude in units of `10 ^ -places`. -/
def Binary.units (b : Binary) (places : Nat) : Nat := roundDiv (b.numerator * tenTo places) b.denominator

/-- `n` units of `10 ^ -places`, with a point before the last `places` digits. -/
def pointed (places n : Nat) : String :=
  if places = 0 then toString n
  else toString (n / tenTo places) ++ "." ++ padded places (n % tenTo places)

def fixed (places : Nat) (x : Float) : String :=
  match Kind.ofFloat x with
  | .undefined => textOfUndefined
  | .infinite negative => textOfInfinite negative
  | .finite b => (if b.negative then "-" else "") ++ pointed places (b.units places)

def exponentText (e : Int) : String := "e" ++ (if e < 0 then "-" else "+") ++ padded 2 e.natAbs

/-- The magnitude as `digits · 10 ^ (exponent - places)` where `digits` has `places + 1` digits. -/
def Binary.significant (b : Binary) (places : Nat) : Nat × Int :=
  if b.mantissa = 0 then (0, 0) else
  let e := decimalExponent b.numerator b.denominator
  let (num, den) := scaled b.numerator b.denominator (e - places)
  let digits := roundDiv num den
  if digits = tenTo (places + 1) then (tenTo places, e + 1) else (digits, e)

/-- A double with one digit before the point, `places` after it and an exponent. -/
def scientific (places : Nat) (x : Float) : String :=
  match Kind.ofFloat x with
  | .undefined => textOfUndefined
  | .infinite negative => textOfInfinite negative
  | .finite b =>
    let (digits, e) := b.significant places
    (if b.negative then "-" else "") ++ pointed places digits ++ exponentText e

/-- The double nearest to a double's value rounded to `places` digits after the point. -/
def rounded (places : Nat) (x : Float) : Float :=
  match Kind.ofFloat x with
  | .finite b =>
    let y := Float.ofScientific (b.units places) true places
    if b.negative then -y else y
  | _ => x

end Bystander.Decimal
