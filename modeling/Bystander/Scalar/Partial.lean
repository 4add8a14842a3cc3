import Bystander.Scalar.Basic
import Bystander.Fault
/-! # Operations that are not defined everywhere

Division by zero, the sine of an infinity and the integer of a number that is not finite are faults.  On the real
numbers only the first one can arise.
-/
namespace Bystander.Scalar

variable {α : Type} [Scalar α]

/-- A quotient, refused for a divisor that equals zero. -/
def divide (a b : α) : Except (Fault α) α := if b == 0.0 then .error .divisionByZero else .ok (a / b)

/-- The sine, refused for an infinity; it is undefined for an undefined angle. -/
def sine (x : α) : Except (Fault α) α := if isInfinite x then .error .sineOfInfinity else .ok (sin x)

/-- A number that is to become an integer must be finite. -/
def integral (x : α) (round : α → Int) : Except (Fault α) Int :=
  if isFinite x then .ok (round x)
  else if isUndefined x then .error .integerOfUndefined
  else .error .integerOfInfinity

end Bystander.Scalar
