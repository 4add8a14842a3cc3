/-! # Numbers a bot computes with

Every rule of motion is written over a type of numbers with the operations of `Scalar`, so that one definition runs on
doubles and can be read over the reals.  Two doubles may be unordered; therefore the least and the greatest of two
numbers say which one they keep when neither is smaller, and a number may be neither finite nor infinite.
-/
namespace Bystander

/-- Numbers with the operations that the behaviours use. -/
class Scalar (α : Type) extends Add α, Sub α, Mul α, Div α, Neg α, LT α, LE α, BEq α, OfScientific α where
  decLt : DecidableLT α
  decLe : DecidableLE α
  isFinite : α → Bool
  degree : α
  sqrt : α → α
  sin : α → α
  cos : α → α
  acos : α → α
  /-- The greatest integer not above a finite number. -/
  floor : α → Int

namespace Scalar

variable {α : Type} [Scalar α]

instance : DecidableLT α := Scalar.decLt
instance : DecidableLE α := Scalar.decLe
instance : Inhabited α := ⟨0.0⟩

def ofNat (n : Nat) : α := OfScientific.ofScientific n false 0

def ofInt (n : Int) : α := if n < 0 then -ofNat n.natAbs else ofNat n.natAbs

/-- An undefined number is the one that differs from itself. -/
def isUndefined (x : α) : Bool := !(x == x)

def isInfinite (x : α) : Bool := !isFinite x && !isUndefined x

/-- The first of two numbers unless the second is strictly smaller. -/
def least (a b : α) : α := if b < a then b else a

/-- The first of two numbers unless the second is strictly greater. -/
def greatest (a b : α) : α := if a < b then b else a

def magnitude (x : α) : α := if x < 0.0 then -x else x

/-- A finite number without its fraction. -/
def truncate (x : α) : Int := if x < 0.0 then -floor (-x) else floor x

/-- The integer nearest to a finite number; of two equally near, the even one. -/
def nearest (x : α) : Int :=
  let below := floor x
  let rest := x - ofInt below
  if rest < 0.5 then below
  else if (0.5 : α) < rest then below + 1
  else if below % 2 = 0 then below else below + 1

/-- The point that lies the fraction `r` of the way from `a` to `b`. -/
def between (a b r : α) : α := a + (b - a) * r

end Scalar
end Bystander
