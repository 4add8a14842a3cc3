import Bystander.Scalar.Basic
import Bystander.Decimal.Binary
/-! # Doubles as the numbers a bot runs on -/
namespace Bystander

/-- The greatest integer not above a double; an infinite or undefined one has none and gives zero. -/
def floorOfDouble (x : Float) : Int :=
  match Decimal.Kind.ofFloat x with
  | .finite b => b.floor
  | _ => 0

instance : Scalar Float where
  decLt := inferInstance
  decLe := inferInstance
  isFinite := Float.isFinite
  degree := 0.017453292519943295
  sqrt := Float.sqrt
  sin := Float.sin
  cos := Float.cos
  acos := Float.acos
  floor := floorOfDouble

end Bystander
