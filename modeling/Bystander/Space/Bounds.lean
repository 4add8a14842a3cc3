import Bystander.Space.Vec3
import Bystander.Random.Source
/-! # The box a bot lives in

The box is a rectangle on the ground with a fixed height for the pelvis.  Clamping keeps the rule of `least` and
`greatest`: an undefined coordinate becomes the lower bound only where the comparison says so.
-/
namespace Bystander

structure Bounds (α : Type) where
  xMin : α
  xMax : α
  zMin : α
  zMax : α
  yPelvis : α
deriving Repr, BEq

namespace Bounds

variable {α : Type} [Scalar α]

def standard : Bounds α := ⟨20.0, 25.0, 20.0, 25.0, 2.5⟩

def bigMoveRange (b : Bounds α) : α := Scalar.greatest (b.xMax - b.xMin) (b.zMax - b.zMin) / 2.0

/-- A coordinate moved between two ends. -/
def clampTo (low high x : α) : α := Scalar.greatest low (Scalar.least high x)

/-- The point moved into the box, at pelvis height. -/
def clamp (b : Bounds α) (p : Vec3 α) : Vec3 α :=
  ⟨clampTo b.xMin b.xMax p.x, b.yPelvis, clampTo b.zMin b.zMax p.z⟩

/-- A uniform choice of a point in the box at pelvis height; x is drawn before z. -/
def randomPoint (b : Bounds α) (s : Source α) : Vec3 α × Source α :=
  let (x, s) := s.uniform b.xMin b.xMax
  let (z, s) := s.uniform b.zMin b.zMax
  (⟨x, b.yPelvis, z⟩, s)

end Bounds
end Bystander
