import Bystander.Space.Vec3
import Bystander.Scalar.Partial
/-! # Rotations as quaternions

A rotation is a quaternion `(x, y, z, w)`; the product applies its right factor first.  Angles are in degrees: pitch
about x, yaw about y, roll about z.  The two ways to build a rotation differ at an infinite angle: about an axis it is
refused, from three angles it is undefined.
-/
namespace Bystander

/-- A rotation, or a quaternion on the way to one. -/
structure Quat (α : Type) where
  x : α
  y : α
  z : α
  w : α
deriving Repr, BEq

namespace Quat

variable {α : Type} [Scalar α]

def identity : Quat α := ⟨0.0, 0.0, 0.0, 1.0⟩

instance : Inhabited (Quat α) := ⟨identity⟩

instance : Mul (Quat α) := ⟨fun a b =>
  ⟨a.w * b.x + a.x * b.w + a.y * b.z - a.z * b.y,
   a.w * b.y - a.x * b.z + a.y * b.w + a.z * b.x,
   a.w * b.z + a.x * b.y - a.y * b.x + a.z * b.w,
   a.w * b.w - a.x * b.x - a.y * b.y - a.z * b.z⟩⟩

instance : Neg (Quat α) := ⟨fun a => ⟨-a.x, -a.y, -a.z, -a.w⟩⟩
instance : Add (Quat α) := ⟨fun a b => ⟨a.x + b.x, a.y + b.y, a.z + b.z, a.w + b.w⟩⟩
instance : Sub (Quat α) := ⟨fun a b => ⟨a.x - b.x, a.y - b.y, a.z - b.z, a.w - b.w⟩⟩
instance : HMul (Quat α) α (Quat α) := ⟨fun a k => ⟨a.x * k, a.y * k, a.z * k, a.w * k⟩⟩
instance : HDiv (Quat α) α (Quat α) := ⟨fun a k => ⟨a.x / k, a.y / k, a.z / k, a.w / k⟩⟩

def dot (a b : Quat α) : α := a.x * b.x + a.y * b.y + a.z * b.z + a.w * b.w

def norm (a : Quat α) : α := Scalar.sqrt (a.dot a)

/-- A quaternion of length one in the same direction; the zero quaternion has none and gives the identity. -/
def normalized (a : Quat α) : Quat α := if a.norm == 0.0 then identity else a / a.norm

/-- The direction `(x, y, z)`. -/
def vector (a : Quat α) : Vec3 α := ⟨a.x, a.y, a.z⟩

/-- A vector turned by a rotation: with `t` twice the cross product of the axis part and `v`, it is `v` plus `w`
times `t` plus the cross product of the axis part and `t`. -/
def rotate (a : Quat α) (v : Vec3 α) : Vec3 α :=
  let t := (a.vector.cross v) * (2.0 : α)
  v + t * a.w + a.vector.cross t

/-- Where an avatar with this orientation looks. -/
def front (a : Quat α) : Vec3 α := a.rotate .forward

def halfAngle (degrees : α) : α := degrees * Scalar.degree / 2.0

/-- The rotation by an angle about an axis of any length; the zero axis gives the identity. -/
def angleAxis (degrees : α) (axis : Vec3 α) : Except (Fault α) (Quat α) := do
  let length := axis.length
  if length == 0.0 then return identity
  let half := halfAngle degrees
  let s ← Scalar.sine half
  return ⟨axis.x / length * s, axis.y / length * s, axis.z / length * s, Scalar.cos half⟩

/-- The rotation that rolls, then yaws, then pitches in the turned frame. -/
def ofPitchYawRoll (pitch yaw roll : α) : Quat α :=
  let hx := halfAngle pitch
  let hy := halfAngle yaw
  let hz := halfAngle roll
  let cx := Scalar.cos hx
  let cy := Scalar.cos hy
  let cz := Scalar.cos hz
  let sx := Scalar.sin hx
  let sy := Scalar.sin hy
  let sz := Scalar.sin hz
  ⟨sx * cy * cz - cx * sy * sz, cx * sy * cz + sx * cy * sz, cx * cy * sz - sx * sy * cz,
   cx * cy * cz + sx * sy * sz⟩

/-- Quaternions closer to parallel than this are mixed along the chord. -/
def chordThreshold : α := 1.0 - 1.0e-6

/-- The rotation that lies the fraction `t` of the way along the shortest arc to a target.  A target on the far side
is negated first, which is the same rotation. -/
def mix (a target : Quat α) (t : α) : Except (Fault α) (Quat α) := do
  let c := a.dot target
  let (b, c) := if c < 0.0 then (-target, -c) else (target, c)
  if chordThreshold < c then return (a + (b - a) * t).normalized
  let angle := Scalar.acos (Scalar.least 1.0 c)
  let whole ← Scalar.sine angle
  let fromStart ← Scalar.sine ((1.0 - t) * angle)
  let fromTarget ← Scalar.sine (t * angle)
  return ((a * fromStart + b * fromTarget) / whole).normalized

end Quat
end Bystander
