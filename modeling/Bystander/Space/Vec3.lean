import Bystander.Scalar.Basic
/-! # Points and directions in space

The y axis points up, and an avatar that has not turned looks along the negative z axis.
-/
namespace Bystander

structure Vec3 (α : Type) where
  x : α
  y : α
  z : α
deriving Repr, BEq

namespace Vec3

variable {α : Type} [Scalar α]

instance : Add (Vec3 α) := ⟨fun a b => ⟨a.x + b.x, a.y + b.y, a.z + b.z⟩⟩
instance : Sub (Vec3 α) := ⟨fun a b => ⟨a.x - b.x, a.y - b.y, a.z - b.z⟩⟩
instance : HMul (Vec3 α) α (Vec3 α) := ⟨fun a k => ⟨a.x * k, a.y * k, a.z * k⟩⟩

def zero : Vec3 α := ⟨0.0, 0.0, 0.0⟩
def up : Vec3 α := ⟨0.0, 1.0, 0.0⟩

/-- The direction in which an unturned avatar looks. -/
def forward : Vec3 α := ⟨0.0, 0.0, -1.0⟩

instance : Inhabited (Vec3 α) := ⟨zero⟩

def cross (a b : Vec3 α) : Vec3 α :=
  ⟨a.y * b.z - a.z * b.y, a.z * b.x - a.x * b.z, a.x * b.y - a.y * b.x⟩

/-- The Euclidean length; it overflows and underflows with the squares. -/
def length (a : Vec3 α) : α := Scalar.sqrt (a.x * a.x + a.y * a.y + a.z * a.z)

theorem add_def (a b : Vec3 α) : a + b = ⟨a.x + b.x, a.y + b.y, a.z + b.z⟩ := rfl
theorem sub_def (a b : Vec3 α) : a - b = ⟨a.x - b.x, a.y - b.y, a.z - b.z⟩ := rfl
theorem scale_def (a : Vec3 α) (k : α) : a * k = ⟨a.x * k, a.y * k, a.z * k⟩ := rfl

end Vec3
end Bystander
