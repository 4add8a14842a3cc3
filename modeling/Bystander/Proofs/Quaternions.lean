import Mathlib
import Bystander.Proofs.Reals
import Bystander.Space.Quat
/-! # Quaternions of length one turn vectors

With exact numbers the product of quaternions is associative, and the length of a product is the product of the lengths.
A quaternion of length one turns a vector as it conjugates the quaternion made of that vector (`conjugated`), so the
laws of turning are read off the product: turning by a product is turning twice, and the two parts of the product of two
vectors, their cross product and their dot product, are turned and kept.
-/
namespace Bystander

/-! ## Vectors -/

namespace Vec3

@[ext] theorem ext {α : Type} {v w : Vec3 α} (hx : v.x = w.x) (hy : v.y = w.y) (hz : v.z = w.z) : v = w := by
  cases v
  cases w
  simp_all

def dot {α : Type} [Scalar α] (v w : Vec3 α) : α := v.x * w.x + v.y * w.y + v.z * w.z

theorem length_eq_sqrt_dot (v : Vec3 ℝ) : v.length = Real.sqrt (v.dot v) := rfl

theorem length_nonneg (v : Vec3 ℝ) : 0 ≤ v.length := Real.sqrt_nonneg _

theorem length_scale (v : Vec3 ℝ) {k : ℝ} (hk : 0 ≤ k) : (v * k).length = k * v.length := by
  have hsquares : (v * k).dot (v * k) = k ^ 2 * v.dot v := by
    simp only [dot, scale_def]
    ring
  rw [length_eq_sqrt_dot, hsquares, Real.sqrt_mul (by positivity), Real.sqrt_sq hk]
  rfl

end Vec3

namespace Quat

/-! ## Quaternions -/

@[ext] theorem ext {α : Type} {a b : Quat α} (hx : a.x = b.x) (hy : a.y = b.y) (hz : a.z = b.z) (hw : a.w = b.w) :
    a = b := by
  cases a
  cases b
  simp_all

section Parts

variable {α : Type} [Scalar α] (a b : Quat α) (k : α)

theorem mul_def : a * b =
    ⟨a.w * b.x + a.x * b.w + a.y * b.z - a.z * b.y, a.w * b.y - a.x * b.z + a.y * b.w + a.z * b.x,
      a.w * b.z + a.x * b.y - a.y * b.x + a.z * b.w, a.w * b.w - a.x * b.x - a.y * b.y - a.z * b.z⟩ := rfl

theorem neg_def : -a = ⟨-a.x, -a.y, -a.z, -a.w⟩ := rfl
theorem add_def : a + b = ⟨a.x + b.x, a.y + b.y, a.z + b.z, a.w + b.w⟩ := rfl
theorem sub_def : a - b = ⟨a.x - b.x, a.y - b.y, a.z - b.z, a.w - b.w⟩ := rfl
theorem scale_def : a * k = ⟨a.x * k, a.y * k, a.z * k, a.w * k⟩ := rfl
theorem div_def : a / k = ⟨a.x / k, a.y / k, a.z / k, a.w / k⟩ := rfl

/-- The same rotation backwards, for a quaternion of length one. -/
def conjugate : Quat α := ⟨-a.x, -a.y, -a.z, a.w⟩

/-- The quaternion with a vector and a number as its parts. -/
def ofParts (v : Vec3 α) (w : α) : Quat α := ⟨v.x, v.y, v.z, w⟩

end Parts

variable {a b : Quat ℝ}

theorem identity_real : (identity : Quat ℝ) = ⟨0, 0, 0, 1⟩ := by
  rw [identity, Scalar.zero_literal, Scalar.one_literal]

/-- **Quaternions with their product are a monoid.** -/
noncomputable instance : Monoid (Quat ℝ) where
  one := identity
  mul_assoc a b c := by
    ext <;> simp only [mul_def] <;> ring
  one_mul a := by
    change identity * a = a
    ext <;> simp [identity_real, mul_def]
  mul_one a := by
    change a * identity = a
    ext <;> simp [identity_real, mul_def]

theorem one_def : (1 : Quat ℝ) = identity := rfl

theorem dot_comm (a b : Quat ℝ) : a.dot b = b.dot a := by
  simp only [dot]
  ring

theorem norm_sq (a : Quat ℝ) : a.norm ^ 2 = a.dot a := by
  refine Real.sq_sqrt ?_
  simp only [dot]
  nlinarith [mul_self_nonneg a.x, mul_self_nonneg a.y, mul_self_nonneg a.z, mul_self_nonneg a.w]

theorem norm_eq_one_iff : a.norm = 1 ↔ a.dot a = 1 := Real.sqrt_eq_one

/-- **The length of a product**, squared. -/
theorem dot_mul_self (a b : Quat ℝ) : (a * b).dot (a * b) = a.dot a * b.dot b := by
  simp only [mul_def, dot]
  ring

/-! ## Conjugation -/

theorem conjugate_mul (a b : Quat ℝ) : (a * b).conjugate = b.conjugate * a.conjugate := by
  ext <;> simp only [conjugate, mul_def] <;> ring

theorem conjugate_mul_self (ha : a.dot a = 1) : a.conjugate * a = 1 := by
  rw [one_def, identity_real]
  ext <;> simp only [conjugate, mul_def]
  · ring
  · ring
  · ring
  · rw [← ha, dot]
    ring

theorem ofParts_inj {v w : Vec3 ℝ} {s t : ℝ} : ofParts v s = ofParts w t ↔ v = w ∧ s = t := by
  constructor
  · intro h
    exact ⟨Vec3.ext (congrArg Quat.x h) (congrArg Quat.y h) (congrArg Quat.z h), congrArg Quat.w h⟩
  · rintro ⟨rfl, rfl⟩
    rfl

/-- The product of two vectors holds both their products. -/
theorem ofParts_mul (v w : Vec3 ℝ) : ofParts v 0 * ofParts w 0 = ofParts (v.cross w) (-v.dot w) := by
  ext <;> simp only [ofParts, mul_def, Vec3.cross, Vec3.dot] <;> ring

theorem rotate_real (a : Quat ℝ) (v : Vec3 ℝ) : a.rotate v =
    v + a.vector.cross v * (2 * a.w) + a.vector.cross (a.vector.cross v) * (2 : ℝ) := by
  have htwo : (2.0 : ℝ) = 2 := by norm_num
  simp only [rotate, htwo]
  ext <;> simp only [Vec3.add_def, Vec3.scale_def, Vec3.cross, vector] <;> ring

/-- **A quaternion of length one turns the vector part and keeps the number.** -/
theorem conjugated (ha : a.dot a = 1) (v : Vec3 ℝ) (s : ℝ) :
    a * ofParts v s * a.conjugate = ofParts (a.rotate v) s := by
  rw [dot] at ha
  ext <;> simp only [rotate_real, ofParts, conjugate, mul_def, Vec3.add_def, Vec3.scale_def, Vec3.cross, vector]
  · linear_combination v.x * ha
  · linear_combination v.y * ha
  · linear_combination v.z * ha
  · linear_combination s * ha

/-- Conjugation goes through products. -/
theorem conjugated_mul (ha : a.dot a = 1) (p q : Quat ℝ) :
    a * (p * q) * a.conjugate = (a * p * a.conjugate) * (a * q * a.conjugate) := by
  calc a * (p * q) * a.conjugate = a * p * 1 * (q * a.conjugate) := by simp only [mul_one, mul_assoc]
    _ = a * p * (a.conjugate * a) * (q * a.conjugate) := by rw [conjugate_mul_self ha]
    _ = (a * p * a.conjugate) * (a * q * a.conjugate) := by simp only [mul_assoc]

/-- **Both products of two vectors** are turned along. -/
theorem rotate_products (ha : a.dot a = 1) (v w : Vec3 ℝ) :
    (a.rotate v).cross (a.rotate w) = a.rotate (v.cross w) ∧ (a.rotate v).dot (a.rotate w) = v.dot w := by
  have h : ofParts ((a.rotate v).cross (a.rotate w)) (-(a.rotate v).dot (a.rotate w)) =
      ofParts (a.rotate (v.cross w)) (-v.dot w) := by
    rw [← ofParts_mul, ← conjugated ha, ← conjugated ha, ← conjugated_mul ha, ofParts_mul, conjugated ha]
  obtain ⟨hcross, hdot⟩ := ofParts_inj.1 h
  exact ⟨hcross, neg_inj.1 hdot⟩

theorem rotate_mul (ha : a.dot a = 1) (hb : b.dot b = 1) (v : Vec3 ℝ) : (a * b).rotate v = a.rotate (b.rotate v) := by
  have hab : (a * b).dot (a * b) = 1 := by rw [dot_mul_self, ha, hb, one_mul]
  have h : ofParts ((a * b).rotate v) 0 = ofParts (a.rotate (b.rotate v)) 0 := by
    rw [← conjugated hab, ← conjugated ha, ← conjugated hb, conjugate_mul]
    simp only [mul_assoc]
  exact (ofParts_inj.1 h).1

theorem rotate_neg (a : Quat ℝ) (v : Vec3 ℝ) : (-a).rotate v = a.rotate v := by
  rw [rotate_real, rotate_real]
  ext <;> simp only [neg_def, Vec3.add_def, Vec3.scale_def, Vec3.cross, vector] <;> ring

/-- **Rotations act on vectors.**  A product turns as its right factor and then its left one; dot products, lengths and
cross products are kept; a vector is turned as it is conjugated, and alike by both quaternions of a rotation.  The
product of any quaternions is associative, and its squared length is the product of theirs. -/
theorem rotations_act (ha : a.norm = 1) (hb : b.norm = 1) (v w : Vec3 ℝ) :
    (a * b).rotate v = a.rotate (b.rotate v) ∧
    (a.rotate v).dot (a.rotate w) = v.dot w ∧ (a.rotate v).length = v.length ∧
    a.rotate (v.cross w) = (a.rotate v).cross (a.rotate w) ∧
    a.rotate v = (a * ofParts v 0 * a.conjugate).vector ∧ (-a).rotate v = a.rotate v ∧
    ∀ p q r : Quat ℝ, p * q * r = p * (q * r) ∧ (p * q).norm ^ 2 = p.norm ^ 2 * q.norm ^ 2 := by
  rw [norm_eq_one_iff] at ha hb
  obtain ⟨hcross, hdot⟩ := rotate_products ha v w
  refine ⟨rotate_mul ha hb v, hdot, ?_, hcross.symm, ?_, rotate_neg a v, fun p q r => ⟨mul_assoc p q r, ?_⟩⟩
  · rw [Vec3.length_eq_sqrt_dot, (rotate_products ha v v).2, Vec3.length_eq_sqrt_dot]
  · rw [conjugated ha]
    rfl
  · rw [norm_sq, norm_sq, norm_sq, dot_mul_self]

/-- Two turns about different axes. -/
theorem rotations_act_oblique :
    let a : Quat ℝ := ⟨3 / 5, 0, 0, 4 / 5⟩
    let b : Quat ℝ := ⟨0, 5 / 13, 0, 12 / 13⟩
    let v : Vec3 ℝ := ⟨1, 2, 3⟩
    (a.norm = 1 ∧ b.norm = 1) ∧ (a * b).rotate v = a.rotate (b.rotate v) ∧ (a.rotate v).length = v.length := by
  intro a b v
  have ha : a.norm = 1 := by
    rw [norm_eq_one_iff]
    norm_num [a, dot]
  have hb : b.norm = 1 := by
    rw [norm_eq_one_iff]
    norm_num [b, dot]
  obtain ⟨hproduct, -, hlength, -⟩ := rotations_act ha hb v v
  exact ⟨⟨ha, hb⟩, hproduct, hlength⟩

end Quat
end Bystander
