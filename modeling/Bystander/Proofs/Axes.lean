import Bystander.Proofs.Rotations
/-! # Turns about an axis

With exact numbers a turn about an axis depends on the direction of the axis and not on its length, it leaves the axis
where it is, and two turns about one axis add up (`about_mul`).  The rotation from pitch, yaw and roll is the turn about
x, then the one about y, and then the one about z (`ofPitchYawRoll_eq`).
-/
namespace Bystander

/-! ## Directions -/

namespace Vec3

/-- The vector of length one with the same direction. -/
noncomputable def direction (v : Vec3 ℝ) : Vec3 ℝ := ⟨v.x / v.length, v.y / v.length, v.z / v.length⟩

variable {v : Vec3 ℝ}

theorem zero_real : (zero : Vec3 ℝ) = ⟨0, 0, 0⟩ := by
  rw [zero, Scalar.zero_literal]

theorem length_pos (hv : v ≠ zero) : 0 < v.length := by
  refine (length_nonneg v).lt_of_ne' fun hlength => hv ?_
  rw [length_eq_sqrt_dot, Real.sqrt_eq_zero', dot] at hlength
  have hx := mul_self_nonneg v.x
  have hy := mul_self_nonneg v.y
  have hz := mul_self_nonneg v.z
  rw [zero_real]
  ext
  · exact mul_self_eq_zero.1 (by linarith)
  · exact mul_self_eq_zero.1 (by linarith)
  · exact mul_self_eq_zero.1 (by linarith)

theorem direction_dot_self (hv : v ≠ zero) : v.direction.dot v.direction = 1 := by
  have hpos := length_pos hv
  have hsquare : v.length * v.length = v.dot v := by
    refine Real.mul_self_sqrt ?_
    nlinarith [mul_self_nonneg v.x, mul_self_nonneg v.y, mul_self_nonneg v.z]
  rw [dot] at hsquare
  simp only [direction, dot]
  field_simp
  linear_combination -hsquare

theorem direction_scale_length (hv : v ≠ zero) : v.direction * v.length = v := by
  have hpos := (length_pos hv).ne'
  ext <;> simp only [direction, scale_def] <;> exact div_mul_cancel₀ _ hpos

/-- **The direction of a vector** does not depend on its length. -/
theorem direction_scale (v : Vec3 ℝ) {k : ℝ} (hk : 0 < k) : (v * k).direction = v.direction := by
  unfold direction
  rw [length_scale v hk.le, mul_comm k]
  ext <;> exact mul_div_mul_right _ _ hk.ne'

theorem scale_ne_zero (hv : v ≠ zero) {k : ℝ} (hk : 0 < k) : v * k ≠ zero := by
  intro hzero
  have hlength : (v * k).length = 0 := by
    rw [hzero, zero_real]
    simp [length_eq_sqrt_dot, dot]
  rw [length_scale v hk.le] at hlength
  exact (mul_pos hk (length_pos hv)).ne' hlength

end Vec3

namespace Quat

/-! ## Turns -/

theorem halfAngle_real (degrees : ℝ) : halfAngle degrees = degrees * (Real.pi / 180) / 2 := by
  have htwo : (2.0 : ℝ) = 2 := by norm_num
  rw [halfAngle, htwo]
  rfl

theorem halfAngle_add (a b : ℝ) : halfAngle (a + b) = halfAngle a + halfAngle b := by
  rw [halfAngle_real, halfAngle_real, halfAngle_real, add_mul, add_div]

/-- **The turn about an axis of length one.** -/
noncomputable def about (axis : Vec3 ℝ) (degrees : ℝ) : Quat ℝ :=
  ofParts (axis * Real.sin (halfAngle degrees)) (Real.cos (halfAngle degrees))

variable {axis : Vec3 ℝ}

theorem about_unit (haxis : axis.dot axis = 1) (degrees : ℝ) : (about axis degrees).dot (about axis degrees) = 1 := by
  rw [Vec3.dot] at haxis
  simp only [about, ofParts, Vec3.scale_def, dot]
  linear_combination Real.sin (halfAngle degrees) ^ 2 * haxis + Real.sin_sq_add_cos_sq (halfAngle degrees)

/-- **Turns about one axis add up.** -/
theorem about_mul (haxis : axis.dot axis = 1) (a b : ℝ) : about axis a * about axis b = about axis (a + b) := by
  rw [Vec3.dot] at haxis
  simp only [about, halfAngle_add, Real.sin_add, Real.cos_add]
  ext <;> simp only [ofParts, Vec3.scale_def, mul_def]
  · ring
  · ring
  · ring
  · linear_combination -(Real.sin (halfAngle a) * Real.sin (halfAngle b)) * haxis

/-- **A turn leaves its axis where it is**, and every vector along it. -/
theorem rotate_about (axis : Vec3 ℝ) (degrees k : ℝ) : (about axis degrees).rotate (axis * k) = axis * k := by
  rw [rotate_real]
  ext <;> simp only [about, ofParts, vector, Vec3.add_def, Vec3.scale_def, Vec3.cross] <;> ring

theorem angleAxis_of_ne_zero (haxis : axis ≠ .zero) (degrees : ℝ) :
    angleAxis degrees axis = .ok (about axis.direction degrees) := by
  have hlength : (axis.length == 0.0) = false := by
    rw [Scalar.zero_literal]
    simpa using (Vec3.length_pos haxis).ne'
  unfold angleAxis
  dsimp only
  rw [hlength, if_neg Bool.false_ne_true, sine_real]
  rfl

theorem angleAxis_of_unit (haxis : axis.dot axis = 1) (degrees : ℝ) :
    angleAxis degrees axis = .ok (about axis degrees) := by
  have hlength : axis.length = 1 := by
    rw [Vec3.length_eq_sqrt_dot, haxis, Real.sqrt_one]
  have hne : axis ≠ .zero := by
    rintro rfl
    simp [Vec3.zero_real, Vec3.dot] at haxis
  have hdirection : axis.direction = axis := by
    ext <;> simp only [Vec3.direction, hlength, div_one]
  rw [angleAxis_of_ne_zero hne, hdirection]

/-! ## Three turns in a row -/

/-- **The rotation from three angles** pitches, then yaws, and then rolls. -/
theorem ofPitchYawRoll_eq (pitch yaw roll : ℝ) :
    ofPitchYawRoll pitch yaw roll = about ⟨0, 0, 1⟩ roll * about ⟨0, 1, 0⟩ yaw * about ⟨1, 0, 0⟩ pitch := by
  ext <;> simp only [ofPitchYawRoll, about, ofParts, Vec3.scale_def, mul_def]
  all_goals
    dsimp only [Scalar.sin, Scalar.cos]
    ring

/-- **The two ways to build a rotation agree.**  The rotation from pitch, yaw and roll is the product of the turns about
z, y and x, and has length one.  A turn about an axis that is not zero is the same for all axes of its direction, has
length one and leaves the axis where it is; turns about one axis add up. -/
theorem constructors_agree (pitch yaw roll : ℝ) :
    (∃ byPitch byYaw byRoll, angleAxis pitch ⟨1, 0, 0⟩ = .ok byPitch ∧ angleAxis yaw ⟨0, 1, 0⟩ = .ok byYaw ∧
      angleAxis roll ⟨0, 0, 1⟩ = .ok byRoll ∧ ofPitchYawRoll pitch yaw roll = byRoll * byYaw * byPitch) ∧
    (ofPitchYawRoll pitch yaw roll).norm = 1 ∧
    ∀ axis : Vec3 ℝ, axis ≠ .zero → ∃ turn : ℝ → Quat ℝ,
      (∀ degrees, angleAxis degrees axis = .ok (turn degrees) ∧
        (∀ k : ℝ, 0 < k → angleAxis degrees (axis * k) = .ok (turn degrees)) ∧
        (turn degrees).norm = 1 ∧ (turn degrees).rotate axis = axis) ∧
      ∀ a b, turn a * turn b = turn (a + b) := by
  have hx : (⟨1, 0, 0⟩ : Vec3 ℝ).dot ⟨1, 0, 0⟩ = 1 := by norm_num [Vec3.dot]
  have hy : (⟨0, 1, 0⟩ : Vec3 ℝ).dot ⟨0, 1, 0⟩ = 1 := by norm_num [Vec3.dot]
  have hz : (⟨0, 0, 1⟩ : Vec3 ℝ).dot ⟨0, 0, 1⟩ = 1 := by norm_num [Vec3.dot]
  refine ⟨⟨_, _, _, angleAxis_of_unit hx pitch, angleAxis_of_unit hy yaw, angleAxis_of_unit hz roll,
    ofPitchYawRoll_eq pitch yaw roll⟩, ?_, fun axis haxis => ?_⟩
  · rw [norm_eq_one_iff, ofPitchYawRoll_eq, dot_mul_self, dot_mul_self, about_unit hx, about_unit hy, about_unit hz,
      one_mul, one_mul]
  · have hunit := Vec3.direction_dot_self haxis
    refine ⟨about axis.direction, fun degrees => ⟨angleAxis_of_ne_zero haxis degrees, fun k hk => ?_, ?_, ?_⟩,
      about_mul hunit⟩
    · rw [angleAxis_of_ne_zero (Vec3.scale_ne_zero haxis hk), Vec3.direction_scale axis hk]
    · exact norm_eq_one_iff.2 (about_unit hunit degrees)
    · have hkept := rotate_about axis.direction degrees axis.length
      rwa [Vec3.direction_scale_length haxis] at hkept

/-- Turns about an axis that is none of the three, and about one three times as long. -/
theorem constructors_agree_oblique :
    let axis : Vec3 ℝ := ⟨1, 2, 2⟩
    axis ≠ .zero ∧ ∃ turn : ℝ → Quat ℝ, angleAxis 30 axis = .ok (turn 30) ∧ angleAxis 60 axis = .ok (turn 60) ∧
      angleAxis 90 (axis * (3 : ℝ)) = .ok (turn 90) ∧ turn 30 * turn 60 = turn 90 ∧ (turn 90).rotate axis = axis := by
  intro axis
  have haxis : axis ≠ .zero := by
    intro h
    have hx := congrArg Vec3.x h
    rw [Vec3.zero_real] at hx
    exact one_ne_zero hx
  obtain ⟨-, -, hturns⟩ := constructors_agree 20 40 60
  obtain ⟨turn, hturn, hadd⟩ := hturns axis haxis
  refine ⟨haxis, turn, (hturn 30).1, (hturn 60).1, (hturn 90).2.1 3 (by norm_num), ?_, (hturn 90).2.2.2⟩
  rw [hadd]
  norm_num

end Quat
end Bystander
