import Mathlib
import Bystander.Proofs.Timekeeping
/-! # The reals as numbers a bot computes with

Every rule of motion can be read over the reals, where nothing is rounded, nothing overflows and every number is finite.
They have the laws of a clock.  What covers a fixed fraction of the rest with each step gets as near as one likes
(`exists_isLeast_within`).
-/
namespace Bystander

noncomputable instance : Scalar ℝ where
  beq a b := decide (a = b)
  decLt := inferInstance
  decLe := inferInstance
  isFinite _ := true
  degree := Real.pi / 180
  sqrt := Real.sqrt
  sin := Real.sin
  cos := Real.cos
  acos := Real.arccos
  floor := Int.floor

namespace Scalar

theorem zero_literal : (0.0 : ℝ) = 0 := by norm_num

theorem one_literal : (1.0 : ℝ) = 1 := by norm_num

theorem ofNat_real (n : ℕ) : (ofNat n : ℝ) = n := by
  unfold ofNat
  rw [NNRatCast.ofScientific_eq_ite, if_neg (by decide)]
  simp

theorem defined_real (x : ℝ) : Defined x := by
  simp [Defined, isUndefined]

theorem least_real (a b : ℝ) : least a b = min a b := by
  rw [least, min_comm, min_def_lt]

theorem greatest_real (a b : ℝ) : greatest a b = max a b := by
  rw [greatest, max_def_lt]

theorem magnitude_real (x : ℝ) : magnitude x = |x| := by
  rw [magnitude, zero_literal]
  split
  · next hneg => exact (abs_of_neg hneg).symm
  · next hpos => exact (abs_of_nonneg (not_lt.1 hpos)).symm

theorem elapses_real (d : ℝ) : Elapses d ↔ 0 ≤ d := by
  rw [Elapses, zero_literal, not_lt]
  exact and_iff_right rfl

end Scalar

/-- **The reals have the laws of a clock.** -/
instance : Timekeeping ℝ where
  le_trans hab hbc := hab.trans hbc
  le_of_lt hab := hab.le
  lt_iff_not_le _ _ := lt_iff_not_ge
  defined_zero := Scalar.defined_real _
  defined_add _ _ := Scalar.defined_real _
  le_add _ hd := le_add_of_nonneg_right ((Scalar.elapses_real _).1 hd)
  defined_wait _ _ := Scalar.defined_real _
  le_wait _ hd := by
    have h := (Scalar.elapses_real _).1 hd
    exact le_add_of_nonneg_right (by positivity)

instance : Strict ℝ where
  defined_of_add _ := ⟨Scalar.defined_real _, Scalar.defined_real _⟩
  defined_of_lt _ := Scalar.defined_real _
  defined_of_le _ := Scalar.defined_real _

/-! ## A fixed fraction of the rest -/

namespace Scalar

/-- A step that covers a fraction of the way between two points stays between any bounds of theirs. -/
theorem between_mem {low high a b r : ℝ} (ha : low ≤ a ∧ a ≤ high) (hb : low ≤ b ∧ b ≤ high) (hr : 0 ≤ r ∧ r ≤ 1) :
    low ≤ a + (b - a) * r ∧ a + (b - a) * r ≤ high := by
  have hsplit : a + (b - a) * r = a * (1 - r) + b * r := by ring
  have hrest : 0 ≤ 1 - r := by linarith [hr.2]
  rw [hsplit]
  constructor
  · calc low = low * (1 - r) + low * r := by ring
      _ ≤ a * (1 - r) + b * r :=
        add_le_add (mul_le_mul_of_nonneg_right ha.1 hrest) (mul_le_mul_of_nonneg_right hb.1 hr.1)
  · calc a * (1 - r) + b * r ≤ high * (1 - r) + high * r :=
        add_le_add (mul_le_mul_of_nonneg_right ha.2 hrest) (mul_le_mul_of_nonneg_right hb.2 hr.1)
      _ = high := by ring

/-- **What is left of a way falls below any tolerance** if each step leaves the same fraction of it, so there is a first
step after which it has. -/
theorem exists_isLeast_within {rest way tolerance : ℝ} (hrest : 0 ≤ rest ∧ rest < 1) (hway : 0 ≤ way)
    (htolerance : 0 < tolerance) : ∃ K, IsLeast {k : ℕ | 1 ≤ k ∧ rest ^ k * way < tolerance} K := by
  classical
  have hnear : ∃ k : ℕ, 1 ≤ k ∧ rest ^ k * way < tolerance := by
    obtain hzero | hpos := hway.eq_or_lt
    · refine ⟨1, le_rfl, ?_⟩
      rw [← hzero, mul_zero]
      exact htolerance
    · obtain ⟨n, hn⟩ := exists_pow_lt_of_lt_one (div_pos htolerance hpos) hrest.2
      refine ⟨n + 1, by omega, (lt_div_iff₀ hpos).1 (lt_of_le_of_lt ?_ hn)⟩
      exact pow_le_pow_of_le_one hrest.1 hrest.2.le (Nat.le_succ n)
  exact ⟨Nat.find hnear, Nat.find_spec hnear, fun k hk => Nat.find_min' hnear hk⟩

end Scalar

end Bystander
