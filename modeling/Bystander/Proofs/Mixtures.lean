import Bystander.Proofs.Rotations
/-! # Mixtures lie on the shortest arc

A mixture of two rotations depends on the rotations only, not on which of the two quaternions of each is given.  It goes
from the start to the quaternion of the target that is on the near side, never away from it, and on the arc the two
angles that it leaves are the fractions of the whole angle.
-/
namespace Bystander.Quat

variable {a b : Quat ℝ} {c t : ℝ}

/-! ## Weights at the ends and between them -/

theorem weights_zero (h0 : 0 ≤ c) : weights c 0 = (1, 0) := by
  by_cases h : chordThreshold < c
  · have hlength : chordLength c 0 = 1 := by simp [chordLength]
    rw [weights_near h, hlength]
    simp
  · rw [weights_far h, sub_zero, one_mul, zero_mul, Real.sin_zero, zero_div, div_self (sin_arccos_pos h0 h).ne']

theorem weights_one (h0 : 0 ≤ c) : weights c 1 = (0, 1) := by
  by_cases h : chordThreshold < c
  · have hlength : chordLength c 1 = 1 := by simp [chordLength]
    rw [weights_near h, hlength]
    simp
  · rw [weights_far h, sub_self, one_mul, zero_mul, Real.sin_zero, zero_div, div_self (sin_arccos_pos h0 h).ne']

/-- **A part of the way does not lead away from the target.** -/
theorem le_weights (h0 : 0 ≤ c) (h1 : c ≤ 1) (ht : 0 ≤ t ∧ t ≤ 1) : c ≤ (weights c t).1 * c + (weights c t).2 := by
  obtain ⟨ht0, ht1⟩ := ht
  by_cases h : chordThreshold < c
  · have hpos := chordLength_pos h h1 t
    -- the chord lies inside the circle, so bringing its point to length one lengthens it
    have hshort : chordLength c t ≤ 1 := by
      refine Real.sqrt_le_one.2 ?_
      nlinarith [mul_nonneg (mul_nonneg ht0 (sub_nonneg.2 ht1)) (sub_nonneg.2 h1)]
    have hway : c ≤ (1 - t) * c + t := by nlinarith
    rw [weights_near h]
    calc c ≤ c / chordLength c t := le_div_self h0 hpos hshort
      _ ≤ ((1 - t) * c + t) / chordLength c t := by gcongr
      _ = (1 - t) / chordLength c t * c + t / chordLength c t := by ring
  · have hcos : Real.cos (Real.arccos c) = c := Real.cos_arccos (by linarith) h1
    have hangle := Real.arccos_nonneg c
    rw [(weights_arc h0 h t).2]
    calc c = Real.cos (Real.arccos c) := hcos.symm
      _ ≤ Real.cos ((1 - t) * Real.arccos c) :=
        Real.cos_le_cos_of_nonneg_of_le_pi (mul_nonneg (sub_nonneg.2 ht1) hangle) (Real.arccos_le_pi c)
          (mul_le_of_le_one_left hangle (by linarith))

/-! ## Both quaternions of a rotation -/

theorem neg_dot (a b : Quat ℝ) : (-a).dot b = -a.dot b := by
  rw [dot_comm, dot_neg, dot_comm]

noncomputable instance : InvolutiveNeg (Quat ℝ) where
  neg_neg a := by
    ext <;> simp [neg_def]

/-- The near side of a target is the near side of its negative, unless they are equally far. -/
theorem nearSide_neg (h : a.dot b ≠ 0) : a.nearSide (-b) = a.nearSide b := by
  unfold nearSide
  rw [dot_neg]
  obtain hneg | hpos := lt_or_gt_of_ne h
  · rw [if_pos hneg, if_neg (by linarith)]
  · rw [if_neg (not_lt.2 hpos.le), if_pos (by linarith), neg_neg]

theorem neg_nearSide (h : a.dot b ≠ 0) : (-a).nearSide b = -a.nearSide b := by
  unfold nearSide
  rw [neg_dot]
  obtain hneg | hpos := lt_or_gt_of_ne h
  · rw [if_pos hneg, if_neg (by linarith), neg_neg]
  · rw [if_neg (not_lt.2 hpos.le), if_pos (by linarith)]

theorem neg_blend_neg (a b : Quat ℝ) (w : ℝ × ℝ) : (-a).blend (-b) w = -a.blend b w := by
  ext <;> simp only [blend, add_def, scale_def, neg_def] <;> ring

theorem dot_neg_self (a : Quat ℝ) : (-a).dot (-a) = a.dot a := by
  rw [neg_dot, dot_neg, neg_neg]

/-! ## Mixtures -/

theorem mix_eq (ha : a.dot a = 1) (hb : b.dot b = 1) (t : ℝ) :
    a.mix b t = .ok (a.blend (a.nearSide b) (weights |a.dot b| t)) := by
  rw [← mixBy_plain]
  exact mixBy_eq ha hb t fun _ _ _ => rfl

/-- **A mixture lies on the shortest arc.**  It has length one, and no quotient on the way to it has a divisor that is
zero.  It is at least as near to the target, on the near side, as the start is; it depends on the rotations only, unless
start and target are at right angles; it begins with the start and ends with the target; and off the chord the angles to
both are the fractions of the whole angle. -/
theorem mixes_along_arc (ha : a.norm = 1) (hb : b.norm = 1) (ht : 0 ≤ t ∧ t ≤ 1) :
    let c := |a.dot b|
    let target := if a.dot b < 0 then -b else b
    ∃ m, a.mix b t = .ok m ∧ mixBy divide a b t = .ok m ∧ m.norm = 1 ∧ c ≤ m.dot target ∧
      (a.dot b ≠ 0 → a.mix (-b) t = .ok m ∧ (-a).mix b t = .ok (-m)) ∧
      a.mix b 0 = .ok a ∧ a.mix b 1 = .ok target ∧
      (c ≤ 1 - 1e-6 →
        a.dot m = Real.cos (t * Real.arccos c) ∧ m.dot target = Real.cos ((1 - t) * Real.arccos c)) := by
  intro c target
  rw [norm_eq_one_iff] at ha hb
  have hnear : target.dot target = 1 := (dot_self_nearSide a b).trans hb
  have hc : a.dot target = c := dot_nearSide a b
  have h0 : 0 ≤ c := abs_nonneg _
  have h1 : c ≤ 1 := hc ▸ dot_le_one ha hnear
  have hstart : a.dot (a.blend target (weights c t)) = (weights c t).1 + (weights c t).2 * c := by
    rw [dot_blend, ha, hc, mul_one]
  have hend : (a.blend target (weights c t)).dot target = (weights c t).1 * c + (weights c t).2 := by
    rw [blend_dot, hnear, hc, mul_one]
  refine ⟨a.blend target (weights c t), mix_eq ha hb t, mixBy_eq ha hb t exact_divide, ?_, ?_, fun hne => ⟨?_, ?_⟩,
    ?_, ?_, fun hfar => ?_⟩
  · exact norm_eq_one_iff.2 (blend_unit ha hb t)
  · rw [hend]
    exact le_weights h0 h1 ht
  · rw [mix_eq ha ((dot_neg_self b).trans hb), nearSide_neg hne, dot_neg, abs_neg]
    rfl
  · rw [mix_eq ((dot_neg_self a).trans ha) hb, neg_nearSide hne, neg_dot, abs_neg, neg_blend_neg]
    rfl
  · rw [mix_eq ha hb, weights_zero h0]
    congr 1
    ext <;> simp [blend, add_def, scale_def]
  · rw [mix_eq ha hb, weights_one h0]
    congr 1
    ext <;> simp [blend, add_def, scale_def, target, nearSide]
  · rw [← chordThreshold_real] at hfar
    rw [hstart, hend]
    exact weights_arc h0 (not_lt.2 hfar) t

/-- Half of the way to a quaternion on the far side. -/
theorem mixes_along_arc_far :
    let a : Quat ℝ := ⟨0, 0, 0, 1⟩
    let b : Quat ℝ := ⟨0, 4 / 5, 0, -3 / 5⟩
    a.norm = 1 ∧ b.norm = 1 ∧ ∃ m, a.mix b (1 / 2) = .ok m ∧ m.norm = 1 ∧ (-a).mix b (1 / 2) = .ok (-m) ∧
      a.dot m = Real.cos (1 / 2 * Real.arccos (3 / 5)) := by
  intro a b
  have ha : a.norm = 1 := by
    rw [norm_eq_one_iff]
    norm_num [a, dot]
  have hb : b.norm = 1 := by
    rw [norm_eq_one_iff]
    norm_num [b, dot]
  have hdot : a.dot b = -3 / 5 := by norm_num [a, b, dot]
  have hcosine : |a.dot b| = 3 / 5 := by
    rw [hdot]
    norm_num [abs_of_neg]
  obtain ⟨m, hm, -, hunit, -, hsides, -, -, harc⟩ :=
    mixes_along_arc ha hb (show (0 : ℝ) ≤ 1 / 2 ∧ (1 / 2 : ℝ) ≤ 1 by norm_num)
  have hhalf := (harc (by rw [hcosine]; norm_num)).1
  rw [hcosine] at hhalf
  exact ⟨ha, hb, m, hm, hunit, (hsides (by rw [hdot]; norm_num)).2, hhalf⟩

end Bystander.Quat
