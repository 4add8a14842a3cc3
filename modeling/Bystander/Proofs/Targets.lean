import Bystander.Proofs.Box
import Bystander.Proofs.Rotations
/-! # Targets lie ahead, and no further than was drawn

The point that a bot picks is a drawn distance ahead of where it is, in a direction that is a drawn yaw away from where
it faces.  Moving that point into the box does not take it further away, since the bot is in the box
(`length_clamp_sub_le`), and leaves it alone if it is there already.
-/
namespace Bystander

variable {κ τ : Type}

/-! ## Points moved into the box -/

namespace Bounds

variable {b : Bounds ℝ} {p : Vec3 ℝ} {low high x y : ℝ}

theorem clampTo_of_mem (h : low ≤ x ∧ x ≤ high) : clampTo low high x = x := by
  rw [clampTo_real, min_eq_right h.2, max_eq_right h.1]

/-- **Moving a number between two ends** does not take it further away from one that is there. -/
theorem abs_clampTo_sub_le (hx : low ≤ x ∧ x ≤ high) (y : ℝ) : |clampTo low high y - x| ≤ |y - x| := by
  calc |clampTo low high y - x| = |max low (min high y) - max low (min high x)| := by
        rw [← clampTo_real, ← clampTo_real, clampTo_of_mem hx]
    _ ≤ |min high y - min high x| := by
        refine (abs_max_sub_max_le_max _ _ _ _).trans ?_
        rw [sub_self, abs_zero]
        exact (max_eq_right (abs_nonneg _)).le
    _ ≤ |y - x| := by
        refine (abs_min_sub_min_le_max _ _ _ _).trans ?_
        rw [sub_self, abs_zero]
        exact (max_eq_right (abs_nonneg _)).le

theorem clamp_of_holds (h : b.Holds p) : b.clamp p = p := by
  ext
  · exact clampTo_of_mem h.x
  · exact h.y.symm
  · exact clampTo_of_mem h.z

/-- **Moving a point into the box** does not take it further away from one that is there. -/
theorem length_clamp_sub_le (h : b.Holds p) (q : Vec3 ℝ) : (b.clamp q - p).length ≤ (q - p).length := by
  have hx : |(b.clamp q).x - p.x| ≤ |q.x - p.x| := abs_clampTo_sub_le h.x q.x
  have hy : (b.clamp q).y - p.y = 0 := sub_eq_zero.2 h.y.symm
  have hz : |(b.clamp q).z - p.z| ≤ |q.z - p.z| := abs_clampTo_sub_le h.z q.z
  refine Real.sqrt_le_sqrt ?_
  simp only [Vec3.sub_def, hy]
  have hx2 := abs_le_iff_mul_self_le.1 hx
  have hz2 := abs_le_iff_mul_self_le.1 hz
  nlinarith [mul_self_nonneg (q.y - p.y)]

end Bounds

/-! ## Yaws and distances -/

theorem Quat.dot_mul_right (a b : Quat ℝ) : a.dot (a * b) = a.dot a * b.w := by
  simp only [mul_def, dot]
  ring

namespace Walk

variable {s : Scene ℝ κ τ}

theorem bigRange_real (b : Brain ℝ) : bigRange b =
    b.settings.walk.bigRange.getD (max (b.bounds.xMax - b.bounds.xMin) (b.bounds.zMax - b.bounds.zMin) / 2) := by
  rw [bigRange, Bounds.bigMoveRange, Scalar.greatest_real]
  norm_num

theorem bigRange_nonneg {b : Brain ℝ} (hbox : b.bounds.xMin ≤ b.bounds.xMax)
    (h : ∀ r ∈ b.settings.walk.bigRange, 0 ≤ r) : 0 ≤ bigRange b := by
  rw [bigRange_real]
  cases hr : b.settings.walk.bigRange with
  | none =>
    have hside : 0 ≤ b.bounds.xMax - b.bounds.xMin := sub_nonneg.2 hbox
    exact div_nonneg (hside.trans (le_max_left _ _)) zero_le_two
  | some r => exact h r hr

theorem nextYaw_real (s : Scene ℝ κ τ) :
    nextYaw s = (2 * s.source.draw.1 - 1) * s.brain.settings.walk.turnRange := by
  unfold nextYaw Scalar.between
  ring

theorem nextDistance_real (s : Scene ℝ κ τ) : nextDistance s = s.source.draw.2.draw.2.draw.1 *
    if s.source.draw.2.draw.1 < s.brain.settings.walk.bigMoveChance then bigRange s.brain
    else s.brain.settings.walk.smallRange := by
  unfold nextDistance Scalar.between
  rw [Scalar.zero_literal]
  ring

/-- **A heading** turns an upright orientation by half the angle in the space of quaternions. -/
theorem dot_heading {q : Quat ℝ} (h : q.Upright) (degrees : ℝ) :
    q.dot (q * Quat.ofYaw degrees) = Real.cos (degrees * (Real.pi / 180) / 2) := by
  have htwo : (2.0 : ℝ) = 2 := by norm_num
  rw [Quat.dot_mul_right, h.dot_self, one_mul, Quat.ofYaw, Quat.halfAngle, htwo]
  rfl

/-- **A point ahead** of an upright bot is as far away as it was meant to be. -/
theorem length_ahead {q : Quat ℝ} (h : q.Upright) (p : Vec3 ℝ) {distance : ℝ} (hd : 0 ≤ distance) :
    (p + q.front * distance - p).length = distance := by
  have hway : p + q.front * distance - p = q.front * distance := by
    ext <;> simp [Vec3.add_def, Vec3.sub_def]
  rw [hway, Vec3.length_scale _ hd, h.front.1, mul_one]

/-- **A target is picked ahead** of an upright bot in its box.  It is no further away than the drawn distance, which is
a fraction of one of the two ranges; it lies in the box, and is the point ahead at that distance if that lies there.
The heading has length one, and differs from the orientation by the drawn yaw. -/
theorem pickTarget_ahead (hplace : s.brain.bounds.Holds s.brain.state.position)
    (hfacing : s.brain.state.orientation.Upright) (hturn : 0 ≤ s.brain.settings.walk.turnRange)
    (hsmall : 0 ≤ s.brain.settings.walk.smallRange) (hbig : ∀ r ∈ s.brain.settings.walk.bigRange, 0 ≤ r)
    (hdraws : ∀ t, s.source.Leads t → 0 ≤ t.draw.1 ∧ t.draw.1 ≤ 1) :
    let b := s.brain.bounds
    let walk := s.brain.settings.walk
    let big := walk.bigRange.getD (max (b.xMax - b.xMin) (b.zMax - b.zMin) / 2)
    let yaw := (2 * s.source.draw.1 - 1) * walk.turnRange
    let range := if s.source.draw.2.draw.1 < walk.bigMoveChance then big else walk.smallRange
    let distance := s.source.draw.2.draw.2.draw.1 * range
    ∃ t heading target, pickTarget.run s = (.ok (), t) ∧
      t.brain.state = { s.brain.state with targetOrientation := heading, targetPosition := target, walk := .walking } ∧
      t.journal = s.journal.note (.walkStarted yaw distance target) ∧
      (target - s.brain.state.position).length ≤ distance ∧ distance ≤ max big walk.smallRange ∧ b.Holds target ∧
      (b.Holds (s.brain.state.position + heading.front * distance) →
        target = s.brain.state.position + heading.front * distance) ∧
      heading.norm = 1 ∧ s.brain.state.orientation.dot heading = Real.cos (yaw * (Real.pi / 180) / 2) ∧
      |yaw| ≤ walk.turnRange := by
  intro b walk big yaw range distance
  have hbig' : bigRange s.brain = big := bigRange_real s.brain
  have hyaw : nextYaw s = yaw := nextYaw_real s
  have hdistance : nextDistance s = distance := by
    rw [nextDistance_real, hbig']
  have hbox : b.xMin ≤ b.xMax := hplace.x.1.trans hplace.x.2
  have hrange : 0 ≤ range ∧ range ≤ max big walk.smallRange := by
    have hpos : 0 ≤ big := hbig' ▸ bigRange_nonneg hbox hbig
    dsimp only [range]
    split
    · exact ⟨hpos, le_max_left _ _⟩
    · exact ⟨hsmall, le_max_right _ _⟩
  obtain ⟨hfirst0, hfirst1⟩ := hdraws _ (.refl s.source)
  obtain ⟨hthird0, hthird1⟩ := hdraws _ (.fraction (.fraction (.refl s.source)))
  have hheading : (s.brain.state.orientation * Quat.ofYaw yaw).Upright := hfacing.mul (Quat.upright_ofYaw yaw)
  have hrun : pickTarget.run s = (.ok (), chosen (Quat.ofYaw yaw) s) := by
    rw [run_pickTarget, hyaw, Quat.angleAxis_up]
  refine ⟨chosen (Quat.ofYaw yaw) s, s.brain.state.orientation * Quat.ofYaw yaw,
    b.clamp (s.brain.state.position + (s.brain.state.orientation * Quat.ofYaw yaw).front * distance), hrun, ?_, ?_, ?_,
    ?_, ?_, ?_, ?_, ?_, ?_⟩
  · rw [← hdistance]
    rfl
  · rw [← hdistance, ← hyaw]
    rfl
  · refine (Bounds.length_clamp_sub_le hplace _).trans_eq ?_
    exact length_ahead hheading _ (mul_nonneg hthird0 hrange.1)
  · exact (mul_le_of_le_one_left hrange.1 hthird1).trans hrange.2
  · exact ⟨Bounds.clampTo_mem hbox _, rfl, Bounds.clampTo_mem (hplace.z.1.trans hplace.z.2) _⟩
  · exact Bounds.clamp_of_holds
  · exact Quat.norm_eq_one_iff.2 hheading.dot_self
  · exact dot_heading hfacing yaw
  · have hfraction : |2 * s.source.draw.1 - 1| ≤ 1 := abs_le.2 ⟨by linarith, by linarith⟩
    rw [abs_mul, abs_of_nonneg hturn]
    exact mul_le_of_le_one_left hturn hfraction

/-- A bot at the edge of its box that looks out of it. -/
theorem pickTarget_ahead_edge :
    let s : Scene ℝ Unit ℕ := { Host.fresh with
      source := .scripted [1 / 2, 0, 1 / 2] 0
      brain := .opening .standard .standard [] .zero { Avatar.fresh with position := ⟨22.5, 2.5, 20.0⟩ } }
    ∃ t heading target, pickTarget.run s = (.ok (), t) ∧ t.brain.state.targetPosition = target ∧
      (target - s.brain.state.position).length ≤ 1 / 2 * 2.5 ∧ s.brain.bounds.Holds target ∧
      s.brain.state.orientation.dot heading = Real.cos (0 * (Real.pi / 180) / 2) := by
  intro s
  have hfair : s.source.Fair := Source.fair_scripted fun r hr => by
    simp only [List.mem_cons, List.not_mem_nil, or_false] at hr
    rcases hr with rfl | rfl | rfl | rfl <;> norm_num
  have hplace : s.brain.bounds.Holds s.brain.state.position :=
    ⟨show (20.0 : ℝ) ≤ 22.5 ∧ (22.5 : ℝ) ≤ 25.0 by norm_num, rfl,
      show (20.0 : ℝ) ≤ 20.0 ∧ (20.0 : ℝ) ≤ 25.0 by norm_num⟩
  obtain ⟨t, heading, target, hrun, hstate, -, hnear, -, hinside, -, -, hdot, -⟩ :=
    pickTarget_ahead hplace Quat.upright_identity (show (0 : ℝ) ≤ 70.0 by norm_num) (show (0 : ℝ) ≤ 0.5 by norm_num)
      nofun fun t ht => ⟨(hfair.fraction ht).1, (hfair.fraction ht).2.le⟩
  refine ⟨t, heading, target, hrun, congrArg BotState.targetPosition hstate, hnear.trans_eq ?_, hinside,
    hdot.trans ?_⟩
  · have hfar : (0 : ℝ) < 0.1 := by norm_num
    change (1 / 2 : ℝ) * (if (0 : ℝ) < 0.1 then max (25.0 - 20.0 : ℝ) (25.0 - 20.0) / 2 else 0.5) = _
    rw [if_pos hfar]
    norm_num
  · change Real.cos ((2 * (1 / 2) - 1) * 70.0 * (Real.pi / 180) / 2) = _
    norm_num

end Walk
end Bystander
