import Bystander.Proofs.Quaternions
/-! # Mixtures, and turns about the vertical axis

With exact numbers the mixture of two quaternions of length one is their sum with two weights (`mixBy_eq`), on the chord
as on the arc.  It has length one, and no divisor on the way to it is zero, so it does not matter what a quotient by
zero would be (`Exact`).  So the turns about the vertical axis are kept by everything that a bot does with rotations: by
products, and by the mixture of two of them by any fraction.
-/
namespace Bystander.Quat

variable {α : Type} [Scalar α]

/-! ## Rotations with the quotient left open -/

/-- A quotient, refused for a divisor that equals zero. -/
def divide (a : Quat α) (k : α) : Except (Fault α) (Quat α) :=
  if k == 0.0 then .error .divisionByZero else .ok (a / k)

def normalizedBy (divide : Quat α → α → Except (Fault α) (Quat α)) (a : Quat α) : Except (Fault α) (Quat α) :=
  if a.norm == 0.0 then .ok identity else divide a a.norm

def angleAxisBy (divide : α → α → Except (Fault α) α) (degrees : α) (axis : Vec3 α) : Except (Fault α) (Quat α) := do
  let length := axis.length
  if length == 0.0 then return identity
  let s ← Scalar.sine (halfAngle degrees)
  let x ← divide axis.x length
  let y ← divide axis.y length
  let z ← divide axis.z length
  return ⟨x * s, y * s, z * s, Scalar.cos (halfAngle degrees)⟩

/-- The mixture with a target on the near side, of which the cosine to the start is known. -/
def mixNearBy (divide : Quat α → α → Except (Fault α) (Quat α)) (a target : Quat α) (c t : α) :
    Except (Fault α) (Quat α) :=
  if chordThreshold < c then normalizedBy divide (a + (target - a) * t)
  else do
    let angle := Scalar.acos (Scalar.least 1.0 c)
    let whole ← Scalar.sine angle
    let fromStart ← Scalar.sine ((1.0 - t) * angle)
    let fromTarget ← Scalar.sine (t * angle)
    let mixture ← divide (a * fromStart + target * fromTarget) whole
    normalizedBy divide mixture

def mixBy (divide : Quat α → α → Except (Fault α) (Quat α)) (a target : Quat α) (t : α) : Except (Fault α) (Quat α) :=
  if a.dot target < 0.0 then mixNearBy divide a (-target) (-a.dot target) t
  else mixNearBy divide a target (a.dot target) t

theorem normalizedBy_plain (a : Quat α) : normalizedBy (fun a k => .ok (a / k)) a = .ok a.normalized := by
  unfold normalizedBy normalized
  split <;> rfl

theorem angleAxisBy_plain (degrees : α) (axis : Vec3 α) :
    angleAxisBy (fun a b => .ok (a / b)) degrees axis = angleAxis degrees axis := by
  unfold angleAxisBy angleAxis
  dsimp only
  split
  · rfl
  · cases Scalar.sine (halfAngle degrees) <;> rfl

/-- **With plain quotients the mixture is the mixture.** -/
theorem mixBy_plain (a target : Quat α) (t : α) : mixBy (fun a k => .ok (a / k)) a target t = a.mix target t := by
  have hnear : ∀ (b : Quat α) (c : α), mixNearBy (fun a k => .ok (a / k)) a b c t = (do
      if chordThreshold < c then return (a + (b - a) * t).normalized
      let angle := Scalar.acos (Scalar.least 1.0 c)
      let whole ← Scalar.sine angle
      let fromStart ← Scalar.sine ((1.0 - t) * angle)
      let fromTarget ← Scalar.sine (t * angle)
      return ((a * fromStart + b * fromTarget) / whole).normalized) := by
    intro b c
    unfold mixNearBy
    split
    · exact normalizedBy_plain _
    · simp only [normalizedBy_plain]
      rfl
  unfold mixBy mix
  dsimp only
  split <;> exact hnear _ _

/-! ## Mixtures -/

section Real

variable {a b q : Quat ℝ} {c : ℝ}

/-- **A way to divide that is exact**, whatever it does with a divisor that is zero. -/
def Exact {β : Type} [HDiv β ℝ β] (divide : β → ℝ → Except (Fault ℝ) β) : Prop :=
  ∀ v k, k ≠ 0 → divide v k = .ok (v / k)

theorem exact_divide : Exact (divide : Quat ℝ → ℝ → Except (Fault ℝ) (Quat ℝ)) := by
  intro v k hk
  unfold divide
  rw [Scalar.zero_literal, if_neg]
  simpa using hk

theorem exact_scalar_divide : Exact (Scalar.divide : ℝ → ℝ → Except (Fault ℝ) ℝ) := by
  intro v k hk
  unfold Scalar.divide
  rw [Scalar.zero_literal, if_neg]
  simpa using hk

theorem sine_real (x : ℝ) : Scalar.sine x = .ok (Real.sin x) := rfl

/-- The length of the point of a chord, for the cosine between its ends. -/
noncomputable def chordLength (c t : ℝ) : ℝ := Real.sqrt ((1 - t) ^ 2 + t ^ 2 + 2 * (t * (1 - t)) * c)

/-- **The weights of a mixture**, for the cosine between its ends: those of the chord where the ends are nearly
parallel, else those of the arc. -/
noncomputable def weights (c t : ℝ) : ℝ × ℝ :=
  if chordThreshold < c then ((1 - t) / chordLength c t, t / chordLength c t)
  else
    (Real.sin ((1 - t) * Real.arccos c) / Real.sin (Real.arccos c),
      Real.sin (t * Real.arccos c) / Real.sin (Real.arccos c))

noncomputable def blend (a b : Quat ℝ) (w : ℝ × ℝ) : Quat ℝ := a * w.1 + b * w.2

/-- That quaternion of a rotation which lies on the near side of another. -/
noncomputable def nearSide (a b : Quat ℝ) : Quat ℝ := if a.dot b < 0 then -b else b

theorem dot_neg (a b : Quat ℝ) : a.dot (-b) = -a.dot b := by
  simp only [dot, neg_def]
  ring

theorem dot_nearSide (a b : Quat ℝ) : a.dot (a.nearSide b) = |a.dot b| := by
  unfold nearSide
  split
  · next h => rw [dot_neg, abs_of_neg h]
  · next h => rw [abs_of_nonneg (not_lt.1 h)]

theorem dot_self_nearSide (a b : Quat ℝ) : (a.nearSide b).dot (a.nearSide b) = b.dot b := by
  unfold nearSide
  split
  · simp only [dot, neg_def]
    ring
  · rfl

theorem dot_le_one (ha : a.dot a = 1) (hb : b.dot b = 1) : a.dot b ≤ 1 := by
  simp only [dot] at *
  nlinarith [mul_self_nonneg (a.x - b.x), mul_self_nonneg (a.y - b.y), mul_self_nonneg (a.z - b.z),
    mul_self_nonneg (a.w - b.w)]

theorem dot_blend (a b : Quat ℝ) (w : ℝ × ℝ) : a.dot (a.blend b w) = w.1 * a.dot a + w.2 * a.dot b := by
  simp only [dot, blend, add_def, scale_def]
  ring

theorem blend_dot (a b : Quat ℝ) (w : ℝ × ℝ) : (a.blend b w).dot b = w.1 * a.dot b + w.2 * b.dot b := by
  simp only [dot, blend, add_def, scale_def]
  ring

theorem blend_dot_self (a b : Quat ℝ) (w : ℝ × ℝ) :
    (a.blend b w).dot (a.blend b w) = w.1 * w.1 * a.dot a + w.2 * w.2 * b.dot b + 2 * (w.1 * w.2) * a.dot b := by
  simp only [dot, blend, add_def, scale_def]
  ring

/-! ### On the chord -/

theorem chordThreshold_real : (chordThreshold : ℝ) = 1 - 1e-6 := by
  rw [chordThreshold]
  norm_num

theorem weights_near (h : chordThreshold < c) (t : ℝ) :
    weights c t = ((1 - t) / chordLength c t, t / chordLength c t) := if_pos h

/-- On the chord between two rotations that are nearly parallel nothing is near zero. -/
theorem chord_pos (h : chordThreshold < c) (h1 : c ≤ 1) (t : ℝ) : 0 < (1 - t) ^ 2 + t ^ 2 + 2 * (t * (1 - t)) * c := by
  rw [chordThreshold_real] at h
  have hc : 0 < 1 + c := by
    norm_num at h
    linarith
  calc 0 < ((1 + c) + (1 - c) * (1 - 2 * t) ^ 2) / 2 :=
        half_pos (add_pos_of_pos_of_nonneg hc (mul_nonneg (sub_nonneg.2 h1) (sq_nonneg _)))
    _ = _ := by ring

theorem chordLength_pos (h : chordThreshold < c) (h1 : c ≤ 1) (t : ℝ) : 0 < chordLength c t :=
  Real.sqrt_pos.2 (chord_pos h h1 t)

theorem chordLength_sq (h : chordThreshold < c) (h1 : c ≤ 1) (t : ℝ) :
    chordLength c t * chordLength c t = (1 - t) ^ 2 + t ^ 2 + 2 * (t * (1 - t)) * c :=
  Real.mul_self_sqrt (chord_pos h h1 t).le

/-! ### On the arc -/

theorem weights_far (h : ¬ chordThreshold < c) (t : ℝ) : weights c t =
    (Real.sin ((1 - t) * Real.arccos c) / Real.sin (Real.arccos c),
      Real.sin (t * Real.arccos c) / Real.sin (Real.arccos c)) := if_neg h

theorem lt_one_of_far (h : ¬ chordThreshold < c) : c < 1 := by
  rw [chordThreshold_real] at h
  norm_num at h
  linarith

/-- Off the chord the cosine is less than one, so the sine that is divided by is not zero. -/
theorem sin_arccos_pos (h0 : 0 ≤ c) (h : ¬ chordThreshold < c) : 0 < Real.sin (Real.arccos c) := by
  have hlt := lt_one_of_far h
  rw [Real.sin_arccos]
  exact Real.sqrt_pos.2 (by nlinarith)

/-- **The angles that an arc leaves** to its start and to its end. -/
theorem weights_arc (h0 : 0 ≤ c) (h : ¬ chordThreshold < c) (t : ℝ) :
    (weights c t).1 + (weights c t).2 * c = Real.cos (t * Real.arccos c) ∧
      (weights c t).1 * c + (weights c t).2 = Real.cos ((1 - t) * Real.arccos c) := by
  have hcos : Real.cos (Real.arccos c) = c := Real.cos_arccos (by linarith) (lt_one_of_far h).le
  have hsin := (sin_arccos_pos h0 h).ne'
  rw [weights_far h]
  dsimp only
  generalize Real.arccos c = angle at hcos hsin ⊢
  subst hcos
  constructor
  · have hrest : (1 - t) * angle = angle - t * angle := by ring
    rw [hrest, Real.sin_sub]
    field_simp
    ring
  · have hrest : t * angle = angle - (1 - t) * angle := by ring
    rw [hrest, Real.sin_sub]
    field_simp
    ring

/-- **Weighted so, two rotations mix to one of length one.** -/
theorem weights_unit (h0 : 0 ≤ c) (h1 : c ≤ 1) (t : ℝ) :
    (weights c t).1 * (weights c t).1 + (weights c t).2 * (weights c t).2 +
      2 * ((weights c t).1 * (weights c t).2) * c = 1 := by
  by_cases h : chordThreshold < c
  · have hlength := (chordLength_pos h h1 t).ne'
    have hsq := chordLength_sq h h1 t
    rw [weights_near h]
    dsimp only
    field_simp
    linear_combination -hsq
  · obtain ⟨hstart, hend⟩ := weights_arc h0 h t
    have hsin := (sin_arccos_pos h0 h).ne'
    have hsum : (1 - t) * Real.arccos c + t * Real.arccos c = Real.arccos c := by ring
    calc _ = (weights c t).1 * ((weights c t).1 + (weights c t).2 * c) +
          (weights c t).2 * ((weights c t).1 * c + (weights c t).2) := by ring
      _ = Real.sin ((1 - t) * Real.arccos c + t * Real.arccos c) / Real.sin (Real.arccos c) := by
        rw [hstart, hend, weights_far h, Real.sin_add]
        ring
      _ = 1 := by rw [hsum, div_self hsin]

/-! ### Mixtures by weights -/

variable {divide : Quat ℝ → ℝ → Except (Fault ℝ) (Quat ℝ)}

theorem normalizedBy_of_length {v : Quat ℝ} {k : ℝ} (hk : 0 < k) (hv : v.dot v = k * k) (hdivide : Exact divide) :
    normalizedBy divide v = .ok (v / k) := by
  have hnorm : v.norm = k := by
    change Real.sqrt (v.dot v) = k
    rw [hv, Real.sqrt_mul_self hk.le]
  unfold normalizedBy
  rw [hnorm, Scalar.zero_literal, if_neg (by simpa using hk.ne')]
  exact hdivide v k hk.ne'

/-- **A mixture with a target on the near side** is the sum with the weights. -/
theorem mixNearBy_eq (ha : a.dot a = 1) (hb : b.dot b = 1) (hc : a.dot b = c) (h0 : 0 ≤ c) (t : ℝ)
    (hdivide : Exact divide) : mixNearBy divide a b c t = .ok (a.blend b (weights c t)) := by
  have h1 : c ≤ 1 := hc ▸ dot_le_one ha hb
  unfold mixNearBy
  by_cases h : chordThreshold < c
  · have hpoint : (a + (b - a) * t).dot (a + (b - a) * t) = chordLength c t * chordLength c t := by
      rw [chordLength_sq h h1]
      simp only [dot, add_def, sub_def, scale_def] at ha hb hc ⊢
      linear_combination (1 - t) ^ 2 * ha + t ^ 2 * hb + 2 * (t * (1 - t)) * hc
    rw [if_pos h, normalizedBy_of_length (chordLength_pos h h1 t) hpoint hdivide, weights_near h]
    congr 1
    ext <;> simp only [blend, add_def, sub_def, scale_def, div_def] <;> ring
  · have hleast : Scalar.least 1.0 c = c := by
      rw [Scalar.least_real, Scalar.one_literal, min_eq_right h1]
    have hsin := (sin_arccos_pos h0 h).ne'
    have hmixture : (a * Real.sin ((1 - t) * Real.arccos c) + b * Real.sin (t * Real.arccos c)) /
        Real.sin (Real.arccos c) = a.blend b (weights c t) := by
      rw [weights_far h]
      ext <;> simp only [blend, add_def, scale_def, div_def] <;> ring
    have hunit : (a.blend b (weights c t)).dot (a.blend b (weights c t)) = 1 * 1 := by
      rw [blend_dot_self, ha, hb, hc, mul_one, mul_one, mul_one]
      exact weights_unit h0 h1 t
    rw [if_neg h, hleast, Scalar.one_literal]
    simp only [sine_real]
    change (do
      let mixture ← divide (a * Real.sin ((1 - t) * Real.arccos c) + b * Real.sin (t * Real.arccos c))
        (Real.sin (Real.arccos c))
      normalizedBy divide mixture) = _
    rw [hdivide _ _ hsin, hmixture]
    refine (normalizedBy_of_length one_pos hunit hdivide).trans ?_
    congr 1
    ext <;> simp only [div_def, div_one]

/-- **A mixture** is the sum, with the weights, of its start and of the target's quaternion on the near side. -/
theorem mixBy_eq (ha : a.dot a = 1) (hb : b.dot b = 1) (t : ℝ) (hdivide : Exact divide) :
    mixBy divide a b t = .ok (a.blend (a.nearSide b) (weights |a.dot b| t)) := by
  have hnear : mixBy divide a b t = mixNearBy divide a (a.nearSide b) |a.dot b| t := by
    unfold mixBy nearSide
    rw [Scalar.zero_literal]
    split
    · next h => rw [abs_of_neg h]
    · next h => rw [abs_of_nonneg (not_lt.1 h)]
  rw [hnear]
  exact mixNearBy_eq ha ((dot_self_nearSide a b).trans hb) (dot_nearSide a b) (abs_nonneg _) t hdivide

theorem blend_unit (ha : a.dot a = 1) (hb : b.dot b = 1) (t : ℝ) :
    let m := a.blend (a.nearSide b) (weights |a.dot b| t)
    m.dot m = 1 := by
  have hnear := (dot_self_nearSide a b).trans hb
  have hle : |a.dot b| ≤ 1 := dot_nearSide a b ▸ dot_le_one ha hnear
  dsimp only
  rw [blend_dot_self, ha, hnear, dot_nearSide, mul_one, mul_one]
  exact weights_unit (abs_nonneg _) hle t

/-! ## Upright rotations -/

/-- **An upright rotation**: it turns about the vertical axis, and has length one. -/
structure Upright (q : Quat ℝ) : Prop where
  x : q.x = 0
  z : q.z = 0
  unit : q.y * q.y + q.w * q.w = 1

theorem upright_identity : Upright (identity : Quat ℝ) where
  x := Scalar.zero_literal
  z := Scalar.zero_literal
  unit := by
    change (0.0 : ℝ) * 0.0 + 1.0 * 1.0 = 1
    norm_num

theorem Upright.neg (h : q.Upright) : (-q).Upright where
  x := by
    change -q.x = 0
    rw [h.x, neg_zero]
  z := by
    change -q.z = 0
    rw [h.z, neg_zero]
  unit := by
    change -q.y * -q.y + -q.w * -q.w = 1
    rw [neg_mul_neg, neg_mul_neg, h.unit]

theorem Upright.dot_self (h : q.Upright) : q.dot q = 1 := by
  rw [Quat.dot, h.x, h.z]
  linear_combination h.unit

theorem Upright.of_dot_self (hx : q.x = 0) (hz : q.z = 0) (h : q.dot q = 1) : q.Upright := by
  refine ⟨hx, hz, ?_⟩
  rw [Quat.dot, hx, hz] at h
  linear_combination h

/-- **Turns in a row are a turn.** -/
theorem Upright.mul (ha : a.Upright) (hb : b.Upright) : (a * b).Upright := by
  refine .of_dot_self ?_ ?_ ?_
  · simp [mul_def, ha.x, ha.z, hb.x, hb.z]
  · simp [mul_def, ha.x, ha.z, hb.x, hb.z]
  · rw [dot_mul_self, ha.dot_self, hb.dot_self, one_mul]

/-- **An upright bot looks ahead**, neither up nor down. -/
theorem Upright.front (h : q.Upright) : q.front.length = 1 ∧ q.front.y = 0 := by
  have hforward : (Vec3.forward : Vec3 ℝ).dot .forward = 1 := by norm_num [Vec3.forward, Vec3.dot]
  constructor
  · rw [Quat.front, Vec3.length_eq_sqrt_dot, (rotate_products h.dot_self _ _).2, hforward, Real.sqrt_one]
  · rw [Quat.front, rotate_real]
    norm_num [Vec3.add_def, Vec3.scale_def, Vec3.cross, vector, Vec3.forward, h.x, h.z]

/-- The turn about the vertical axis by an angle. -/
noncomputable def ofYaw (degrees : ℝ) : Quat ℝ := ⟨0, Real.sin (halfAngle degrees), 0, Real.cos (halfAngle degrees)⟩

theorem upright_ofYaw (degrees : ℝ) : (ofYaw degrees).Upright where
  x := rfl
  z := rfl
  unit := by
    rw [← sq, ← sq]
    exact Real.sin_sq_add_cos_sq _

theorem angleAxisBy_up {divide : ℝ → ℝ → Except (Fault ℝ) ℝ} (hdivide : Exact divide) (degrees : ℝ) :
    angleAxisBy divide degrees .up = .ok (ofYaw degrees) := by
  have hlength : (Vec3.up : Vec3 ℝ).length = 1 := by
    change Real.sqrt ((0.0 : ℝ) * 0.0 + 1.0 * 1.0 + 0.0 * 0.0) = 1
    norm_num
  have hnonzero : ((1 : ℝ) == 0.0) = false := by
    rw [Scalar.zero_literal]
    simp
  have hyaw : ofYaw degrees = ⟨(0.0 : ℝ) / 1 * Real.sin (halfAngle degrees),
      (1.0 : ℝ) / 1 * Real.sin (halfAngle degrees), (0.0 : ℝ) / 1 * Real.sin (halfAngle degrees),
      Real.cos (halfAngle degrees)⟩ := by
    rw [ofYaw, Scalar.zero_literal, Scalar.one_literal]
    simp
  unfold angleAxisBy
  rw [hlength]
  dsimp only
  rw [hnonzero, if_neg Bool.false_ne_true, sine_real, hdivide _ _ one_ne_zero, hdivide _ _ one_ne_zero,
    hdivide _ _ one_ne_zero, hyaw]
  rfl

theorem angleAxis_up (degrees : ℝ) : angleAxis degrees .up = .ok (ofYaw degrees) := by
  rw [← angleAxisBy_plain]
  exact angleAxisBy_up (fun _ _ _ => rfl) degrees

/-- **A turn about the vertical axis is upright.** -/
theorem upright_angleAxis (degrees : ℝ) : ∃ q : Quat ℝ, q.Upright ∧
    ∀ {divide : ℝ → ℝ → Except (Fault ℝ) ℝ}, Exact divide → angleAxisBy divide degrees .up = .ok q :=
  ⟨ofYaw degrees, upright_ofYaw degrees, fun hdivide => angleAxisBy_up hdivide degrees⟩

/-- **A turn towards an upright rotation is upright**, whichever side that is on and whatever the fraction. -/
theorem Upright.mix (ha : a.Upright) (hb : b.Upright) (t : ℝ) :
    ∃ q : Quat ℝ, q.Upright ∧ ∀ {divide : Quat ℝ → ℝ → Except (Fault ℝ) (Quat ℝ)}, Exact divide →
      mixBy divide a b t = .ok q := by
  have hnear : (a.nearSide b).Upright := by
    unfold nearSide
    split
    · exact hb.neg
    · exact hb
  have hx : (a.blend (a.nearSide b) (weights |a.dot b| t)).x = 0 := by
    simp [blend, add_def, scale_def, ha.x, hnear.x]
  have hz : (a.blend (a.nearSide b) (weights |a.dot b| t)).z = 0 := by
    simp [blend, add_def, scale_def, ha.z, hnear.z]
  exact ⟨_, .of_dot_self hx hz (blend_unit ha.dot_self hb.dot_self t), mixBy_eq ha.dot_self hb.dot_self t⟩

end Real

end Bystander.Quat
