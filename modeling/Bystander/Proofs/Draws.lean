import Bystander.Proofs.Chances
import Bystander.Proofs.Doubles
/-! # Numbers that are drawn

A number is drawn below a bound by cutting a fraction into cells.  It is below that bound, whatever the fraction is; and
a fair source of doubles gives one, since a fraction of a number that is not among the greatest doubles is finite.  A
share of a natural number is finite too, the whole of it included, if the number is not astronomic (`isFinite_share`).
-/
namespace Bystander

open Float.Model (UnpackedFloat Format)
open Float.Model.UnpackedFloat

namespace Double

/-! ## Fractions of doubles -/

theorem reading_mul (x y : Float) :
    reading (x * y) = (Float.Model.pack (UnpackedFloat.mul .binary64 (reading x) (reading y))).unpack := rfl

theorem reading_one : reading 1.0 = .finite .positive (2 ^ 52) (-52) (by decide) := rfl

theorem two_pow_le_size {m : Nat} (hm : 0 < m) (e : Int) : 2 ^ (m.log2 + (e + 1074).toNat) ≤ size m e := by
  rw [Nat.pow_add]
  exact Nat.mul_le_mul_right _ (Nat.log2_self_le (Nat.ne_of_gt hm))

theorem log2_add_le {m p : Nat} {e f : Int} (hm : 0 < m) (hf : -1074 ≤ f) (h : size m e ≤ size (2 ^ p) f) :
    m.log2 + e ≤ p + f := by
  have hpow := (two_pow_le_size hm e).trans h
  rw [size, ← Nat.pow_add, Nat.pow_le_pow_iff_right (by decide)] at hpow
  omega

theorem log2_add_lt {m p : Nat} {e f : Int} (hm : 0 < m) (hf : -1074 ≤ f) (h : size m e < size (2 ^ p) f) :
    m.log2 + e < p + f := by
  have hpow := (two_pow_le_size hm e).trans_lt h
  rw [size, ← Nat.pow_add, Nat.pow_lt_pow_iff_right (by decide)] at hpow
  omega

/-- **A number from zero to one** is a zero, or its bits stand behind the point, but for the one of one itself. -/
theorem reading_unit {r : Float} (h : 0.0 ≤ r ∧ r ≤ 1.0) :
    (∃ s, reading r = .zero s) ∨ ∃ m e hm, reading r = .finite .positive m e hm ∧ m.log2 + e ≤ 0 ∧
      (r < 1.0 → m.log2 + e < 0) := by
  obtain ⟨-, hnumber, hlow⟩ := (le_iff _ _).1 h.1
  obtain ⟨-, -, hhigh⟩ := (le_iff _ _).1 h.2
  have hbelow : r < 1.0 → value (reading r) < value (reading 1.0) := fun hlt => ((lt_iff _ _).1 hlt).2.2
  rw [reading_zero] at hlow
  rw [reading_one] at hhigh hbelow
  generalize reading r = x at hnumber hlow hhigh hbelow ⊢
  cases x with
  | notANumber => exact absurd rfl hnumber
  | infinity s =>
    cases s with
    | negative => exact absurd hlow (by decide)
    | positive => exact absurd hhigh (by decide)
  | zero s => exact .inl ⟨s, rfl⟩
  | finite s m e hm =>
    have hpos := size_pos hm e
    cases s with
    | negative =>
      have hneg : value (.finite .negative m e hm) < ((0 : ℤ) : WithTop ℤ) := coe_lt (by omega)
      exact absurd hlow (not_le.2 hneg)
    | positive =>
      have hsize : size m e ≤ size (2 ^ 52) (-52) := by
        by_contra hgt
        exact absurd hhigh (not_le.2 (coe_lt (Int.ofNat_lt.2 (Nat.not_le.1 hgt))))
      have hsmaller : r < 1.0 → size m e < size (2 ^ 52) (-52) := by
        intro hlt
        by_contra hge
        exact absurd (hbelow hlt) (not_lt.2 (coe_le (Int.ofNat_le.2 (Nat.not_lt.1 hge))))
      exact .inr ⟨m, e, hm, rfl, log2_add_le hm (by decide) hsize, fun hlt => log2_add_lt hm (by decide) (hsmaller hlt)⟩

/-- **A product is finite** where its leading bits stand low enough. -/
theorem isFinite_mul_of_low {x y : Float} {m n : Nat} {e f : Int} {hm : 0 < m} {hn : 0 < n} {s : Sign}
    (hx : reading x = .finite .positive m e hm) (hy : reading y = .finite s n f hn) (h : m.log2 + e + f ≤ 969) :
    Scalar.isFinite (x * y) = true := by
  have hproper := proper_reading y
  rw [hy] at hproper
  have hlog : n.log2 < 53 := (Nat.log2_lt (Nat.ne_of_gt hn)).2 hproper.1.small
  have hproduct : (m * n).log2 < m.log2 + 1 + (n.log2 + 1) := by
    rw [Nat.log2_lt (Nat.ne_of_gt (Nat.mul_pos hm hn)), Nat.pow_add]
    exact Nat.mul_lt_mul_of_lt_of_lt Nat.lt_log2_self Nat.lt_log2_self
  have hlow : max (e + f) (cut (m * n) (e + f)) ≤ 970 := by
    rw [cut_eq]
    omega
  change (reading (x * y)).isFinite = true
  rw [reading_mul, hx, hy]
  change UnpackedFloat.isFinite
    (Float.Model.pack (roundWithAccuracy .binary64 (.positive * s) (m * n) (e + f) .exact)).unpack = true
  rcases unpack_pack_round (.positive * s) _ hlow with hzero | ⟨k, g, hk, hfinite, -⟩
  · rw [hzero]
    rfl
  · rw [hfinite]
    rfl

theorem isFinite_mul_of_zero {x y : Float} {t : Sign} (hx : reading x = .zero t)
    (hy : Scalar.isFinite y = true) : Scalar.isFinite (x * y) = true := by
  change (reading y).isFinite = true at hy
  change (reading (x * y)).isFinite = true
  rw [reading_mul, hx]
  cases hreading : reading y with
  | notANumber =>
    rw [hreading] at hy
    cases hy
  | infinity s =>
    rw [hreading] at hy
    cases hy
  | zero s => exact (congrArg UnpackedFloat.isFinite (unpack_pack_zero _)).trans rfl
  | finite s n f hn => exact (congrArg UnpackedFloat.isFinite (unpack_pack_zero _)).trans rfl

/-- **A fraction of a number is finite**, unless that number is among the greatest ones. -/
theorem isFinite_mul {r y : Float} (h : 0.0 ≤ r ∧ r < 1.0) {s : Sign} {n : Nat} {f : Int} {hn : 0 < n}
    (hy : reading y = .finite s n f hn) (hf : f ≤ 970) : Scalar.isFinite (r * y) = true := by
  rcases reading_unit ⟨h.1, Timekeeping.le_of_lt h.2⟩ with ⟨t, hr⟩ | ⟨m, e, hm, hr, -, hbits⟩
  · refine isFinite_mul_of_zero hr ?_
    change (reading y).isFinite = true
    rw [hy]
    rfl
  · have hbelow := hbits h.2
    exact isFinite_mul_of_low hr hy (by omega)

/-! ## Natural numbers as doubles -/

theorem log2_mul_two_pow_lt {m : Nat} (hm : 0 < m) (k : Nat) : (m * 2 ^ k).log2 < m.log2 + 1 + k := by
  rw [Nat.log2_lt (Nat.ne_of_gt (Nat.mul_pos hm (Nat.two_pow_pos k))), Nat.pow_add]
  exact Nat.mul_lt_mul_of_pos_right Nat.lt_log2_self (Nat.two_pow_pos k)

/-- The product of a number with one stays low, but for a carry. -/
theorem unpack_mul_one {p : Nat} {f : Int} {hp : 0 < p} (hx : Proper (.finite .positive p f hp)) (hf : f ≤ 900) :
    let product := (Float.Model.pack (UnpackedFloat.mul .binary64 (.finite .positive p f hp)
      (.finite .positive (2 ^ 52) (-52) (by decide)))).unpack
    (∃ s, product = .zero s) ∨ ∃ m e hm, product = .finite .positive m e hm ∧ e ≤ max f (-1074) + 1 := by
  have hlog : p.log2 < 53 := (Nat.log2_lt (Nat.ne_of_gt hp)).2 hx.1.small
  have hproduct := log2_mul_two_pow_lt hp 52
  have hcut : max (f + -52) (cut (p * 2 ^ 52) (f + -52)) ≤ max f (-1074) := by
    rw [cut_eq]
    omega
  rcases unpack_pack_round .positive .exact (hcut.trans (by omega)) with hzero | ⟨m, e, hm, hfinite, he⟩
  · exact .inl ⟨_, hzero⟩
  · exact .inr ⟨m, e, hm, hfinite, by omega⟩

theorem reading_wholes {n : Nat} (h : n < 2 ^ 64) : reading n.toUInt64.toFloat =
    (Float.Model.pack (normalize .binary64 n 0 .positive)).unpack := by
  have hn : n.toUInt64.toNat = n := Nat.mod_eq_of_lt h
  change (Float.Model.pack (normalize .binary64 (n.toUInt64.toNat : Int) 0 .positive)).unpack = _
  rw [hn]

/-- A number that fits a mantissa is a whole one times one. -/
theorem ofNat_of_fits {n : Nat} (h : n < 2 ^ 53) :
    (Scalar.ofNat n : Float) = n.toUInt64.toFloat * Float.ofBits 0x3FF0000000000000 := by
  change Float.ofScientific n false 0 = _
  unfold Float.ofScientific
  rw [dif_pos ⟨h, by decide⟩]
  rfl

/-- A number that does not is rounded from its mantissa. -/
theorem reading_ofNat_of_large {n : Nat} (hn : 0 < n) (h : ¬ n < 2 ^ 53) : reading (Scalar.ofNat n) =
    (Float.Model.pack (roundWithAccuracy .binary64 .positive (n <<< 53) (-53) .exact)).unpack := by
  have hscientific : UnpackedFloat.ofScientific .binary64 n 0 =
      roundWithAccuracy .binary64 .positive (n <<< 53) (-53) .exact := by
    unfold UnpackedFloat.ofScientific
    have hpow : (0 : Int) ≤ 2 ^ Format.binary64.exponentBits := by positivity
    rw [dif_neg (Nat.ne_of_gt hn), if_neg (by decide), if_neg (by omega), if_pos (Int.le_refl 0)]
    change roundWithAccuracy .binary64 .positive (n <<< 53 * 1) (-53 + 0) .exact = _
    rw [Nat.mul_one]
    rfl
  rw [← hscientific]
  change reading (Float.ofScientific n false 0) = _
  unfold Float.ofScientific
  rw [dif_neg fun h' => h h'.1]
  rfl

/-- **A natural number that is not astronomic** is read as a zero or with low leading bits. -/
theorem reading_ofNat {n : Nat} (h : n < 2 ^ 63) : (∃ s, reading (Scalar.ofNat n) = .zero s) ∨
    ∃ m e hm, reading (Scalar.ofNat n) = .finite .positive m e hm ∧ e ≤ 100 := by
  have hone : reading (Float.ofBits 0x3FF0000000000000) = .finite .positive (2 ^ 52) (-52) (by decide) := rfl
  rcases Nat.eq_zero_or_pos n with rfl | hn
  · exact .inl ⟨.positive, rfl⟩
  by_cases hfits : n < 2 ^ 53
  · have hlog : n.log2 < 53 := (Nat.log2_lt (Nat.ne_of_gt hn)).2 hfits
    have hround : round .binary64 .positive n 0 = roundWithAccuracy .binary64 .positive (n * 2 ^ (0 - cut n 0).toNat)
        (0 - (0 - cut n 0).toNat) .exact := by
      rw [← Nat.shiftLeft_eq]
      rfl
    have hshifted := log2_mul_two_pow_lt hn (0 - cut n 0).toNat
    have hlow : max (0 - ((0 - cut n 0).toNat : Int))
        (cut (n * 2 ^ (0 - cut n 0).toNat) (0 - (0 - cut n 0).toNat)) ≤ 0 := by
      rw [cut_eq (n * _)]
      omega
    rw [ofNat_of_fits hfits, reading_mul, reading_wholes (by omega), normalize_pos (by omega), hone, Int.toNat_natCast,
      hround]
    have hproper := proper_unpack (Float.Model.pack (roundWithAccuracy .binary64 .positive
      (n * 2 ^ (0 - cut n 0).toNat) (0 - (0 - cut n 0).toNat) .exact))
    rcases unpack_pack_round .positive .exact (hlow.trans (by decide)) with hzero | ⟨p, f, hp, hfinite, hf⟩
    · rw [hzero]
      exact .inl ⟨_, unpack_pack_zero _⟩
    · rw [hfinite] at hproper ⊢
      rcases unpack_mul_one hproper (by omega) with hzero | ⟨m, e, hm, hproduct, he⟩
      · exact .inl hzero
      · exact .inr ⟨m, e, hm, hproduct, by omega⟩
  · have hlog : n.log2 < 63 := (Nat.log2_lt (Nat.ne_of_gt hn)).2 h
    have hshifted := log2_mul_two_pow_lt hn 53
    have hlow : max (-53) (cut (n <<< 53) (-53)) ≤ 10 := by
      rw [cut_eq, Nat.shiftLeft_eq]
      omega
    rw [reading_ofNat_of_large hn hfits]
    rcases unpack_pack_round .positive .exact (hlow.trans (by decide)) with hzero | ⟨m, e, hm, hfinite, he⟩
    · exact .inl ⟨_, hzero⟩
    · exact .inr ⟨m, e, hm, hfinite, by omega⟩

/-- **A share of a count is finite**, from none of it to the whole. -/
theorem isFinite_share {r : Float} {n : Nat} (hr : 0.0 ≤ r ∧ r ≤ 1.0) (hn : n < 2 ^ 63) :
    Scalar.isFinite (r * Scalar.ofNat n) = true := by
  have hcount : Scalar.isFinite (Scalar.ofNat n : Float) = true := by
    change (reading _).isFinite = true
    rcases reading_ofNat hn with ⟨s, hzero⟩ | ⟨m, e, hm, hfinite, -⟩
    · rw [hzero]
      rfl
    · rw [hfinite]
      rfl
  rcases reading_unit hr with ⟨s, hzero⟩ | ⟨m, e, hm, hshare, hbits, -⟩
  · exact isFinite_mul_of_zero hzero hcount
  · rcases reading_ofNat hn with ⟨s, hnone⟩ | ⟨k, f, hk, hsome, hf⟩
    · change (reading (r * Scalar.ofNat n)).isFinite = true
      rw [reading_mul, hshare, hnone]
      exact (congrArg UnpackedFloat.isFinite (unpack_pack_zero _)).trans rfl
    · exact isFinite_mul_of_low hshare hsome (by omega)

end Double

namespace Source

/-! ## Numbers below a bound -/

section Bounds

variable {α : Type} [Scalar α] {n k : Nat}

theorem pick_lt (hn : 0 < n) {r : α} (h : pick n r = .ok k) : k < n := by
  unfold pick at h
  cases hc : Scalar.integral (r * Scalar.ofNat grain) Scalar.floor with
  | error fault =>
    rw [hc] at h
    cases h
  | ok cell =>
    rw [hc] at h
    cases h
    have hpos : (0 : Int) < n := Int.natCast_pos.2 hn
    rw [Int.toNat_lt (Int.emod_nonneg cell hpos.ne')]
    exact Int.emod_lt_of_pos cell hpos

theorem belowScripted_lt (hn : 0 < n) (fallback : α) :
    ∀ (pending : List α) (taken : Nat), (belowScripted n fallback pending taken).1 = .ok k → k < n
  | [], taken, h => by
    unfold belowScripted at h
    split at h
    · cases h
    · exact pick_lt hn h
  | r :: pending, taken, h => by
    unfold belowScripted at h
    split at h
    · exact belowScripted_lt hn fallback pending (taken + 1) h
    · exact pick_lt hn h

theorem belowSeeded_lt (hn : 0 < n) : ∀ (tries : Nat) (g : Random.Twister), (belowSeeded n tries g).1 < n
  | 0, _ => hn
  | tries + 1, g => by
    unfold belowSeeded
    dsimp only
    split
    · next h => exact h
    · exact belowSeeded_lt hn tries _

/-- **A number that is drawn is below the bound.** -/
theorem below_lt (hn : 0 < n) {s : Source α} (h : (s.below n).1 = .ok k) : k < n := by
  unfold below at h
  split at h
  · exact belowScripted_lt hn _ _ _ h
  · next g _ =>
    have hlt := belowSeeded_lt hn 1000 g
    generalize belowSeeded n 1000 g = drawn at h hlt
    cases h
    exact hlt

end Bounds

/-! ## Fair sources give numbers -/

theorem pick_of_fraction {r : Float} (h : 0.0 ≤ r ∧ r < 1.0) (n : Nat) : ∃ k, pick n r = .ok k := by
  have hgrain : Double.reading (Scalar.ofNat grain) = .finite .positive (2 ^ 52) 1 (by decide) := rfl
  unfold pick
  rw [Scalar.integral, if_pos (Double.isFinite_mul h hgrain (by decide))]
  exact ⟨_, rfl⟩

theorem belowScripted_of_fair {n : Nat} {fallback : Float} : ∀ (pending : List Float) (taken : Nat),
    Fair ⟨.scripted pending fallback, taken⟩ → (belowScripted n fallback pending taken).1 ≠ .error .endlessDraws →
    ∃ k, (belowScripted n fallback pending taken).1 = .ok k
  | [], taken, hfair, hends => by
    unfold belowScripted at hends ⊢
    dsimp only at hends ⊢
    split at hends
    · exact absurd rfl hends
    · next hbelow =>
      rw [if_neg hbelow]
      exact pick_of_fraction (hfair _ (.refl _)) n
  | r :: pending, taken, hfair, hends => by
    unfold belowScripted at hends ⊢
    split at hends
    · next hover =>
      rw [if_pos hover]
      exact belowScripted_of_fair pending (taken + 1) (hfair.leads (.fraction (.refl _))) hends
    · next hbelow =>
      rw [if_neg hbelow]
      exact pick_of_fraction (hfair _ (.refl _)) n

/-- **A fair source of doubles gives a number** below a bound, unless all its fractions are passed over. -/
theorem below_of_fair {s : Source Float} (hfair : s.Fair) {n : Nat} (hends : (s.below n).1 ≠ .error .endlessDraws) :
    ∃ k, (s.below n).1 = .ok k := by
  rcases s with ⟨⟨pending, fallback⟩ | g, taken⟩
  · exact belowScripted_of_fair pending taken hfair hends
  · exact ⟨_, rfl⟩

end Source
end Bystander
