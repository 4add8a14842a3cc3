import Mathlib
import Bystander.Scalar.Double
/-! # How doubles are rounded

A sum of doubles is computed exactly and then rounded: the mantissa loses its last bits and goes up by one at most, and
not at all if those bits are zero.  So rounding does not pass any double: what lies above one stays above it, and what
lies below stays below (`round_stands`).  Sizes are counted in units of the smallest positive double.
-/
namespace Bystander.Double

open Float.Model (Format totalExponent UnpackedFloat)
open Float.Model.UnpackedFloat

/-- **A mantissa and an exponent as a double holds them.** -/
structure Canonical (m : Nat) (e : Int) : Prop where
  small : m < 2 ^ 53
  low : -1074 ≤ e
  full : 2 ^ 52 ≤ m ∨ e = -1074

def size (m : Nat) (e : Int) : Nat := m * 2 ^ (e + 1074).toNat

theorem size_add (m : Nat) {e : Int} (he : -1074 ≤ e) (k : Nat) : size m (e + k) = size (m * 2 ^ k) e := by
  have hk : (e + k + 1074).toNat = k + (e + 1074).toNat := by omega
  unfold size
  rw [hk, Nat.pow_add, Nat.mul_assoc]

/-- A canonical size stays below the least full mantissa with a higher exponent. -/
theorem Canonical.size_lt {m : Nat} {e t : Int} (h : Canonical m e) (ht : e < t) : size m e < size (2 ^ 52) t := by
  obtain ⟨k, rfl⟩ : ∃ k : Nat, t = e + (k + 1 : Nat) := ⟨(t - e - 1).toNat, by omega⟩
  rw [size_add _ h.low]
  have hpow : 2 ^ 53 ≤ 2 ^ 52 * 2 ^ (k + 1) := by
    rw [← Nat.pow_add]
    exact Nat.pow_le_pow_right (by decide) (by omega)
  unfold size
  exact Nat.mul_lt_mul_of_pos_right (Nat.lt_of_lt_of_le h.small hpow) (Nat.two_pow_pos _)

theorem size_mono {m n : Nat} (h : m ≤ n) (e : Int) : size m e ≤ size n e := Nat.mul_le_mul_right _ h

theorem compare_size {m n : Nat} {e f : Int} (h : Canonical m e) (h' : Canonical n f) :
    (compare e f).then (compare m n) = compare (size m e) (size n f) := by
  rcases Int.lt_trichotomy e f with hlt | rfl | hgt
  · have hfull : 2 ^ 52 ≤ n := h'.full.resolve_right (by have := h.low; omega)
    have hsize : size m e < size n f := Nat.lt_of_lt_of_le (h.size_lt hlt) (size_mono hfull f)
    rw [compare_lt_iff_lt.2 hlt, compare_lt_iff_lt.2 hsize]
    rfl
  · have hpos : 0 < 2 ^ (e + 1074).toNat := Nat.two_pow_pos _
    rw [compare_eq_iff_eq.2 rfl]
    change compare m n = _
    rcases Nat.lt_trichotomy m n with hlt | rfl | hgt
    · have hsize : size m e < size n e := Nat.mul_lt_mul_of_pos_right hlt hpos
      rw [compare_lt_iff_lt.2 hlt, compare_lt_iff_lt.2 hsize]
    · rw [compare_eq_iff_eq.2 rfl, compare_eq_iff_eq.2 rfl]
    · have hsize : size n e < size m e := Nat.mul_lt_mul_of_pos_right hgt hpos
      rw [compare_gt_iff_gt.2 hgt, compare_gt_iff_gt.2 hsize]
  · have hfull : 2 ^ 52 ≤ m := h.full.resolve_right (by have := h'.low; omega)
    have hsize : size n f < size m e := Nat.lt_of_lt_of_le (h'.size_lt hgt) (size_mono hfull e)
    rw [compare_gt_iff_gt.2 hgt, compare_gt_iff_gt.2 hsize]
    rfl

/-! ## Losing bits -/

theorem shiftRight_succ (em : ExtendedMantissa) (k : Nat) : em >>> (k + 1) = (em >>> k).shiftRightOne := rfl

theorem mantissa_shiftRight (em : ExtendedMantissa) : ∀ k : Nat, (em >>> k).mantissa = em.mantissa / 2 ^ k
  | 0 => (Nat.div_one _).symm
  | k + 1 => by
    rw [shiftRight_succ, Nat.pow_succ, ← Nat.div_div_eq_div_mul, ← mantissa_shiftRight em k]
    rfl

/-- Zeros that are lost leave no trace. -/
theorem bits_shiftRight (m : Nat) : ∀ k : Nat, 2 ^ k ∣ m →
    ((⟨m, false, false⟩ : ExtendedMantissa) >>> k).roundBit = false ∧
      ((⟨m, false, false⟩ : ExtendedMantissa) >>> k).stickyBit = false
  | 0, _ => ⟨rfl, rfl⟩
  | k + 1, h => by
    obtain ⟨n, rfl⟩ := h
    obtain ⟨hround, hsticky⟩ := bits_shiftRight (2 ^ (k + 1) * n) k ⟨2 * n, by rw [Nat.pow_succ, Nat.mul_assoc]⟩
    have heven : 2 ^ (k + 1) * n / 2 ^ k = 2 * n := by
      rw [Nat.pow_succ, Nat.mul_assoc, Nat.mul_div_cancel_left _ (Nat.two_pow_pos k)]
    rw [shiftRight_succ]
    unfold ExtendedMantissa.shiftRightOne
    rw [mantissa_shiftRight, hround, hsticky]
    simp [heven]

theorem roundedMantissa_bounds (em : ExtendedMantissa) :
    em.mantissa ≤ em.roundedMantissa ∧ em.roundedMantissa ≤ em.mantissa + 1 := by
  have hodd : em.mantissa % 2 < 2 := Nat.mod_lt _ (by decide)
  rcases em with ⟨m, round, sticky⟩
  cases round <;> cases sticky <;>
    simp [ExtendedMantissa.roundedMantissa, ExtendedMantissa.accuracy, Accuracy.roundToNearestEven] at hodd ⊢
  omega

theorem roundedMantissa_exact {em : ExtendedMantissa} (hround : em.roundBit = false) (hsticky : em.stickyBit = false) :
    em.roundedMantissa = em.mantissa := by
  rcases em with ⟨m, round, sticky⟩
  cases hround
  cases hsticky
  rfl

/-! ## Rounding once and once more -/

/-- The exponent at which a mantissa is cut. -/
def cut (m : Nat) (e : Int) : Int := Format.binary64.targetExponent (totalExponent m e)

theorem cut_eq (m : Nat) (e : Int) : cut m e = max (m.log2 + 1 + e - 53) (-1074) := by
  simp [cut, Format.targetExponent, totalExponent, Format.mantissaBits, Format.minExponent]

/-- The mantissa after the first cut, rounded. -/
def cutMantissa (m : Nat) (e : Int) (accuracy : Accuracy) : Nat :=
  (ExtendedMantissa.ofMantissaAndAccuracy m accuracy >>> (cut m e - e).toNat).roundedMantissa

theorem mantissa_ofMantissaAndAccuracy (m : Nat) (accuracy : Accuracy) :
    (ExtendedMantissa.ofMantissaAndAccuracy m accuracy).mantissa = m := by
  cases accuracy with
  | exact => rfl
  | inexact o => cases o <;> rfl

theorem cutMantissa_bounds (m : Nat) (e : Int) (accuracy : Accuracy) :
    m / 2 ^ (cut m e - e).toNat ≤ cutMantissa m e accuracy ∧
      cutMantissa m e accuracy ≤ m / 2 ^ (cut m e - e).toNat + 1 := by
  have h := roundedMantissa_bounds (ExtendedMantissa.ofMantissaAndAccuracy m accuracy >>> (cut m e - e).toNat)
  rw [mantissa_shiftRight, mantissa_ofMantissaAndAccuracy] at h
  exact h

theorem cutMantissa_le (m : Nat) (e : Int) (accuracy : Accuracy) : cutMantissa m e accuracy ≤ 2 ^ 53 := by
  have hlog : m < 2 ^ (m.log2 + 1) := Nat.lt_log2_self
  have hfit : m.log2 + 1 ≤ 53 + (cut m e - e).toNat := by
    rw [cut_eq]
    omega
  have hcut : m / 2 ^ (cut m e - e).toNat < 2 ^ 53 := by
    rw [Nat.div_lt_iff_lt_mul (Nat.two_pow_pos _), ← Nat.pow_add]
    exact Nat.lt_of_lt_of_le hlog (Nat.pow_le_pow_right (by decide) hfit)
  exact Nat.le_trans (cutMantissa_bounds m e accuracy).2 hcut

/-- **What rounding does**: after the cut the mantissa fits, but for a carry into one bit more. -/
theorem roundWithAccuracy_eq (s : Sign) (m : Nat) (e : Int) (accuracy : Accuracy) :
    roundWithAccuracy .binary64 s m e accuracy =
      if h : cutMantissa m e accuracy = 0 then .zero s
      else if cutMantissa m e accuracy < 2 ^ 53 then
        .finite s (cutMantissa m e accuracy) (max e (cut m e)) (Nat.pos_of_ne_zero h)
      else .finite s (2 ^ 52) (max e (cut m e) + 1) (by decide) := by
  have hexponent : e + ((cut m e - e).toNat : Int) = max e (cut m e) := by omega
  have hlow : -1074 ≤ max e (cut m e) := by
    rw [cut_eq]
    omega
  have hfirst : shiftToTargetExponent .binary64 m e accuracy =
      (ExtendedMantissa.ofMantissaAndAccuracy m accuracy >>> (cut m e - e).toNat, max e (cut m e)) := by
    rw [← hexponent]
    rfl
  have hle := cutMantissa_le m e accuracy
  unfold roundWithAccuracy
  rw [hfirst]
  change (let r := cutMantissa m e accuracy
    let second := shiftToTargetExponent .binary64 r (max e (cut m e)) .exact
    if h : second.1.mantissa = 0 then UnpackedFloat.zero s
    else .finite s second.1.mantissa second.2 (Nat.pos_of_ne_zero h)) = _
  generalize cutMantissa m e accuracy = r at hle ⊢
  generalize max e (cut m e) = t at hlow ⊢
  have hsecond : ∀ k : Nat, (cut r t - t).toNat = k → shiftToTargetExponent .binary64 r t .exact =
      (ExtendedMantissa.ofMantissaAndAccuracy r .exact >>> k, t + k) := by
    rintro k rfl
    rfl
  by_cases hfits : r < 2 ^ 53
  · -- the mantissa fits, so nothing is lost the second time
    have hlog : r.log2 ≤ 52 := by
      by_cases hzero : r = 0
      · subst hzero
        decide
      · have := (Nat.log2_lt hzero).2 hfits
        omega
    have hk : (cut r t - t).toNat = 0 := by
      rw [cut_eq]
      omega
    dsimp only
    rw [hsecond 0 hk]
    have hmantissa : (ExtendedMantissa.ofMantissaAndAccuracy r .exact >>> 0).mantissa = r := rfl
    simp only [hmantissa, hfits, if_true, Nat.cast_zero, Int.add_zero]
  · have hcarry : r = 2 ^ 53 := by omega
    subst hcarry
    have hk : (cut (2 ^ 53) t - t).toNat = 1 := by
      rw [cut_eq, Nat.log2_two_pow]
      omega
    dsimp only
    rw [hsecond 1 hk]
    rfl

/-! ## Rounding passes no double -/

/-- **A rounded size**: a zero, or a canonical number. -/
def Stands (s : Sign) (n : Nat) (x : UnpackedFloat) : Prop :=
  x = .zero s ∧ n = 0 ∨ ∃ m e h, x = .finite s m e h ∧ Canonical m e ∧ size m e = n

theorem cut_stands (s : Sign) {m : Nat} {e : Int} (hm : 0 < m) (he : -1074 ≤ e) (hcut : e ≤ cut m e) :
    ∃ n, Stands s n (roundWithAccuracy .binary64 s m e .exact) ∧
      (∀ m' e', Canonical m' e' → size m' e' ≤ size m e → size m' e' ≤ n) ∧
      ∀ m' e', Canonical m' e' → size m e ≤ size m' e' → n ≤ size m' e' := by
  obtain ⟨k, hk⟩ : ∃ k : Nat, cut m e = e + k := ⟨(cut m e - e).toNat, by omega⟩
  have hlost : (cut m e - e).toNat = k := by omega
  have hmax : max e (cut m e) = cut m e := by omega
  have hlow : -1074 ≤ cut m e := by rw [cut_eq]; omega
  have hpos : 0 < 2 ^ (e + 1074).toNat := Nat.two_pow_pos _
  obtain ⟨hdown, hup⟩ := cutMantissa_bounds m e .exact
  have hexact : 2 ^ k ∣ m → cutMantissa m e .exact = m / 2 ^ k := by
    intro hdvd
    obtain ⟨hround, hsticky⟩ := bits_shiftRight m k hdvd
    have h := roundedMantissa_exact hround hsticky
    rw [mantissa_shiftRight] at h
    unfold cutMantissa
    rw [hlost]
    exact h
  rw [hlost] at hdown hup
  -- above the smallest exponent the cut mantissa is full
  have hfull : -1074 < cut m e → 2 ^ 52 ≤ m / 2 ^ k := by
    intro habove
    have hlog : m.log2 = 52 + k := by
      rw [cut_eq] at habove hk
      omega
    rw [Nat.le_div_iff_mul_le (Nat.two_pow_pos k), ← Nat.pow_add, ← hlog]
    exact Nat.log2_self_le (Nat.ne_of_gt hm)
  have hfloor : size (m / 2 ^ k) (cut m e) ≤ size m e := by
    rw [hk, size_add _ he]
    exact size_mono (Nat.div_mul_le_self m (2 ^ k)) e
  have hbelow : ∀ m' e', Canonical m' e' → e' < cut m e → size m' e' < size (m / 2 ^ k) (cut m e) := by
    intro m' e' h hlt
    have hle := hfull (by have := h.low; omega)
    exact Nat.lt_of_lt_of_le (h.size_lt hlt) (size_mono hle _)
  have hscale : ∀ (X : Nat), size X (cut m e) = X * 2 ^ k * 2 ^ (e + 1074).toNat := by
    intro X
    rw [hk, size_add _ he]
    rfl
  refine ⟨size (cutMantissa m e .exact) (cut m e), ?_, fun m' e' h hle => ?_, fun m' e' h hle => ?_⟩
  · rw [roundWithAccuracy_eq, hmax]
    have hfits := cutMantissa_le m e .exact
    split
    · next hzero =>
      refine Or.inl ⟨rfl, ?_⟩
      rw [hzero]
      exact Nat.zero_mul _
    · split
      · next hsmall =>
        refine Or.inr ⟨_, _, _, rfl, ⟨hsmall, hlow, ?_⟩, rfl⟩
        rcases Int.lt_or_eq_of_le hlow with habove | heq
        · exact Or.inl (Nat.le_trans (hfull habove) hdown)
        · exact Or.inr heq.symm
      · next hcarry =>
        have heq : cutMantissa m e .exact = 2 ^ 53 := by omega
        refine Or.inr ⟨_, _, _, rfl, ⟨by decide, by omega, Or.inl (Nat.le_refl _)⟩, ?_⟩
        rw [heq]
        exact size_add (2 ^ 52) hlow 1
  · refine Nat.le_trans ?_ (size_mono hdown _)
    rcases Int.lt_or_le e' (cut m e) with hlt | hge
    · exact Nat.le_of_lt (hbelow m' e' h hlt)
    · obtain ⟨j, hj⟩ : ∃ j : Nat, e' = cut m e + j := ⟨(e' - cut m e).toNat, by omega⟩
      rw [hj, size_add _ hlow] at hle ⊢
      rw [hscale] at hle
      have hcross : m' * 2 ^ j * 2 ^ k ≤ m := Nat.le_of_mul_le_mul_right hle hpos
      exact size_mono ((Nat.le_div_iff_mul_le (Nat.two_pow_pos k)).2 hcross) _
  · rcases Int.lt_or_le e' (cut m e) with hlt | hge
    · exact absurd (Nat.lt_of_lt_of_le (hbelow m' e' h hlt) hfloor) (Nat.not_lt.2 hle)
    · obtain ⟨j, hj⟩ : ∃ j : Nat, e' = cut m e + j := ⟨(e' - cut m e).toNat, by omega⟩
      rw [hj, size_add _ hlow] at hle ⊢
      rw [hscale] at hle
      have hcross : m ≤ m' * 2 ^ j * 2 ^ k := Nat.le_of_mul_le_mul_right hle hpos
      refine size_mono ?_ _
      by_cases hdvd : 2 ^ k ∣ m
      · rw [hexact hdvd]
        exact Nat.div_le_of_le_mul (by rw [Nat.mul_comm]; exact hcross)
      · have hlt : m / 2 ^ k < m' * 2 ^ j := by
          rw [Nat.div_lt_iff_lt_mul (Nat.two_pow_pos k)]
          refine Nat.lt_of_le_of_ne hcross fun heq => hdvd ?_
          rw [heq]
          exact Nat.dvd_mul_left _ _
        exact Nat.le_trans hup hlt

/-- **Rounding passes no double**: the result lies above all that lie below the exact size, and below all above it. -/
theorem round_stands (s : Sign) {m : Nat} {e : Int} (hm : 0 < m) (he : -1074 ≤ e) :
    ∃ n, Stands s n (round .binary64 s m e) ∧
      (∀ m' e', Canonical m' e' → size m' e' ≤ size m e → size m' e' ≤ n) ∧
      ∀ m' e', Canonical m' e' → size m e ≤ size m' e' → n ≤ size m' e' := by
  obtain ⟨k, hk⟩ : ∃ k : Nat, (e - cut m e).toNat = k := ⟨_, rfl⟩
  have hround : round .binary64 s m e = roundWithAccuracy .binary64 s (m <<< k) (e - k) .exact := by
    rw [← hk]
    rfl
  have hpos : 0 < m <<< k := by
    rw [Nat.shiftLeft_eq]
    exact Nat.mul_pos hm (Nat.two_pow_pos k)
  have hlog : (m <<< k).log2 = m.log2 + k := by
    rw [Nat.log2_eq_iff (Nat.ne_of_gt hpos), Nat.shiftLeft_eq, Nat.add_right_comm, Nat.pow_add, Nat.pow_add]
    exact ⟨Nat.mul_le_mul_right _ (Nat.log2_self_le (Nat.ne_of_gt hm)),
      Nat.mul_lt_mul_of_pos_right Nat.lt_log2_self (Nat.two_pow_pos k)⟩
  have hsame : cut (m <<< k) (e - k) = cut m e := by
    rw [cut_eq, cut_eq, hlog]
    push_cast
    congr 1
    omega
  have hlow : -1074 ≤ cut m e := by rw [cut_eq]; omega
  have hsize : size m e = size (m <<< k) (e - k) := by
    rw [Nat.shiftLeft_eq, ← size_add m (by omega), Int.sub_add_cancel]
  rw [hround, hsize]
  exact cut_stands s hpos (by omega) (by omega)

end Bystander.Double
