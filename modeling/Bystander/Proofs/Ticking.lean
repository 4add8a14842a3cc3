import Bystander.Proofs.Draws
import Bystander.Proofs.Reals
/-! # Numbers that a loop of frames can count with

A loop of frames moves a clock on by one interval again and again, and it computes the interval and the number of frames
from a rate.  The interval may be infinite, since a rate can be so low that its inverse overflows.
-/
namespace Bystander

open Float.Model (UnpackedFloat Format)
open Float.Model.UnpackedFloat
open Scalar (Defined Elapses)

/-- **The laws of a loop of frames**, beside those of a clock. -/
class Ticking (α : Type) [Scalar α] : Prop extends Timekeeping α, Strict α where
  /-- A clock that was started is moved on by any interval, be it finite or not. -/
  tick {now d : α} : Defined now → ¬ now < 0.0 → Defined d → ¬ d < 0.0 → Defined (now + d) ∧ now ≤ now + d
  interval {fps : α} : Scalar.isFinite fps = true → 0.0 < fps →
    Scalar.divide 1.0 fps = .ok (1.0 / fps) ∧ Defined (1.0 / fps) ∧ ¬ 1.0 / fps < 0.0
  count {seconds fps : α} : Elapses seconds → Scalar.isFinite fps = true → 0.0 < fps →
    Scalar.isFinite (seconds * fps) = true → 0 ≤ Scalar.nearest (seconds * fps)

theorem Scalar.nearest_nonneg {α : Type} [Scalar α] {x : α} (h : 0 ≤ Scalar.floor x) : 0 ≤ Scalar.nearest x := by
  unfold Scalar.nearest
  dsimp only
  split
  · exact h
  · split
    · omega
    · split <;> omega

namespace Double

/-! ## Doubles that are not negative -/

/-- Zero, a positive number, or the positive infinity. -/
def Ample (x : UnpackedFloat) : Prop :=
  (∃ s, x = .zero s) ∨ (∃ m e h, x = .finite .positive m e h) ∨ x = .infinity .positive

theorem ample_iff (x : Float) : Defined x ∧ ¬ x < 0.0 ↔ Ample (reading x) := by
  have hbelow : x < 0.0 ↔ reading x ≠ .notANumber ∧ value (reading x) < ((0 : ℤ) : WithTop ℤ) := by
    rw [lt_iff, reading_zero]
    exact ⟨fun h => ⟨h.1, h.2.2⟩, fun h => ⟨h.1, by simp, h.2⟩⟩
  rw [defined_iff, hbelow]
  cases reading x with
  | notANumber => simp [Ample]
  | zero s => simp [Ample, value]
  | infinity s => cases s <;> simp [Ample, value]
  | finite s m e hm =>
    have hpos := size_pos hm e
    cases s with
    | negative =>
      have hneg : value (.finite .negative m e hm) < ((0 : ℤ) : WithTop ℤ) := coe_lt (by omega)
      exact iff_of_false (fun h => h.2 ⟨by simp, hneg⟩) (by simp [Ample])
    | positive =>
      have hnonneg : ((0 : ℤ) : WithTop ℤ) ≤ value (.finite .positive m e hm) := coe_le (by omega)
      exact iff_of_true ⟨by simp, fun h => not_lt.2 hnonneg h.2⟩ (.inr (.inl ⟨m, e, hm, rfl⟩))

theorem ample_number {m : Nat} {e : Int} (hm : 0 < m) :
    Ample (Float.Model.pack (.finite .positive m e hm)).unpack := by
  by_cases he : e ≤ 971
  · rcases unpack_pack_fits .positive hm he with hzero | ⟨n, f, hn, hfinite, -⟩
    · exact .inl ⟨_, hzero⟩
    · exact .inr (.inl ⟨n, f, hn, hfinite⟩)
  · exact .inr (.inr (unpack_pack_overflow .positive hm (by omega)))

theorem ample_round (m : Nat) (e : Int) (accuracy : Accuracy) :
    Ample (Float.Model.pack (roundWithAccuracy .binary64 .positive m e accuracy)).unpack := by
  rw [roundWithAccuracy_eq]
  split
  · exact .inl ⟨_, unpack_pack_zero .positive⟩
  · split <;> exact ample_number _

theorem reading_positive {x : Float} (hfinite : Scalar.isFinite x = true) (h : 0.0 < x) :
    ∃ m e hm, reading x = .finite .positive m e hm := by
  obtain ⟨-, -, hvalue⟩ := (lt_iff _ _).1 h
  have helapses : Elapses x := ⟨hfinite, fun hneg => Timekeeping.not_le_of_lt
    (Strict.defined_of_lt hneg) Timekeeping.defined_zero hneg (Timekeeping.le_of_lt h)⟩
  rcases (elapses_iff x).1 helapses with ⟨s, hzero⟩ | hpositive
  · rw [reading_zero, hzero] at hvalue
    exact absurd hvalue (lt_irrefl _)
  · exact hpositive

theorem ample_add {x y : Float} (hx : Ample (reading x)) (hy : Ample (reading y)) :
    reading (x + y) ≠ .notANumber ∧ value (reading x) ≤ value (reading (x + y)) := by
  have hx' : reading x ≠ .notANumber := by
    rcases hx with ⟨s, h⟩ | ⟨m, e, hm, h⟩ | h <;> rw [h] <;> nofun
  rcases hy with hzero | hfinite | hinfinite
  · exact value_le_add (proper_reading x) (proper_reading y) hx' (.inl hzero)
  · exact value_le_add (proper_reading x) (proper_reading y) hx' (.inr hfinite)
  · have hsum : UnpackedFloat.add .binary64 (reading x) (.infinity .positive) = .infinity .positive := by
      rcases hx with ⟨s, h⟩ | ⟨m, e, hm, h⟩ | h <;> rw [h] <;> rfl
    rw [reading_add, hinfinite, hsum, unpack_pack_infinity]
    exact ⟨nofun, le_top⟩

theorem ample_inverse {fps : Float} (hfinite : Scalar.isFinite fps = true) (h : 0.0 < fps) :
    Ample (reading (1.0 / fps)) := by
  obtain ⟨m, e, hm, hfps⟩ := reading_positive hfinite h
  have hquotient : reading (1.0 / fps) =
      (Float.Model.pack (UnpackedFloat.div .binary64 (reading 1.0) (reading fps))).unpack := rfl
  rw [hquotient, reading_one, hfps]
  exact ample_round _ _ _

theorem ample_mul_positive {x y : Float} (hx : Ample (reading x))
    (hy : ∃ m e hm, reading y = .finite .positive m e hm) : Ample (reading (x * y)) := by
  obtain ⟨m, e, hm, hy⟩ := hy
  rw [reading_mul, hy]
  rcases hx with ⟨s, hzero⟩ | ⟨n, f, hn, hpositive⟩ | hinfinite
  · rw [hzero]
    exact .inl ⟨_, unpack_pack_zero _⟩
  · rw [hpositive]
    exact ample_round _ _ _
  · rw [hinfinite]
    exact .inr (.inr (unpack_pack_infinity .positive))

theorem ample_mul {seconds fps : Float} (hseconds : Elapses seconds) (hfinite : Scalar.isFinite fps = true)
    (h : 0.0 < fps) : Ample (reading (seconds * fps)) :=
  ample_mul_positive (((elapses_iff seconds).1 hseconds).imp_right .inl) (reading_positive hfinite h)

/-! ## The bits of a double -/

theorem toNat_unpackSign (b : BitVec 64) : (@unpackSign .binary64 b).toNat = b.toNat / 2 ^ 63 % 2 := by
  simp [unpackSign, BitVec.extractLsb, Nat.shiftRight_eq_div_pow]

theorem toNat_unpackExponent (b : BitVec 64) : (@unpackExponent .binary64 b).toNat = b.toNat / 2 ^ 52 % 2 ^ 11 := by
  simp [unpackExponent, BitVec.extractLsb, Nat.shiftRight_eq_div_pow]

theorem toNat_unpackMantissa (b : BitVec 64) : (@unpackMantissa .binary64 b).toNat = b.toNat % 2 ^ 52 := by
  simp [unpackMantissa, BitVec.extractLsb]

/-- A finite double with the sign bit that is not negative is a zero. -/
theorem bits_of_ample {x : Float} (hx : Ample (reading x)) (hsign : x.toBits.toNat / 2 ^ 63 % 2 = 1)
    (hfinite : x.toBits.toNat / 2 ^ 52 % 2 ^ 11 ≠ 2047) :
    x.toBits.toNat / 2 ^ 52 % 2 ^ 11 = 0 ∧ x.toBits.toNat % 2 ^ 52 = 0 := by
  have hexponent : (@unpackExponent .binary64 x.toBits.toBitVec).toNat = x.toBits.toNat / 2 ^ 52 % 2 ^ 11 :=
    toNat_unpackExponent _
  have hmantissa : (@unpackMantissa .binary64 x.toBits.toBitVec).toNat = x.toBits.toNat % 2 ^ 52 :=
    toNat_unpackMantissa _
  rw [← hexponent, ← hmantissa]
  have hnegative : Sign.ofBitVec (@unpackSign .binary64 x.toBits.toBitVec) = .negative := by
    have hone : @unpackSign .binary64 x.toBits.toBitVec = 1#1 :=
      BitVec.eq_of_toNat_eq ((toNat_unpackSign _).trans hsign)
    rw [hone]
    rfl
  -- With this sign only a zero is ample: the exponent is not the highest one, so there is no infinity.
  have hone : @unpackExponent .binary64 x.toBits.toBitVec ≠ -1#11 := fun h =>
    hfinite (hexponent.symm.trans (congrArg BitVec.toNat h))
  change Ample (UnpackedFloat.unpack .binary64 x.toBits.toBitVec) at hx
  unfold UnpackedFloat.unpack at hx
  dsimp only at hx
  rw [if_neg hone, hnegative] at hx
  split at hx
  · next hzero =>
    split at hx
    · next hnothing => rw [hzero, hnothing]; exact ⟨rfl, rfl⟩
    · simp [Ample] at hx
  · simp [Ample] at hx

theorem floor_nonneg_of_binary {b : Decimal.Binary} (h : b.negative = true → b.mantissa = 0) : 0 ≤ b.floor := by
  unfold Decimal.Binary.floor
  split
  · next hnegative =>
    have hnumerator : b.numerator = 0 := by rw [Decimal.Binary.numerator, h hnegative, Nat.zero_mul]
    have hquotient : (0 + (b.denominator - 1)) / b.denominator = 0 :=
      Nat.div_eq_of_lt (by have := b.denominator_pos; omega)
    rw [hnumerator, hquotient]
    rfl
  · exact Int.natCast_nonneg _

theorem binary_of_bits {bits : Nat} {b : Decimal.Binary} (h : Decimal.Kind.ofBits bits = .finite b) :
    bits / 2 ^ 52 % 2 ^ 11 ≠ 2047 ∧ (b.negative = true → bits / 2 ^ 63 % 2 = 1) ∧
      (bits / 2 ^ 52 % 2 ^ 11 = 0 → b.mantissa = bits % 2 ^ 52) := by
  unfold Decimal.Kind.ofBits at h
  dsimp only at h
  split at h
  · split at h <;> cases h
  · next hfinite =>
    refine ⟨hfinite, ?_⟩
    split at h
    · cases h
      exact ⟨fun hnegative => eq_of_beq hnegative, fun _ => rfl⟩
    · next hzero =>
      cases h
      exact ⟨fun hnegative => eq_of_beq hnegative, fun h => absurd h hzero⟩

/-- The integer below a double that is not negative is not negative. -/
theorem floor_nonneg {x : Float} (hx : Ample (reading x)) : 0 ≤ floorOfDouble x := by
  unfold floorOfDouble
  split
  · next b hkind =>
    obtain ⟨hfinite, hnegative, hmantissa⟩ := binary_of_bits hkind
    refine floor_nonneg_of_binary fun h => ?_
    obtain ⟨hzero, hnothing⟩ := bits_of_ample hx (hnegative h) hfinite
    rw [hmantissa hzero, hnothing]
  · exact le_rfl

end Double

open Double in
/-- **Doubles have the laws of a loop of frames.** -/
instance : Ticking Float where
  tick {now d} hnow hstarted hd hdelta := by
    obtain ⟨hdefined, hle⟩ := ample_add ((ample_iff now).1 ⟨hnow, hstarted⟩) ((ample_iff d).1 ⟨hd, hdelta⟩)
    exact ⟨(defined_iff _).2 hdefined, (le_iff _ _).2 ⟨(defined_iff now).1 hnow, hdefined, hle⟩⟩
  interval {fps} hfinite h := by
    obtain ⟨hdefined, hstarted⟩ := (ample_iff _).2 (ample_inverse hfinite h)
    refine ⟨if_neg fun hzero => ?_, hdefined, hstarted⟩
    have hequal : (reading fps).compare (reading 0.0) = some .eq := eq_of_beq hzero
    obtain ⟨hnumber, hnumber', hless⟩ := (lt_iff _ _).1 h
    rw [compare_eq_cmp (proper_reading _) (proper_reading _) hnumber' hnumber] at hequal
    exact absurd hless (not_lt.2 ((cmp_eq_eq_iff _ _).1 (Option.some.inj hequal)).le)
  count {seconds fps} hseconds hfinite h _ := Scalar.nearest_nonneg (floor_nonneg (ample_mul hseconds hfinite h))

instance : Ticking ℝ where
  tick {now d} _ _ _ hd := by
    rw [Scalar.zero_literal, not_lt] at hd
    exact ⟨Scalar.defined_real _, le_add_of_nonneg_right hd⟩
  interval {fps} _ h := by
    refine ⟨if_neg fun hequal => ?_, Scalar.defined_real _, ?_⟩
    · exact h.ne' (of_decide_eq_true hequal)
    · rw [Scalar.zero_literal] at h ⊢
      exact not_lt.2 (by positivity)
  count {seconds fps} hseconds _ h _ := by
    rw [Scalar.zero_literal] at h
    exact Scalar.nearest_nonneg (Int.floor_nonneg.2 (mul_nonneg ((Scalar.elapses_real _).1 hseconds) h.le))

/-! ## Rounding over the reals -/

namespace Scalar

theorem ofInt_real (n : ℤ) : (ofInt n : ℝ) = n := by
  unfold ofInt
  split
  · next hneg =>
    rw [ofNat_real, Nat.cast_natAbs, abs_of_neg hneg]
    simp
  · next hnonneg =>
    rw [ofNat_real, Nat.cast_natAbs, abs_of_nonneg (not_lt.1 hnonneg)]

/-- **A real is rounded to the nearest integer**, and half-way to the even one. -/
theorem nearest_real (x : ℝ) : |x - nearest x| ≤ 1 / 2 ∧ (|x - nearest x| = 1 / 2 → Even (nearest x)) := by
  have hfloor : Scalar.floor x = ⌊x⌋ := rfl
  have hhalf : (0.5 : ℝ) = 1 / 2 := by norm_num
  have hlow := Int.floor_le x
  have hhigh := Int.lt_floor_add_one x
  unfold nearest
  rw [hfloor]
  dsimp only
  rw [ofInt_real, hhalf]
  split
  · next h =>
    have habs : |x - ⌊x⌋| = x - ⌊x⌋ := abs_of_nonneg (by linarith)
    rw [habs]
    exact ⟨h.le, fun heq => absurd heq h.ne⟩
  · next hge =>
    split
    · next h =>
      have habs : |x - (⌊x⌋ + 1 : ℤ)| = ⌊x⌋ + 1 - x := by
        push_cast
        rw [abs_sub_comm, abs_of_nonneg (by linarith)]
      rw [habs]
      exact ⟨by linarith, fun heq => by linarith⟩
    · next hle =>
      have hequal : x - ⌊x⌋ = 1 / 2 := le_antisymm (not_lt.1 hle) (not_lt.1 hge)
      split
      · next heven =>
        rw [hequal]
        exact ⟨by norm_num [abs_of_pos], fun _ => Int.even_iff.2 heven⟩
      · next hodd =>
        have habs : |x - (⌊x⌋ + 1 : ℤ)| = 1 / 2 := by
          push_cast
          rw [show x - ((⌊x⌋ : ℝ) + 1) = -(1 / 2) by linarith]
          norm_num [abs_of_neg]
        rw [habs]
        exact ⟨le_rfl, fun _ => Int.even_add_one.2 fun h => hodd (Int.even_iff.1 h)⟩

end Scalar
end Bystander
