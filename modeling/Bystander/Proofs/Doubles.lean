import Mathlib
import Bystander.Proofs.Rounding
import Bystander.Proofs.Timekeeping
/-! # Doubles as numbers of a clock

A double is read by what it stands for: nothing, an infinity, a zero, or a mantissa with an exponent.  All but the first
are in line by their values (`compare_eq_cmp`).  Adding time to a double does not lower its value (`value_le_add`), as
rounding passes no double, and a thousandth of an amount is an amount.  So doubles have the laws of a clock; and nothing
comes of a double that stands for nothing.
-/
namespace Bystander

open Float.Model (UnpackedFloat Format)
open Float.Model.UnpackedFloat

namespace Double

/-- What a number that was read from a double fulfils. -/
def Proper : UnpackedFloat → Prop
  | .finite _ m e _ => Canonical m e ∧ e ≤ 971
  | _ => True

theorem toNat_implicit (v : BitVec 52) : ((1#1 : BitVec 1) ++ v).toNat = 2 ^ 52 + v.toNat := by
  rw [BitVec.toNat_append, ← Nat.shiftLeft_add_eq_or_of_lt v.isLt]
  rfl

theorem proper_unpack (x : Float.Model) : Proper x.unpack := by
  unfold Float.Model.unpack UnpackedFloat.unpack
  dsimp only
  have hmantissa : (@unpackMantissa .binary64 x.toBits.toBitVec).toNat < 2 ^ 52 := BitVec.isLt _
  have hexponent : (@unpackExponent .binary64 x.toBits.toBitVec).toNat < 2 ^ 11 := BitVec.isLt _
  have hbias : (Format.binary64.exponentBias : Int) + Format.binary64.mantissaBitsWithoutImplicit = 1075 := rfl
  rw [hbias]
  split
  · split <;> trivial
  · next hone =>
    split
    · next hzero =>
      split
      · trivial
      · refine ⟨⟨Nat.lt_trans hmantissa (by decide), ?_, Or.inr ?_⟩, ?_⟩
        all_goals
          rw [hzero]
          decide
    · next hzero =>
      have hlow : (@unpackExponent .binary64 x.toBits.toBitVec).toNat ≠ 0 := by
        intro h
        exact hzero (BitVec.eq_of_toNat_eq h)
      have hhigh : (@unpackExponent .binary64 x.toBits.toBitVec).toNat ≠ 2 ^ 11 - 1 := by
        intro h
        exact hone (BitVec.eq_of_toNat_eq h)
      have himplicit := toNat_implicit (@unpackMantissa .binary64 x.toBits.toBitVec)
      refine ⟨⟨?_, ?_, Or.inl ?_⟩, ?_⟩
      · rw [himplicit]
        omega
      · omega
      · rw [himplicit]
        omega
      · omega

/-! ## Packing and unpacking -/

theorem unpackSign_packComponents {format : Format} {s : Sign} {e m} :
    unpackSign (packComponents format s e m) = s.toBitVec := by
  ext i hi
  have hzero : i = 0 := by omega
  subst hzero
  simp [unpackSign, packComponents, BitVec.getLsbD_eq_getElem, BitVec.getElem_append, BitVec.getLsbD_append]

theorem ofBitVec_toBitVec (s : Sign) : Sign.ofBitVec s.toBitVec = s := by
  cases s <;> rfl

theorem unpack_pack (x : UnpackedFloat) :
    (Float.Model.pack x).unpack = UnpackedFloat.unpack .binary64 (UnpackedFloat.pack .binary64 x) := rfl

theorem biased (e : Int) :
    (e + Format.binary64.exponentBias + Format.binary64.mantissaBitsWithoutImplicit).toNat = (e + 1075).toNat := by
  change (e + 1023 + 52).toNat = _
  omega

theorem unpack_pack_infinity (s : Sign) : (Float.Model.pack (.infinity s)).unpack = .infinity s := by
  cases s <;> rfl

theorem unpack_pack_zero (s : Sign) : (Float.Model.pack (.zero s)).unpack = .zero s := by
  cases s <;> rfl

theorem unpack_pack_overflow (s : Sign) {m : Nat} {e : Int} (hm : 0 < m) (he : 971 < e) :
    (Float.Model.pack (.finite s m e hm)).unpack = .infinity s := by
  have hover : 2 ^ Format.binary64.exponentBits ≤ (e + 1075).toNat + 1 := by
    change 2 ^ 11 ≤ _
    omega
  have hpack : UnpackedFloat.pack .binary64 (.finite s m e hm) = UnpackedFloat.pack .binary64 (.infinity s) := by
    unfold UnpackedFloat.pack
    dsimp only
    rw [biased, if_pos hover]
  rw [unpack_pack, hpack]
  exact unpack_pack_infinity s

/-- **A canonical number comes back** as it was packed, if its exponent fits. -/
theorem unpack_pack_finite (s : Sign) {m : Nat} {e : Int} (hm : 0 < m) (h : Canonical m e) (he : e ≤ 971) :
    (Float.Model.pack (.finite s m e hm)).unpack = .finite s m e hm := by
  have hfits : ¬ 2 ^ Format.binary64.exponentBits ≤ (e + 1075).toNat + 1 := by
    change ¬ 2 ^ 11 ≤ _
    omega
  have hlow := h.low
  rw [unpack_pack]
  unfold UnpackedFloat.pack
  dsimp only
  rw [biased, if_neg hfits]
  by_cases hfull : 2 ^ 52 ≤ m
  · have hlog : m.log2 + 1 = Format.binary64.mantissaBits := by
      have hle := (Nat.le_log2 (Nat.ne_of_gt hm)).2 hfull
      have hlt := (Nat.log2_lt (Nat.ne_of_gt hm)).2 h.small
      change _ = 53
      omega
    have hexponent : (BitVec.ofNat 11 (e + 1075).toNat).toNat = (e + 1075).toNat := by
      rw [BitVec.toNat_ofNat]
      omega
    have hone : BitVec.ofNat 11 (e + 1075).toNat ≠ -1#11 := by
      intro heq
      have := congrArg BitVec.toNat heq
      rw [hexponent] at this
      change _ = 2047 at this
      omega
    have hzero : BitVec.ofNat 11 (e + 1075).toNat ≠ 0#11 := by
      intro heq
      have := congrArg BitVec.toNat heq
      rw [hexponent] at this
      change _ = 0 at this
      omega
    have hmantissa : ((1#1 : BitVec 1) ++ BitVec.ofNat 52 m).toNat = m := by
      have hsmall := h.small
      rw [toNat_implicit, BitVec.toNat_ofNat]
      omega
    have hback : ((e + 1075).toNat : Int) -
        (Format.binary64.exponentBias + Format.binary64.mantissaBitsWithoutImplicit) = e := by
      change _ - (1075 : Int) = e
      omega
    rw [if_pos hlog]
    unfold UnpackedFloat.unpack
    simp only [unpackMantissa_packComponents, unpackExponent_packComponents, unpackSign_packComponents,
      ofBitVec_toBitVec, hone, hzero, if_false, hexponent, hmantissa, hback]
  · have hlog : ¬ m.log2 + 1 = Format.binary64.mantissaBits := by
      have hlt := (Nat.log2_lt (Nat.ne_of_gt hm)).2 (Nat.lt_of_not_le hfull)
      change ¬ _ = 53
      omega
    have hexponent := h.full.resolve_left hfull
    subst hexponent
    have hone : (0#11 : BitVec 11) ≠ -1#11 := by decide
    have hmantissa : (BitVec.ofNat 52 m).toNat = m := by
      rw [BitVec.toNat_ofNat]
      omega
    have hzero : BitVec.ofNat 52 m ≠ 0#52 := by
      intro heq
      have := congrArg BitVec.toNat heq
      rw [hmantissa] at this
      change _ = 0 at this
      omega
    rw [if_neg hlog]
    unfold UnpackedFloat.unpack
    simp only [unpackMantissa_packComponents, unpackExponent_packComponents, unpackSign_packComponents,
      ofBitVec_toBitVec, hone, hzero, if_false, if_true, hmantissa]
    rfl
/-! ## Values -/

/-- **What a double is worth**, in units of the smallest positive one. -/
def value : UnpackedFloat → WithBot (WithTop ℤ)
  | .notANumber => ⊥
  | .infinity .negative => ⊥
  | .infinity .positive => ((⊤ : WithTop ℤ) : WithBot (WithTop ℤ))
  | .zero _ => ((0 : ℤ) : WithTop ℤ)
  | .finite .negative m e _ => ((-(size m e : ℤ) : ℤ) : WithTop ℤ)
  | .finite .positive m e _ => ((size m e : ℤ) : WithTop ℤ)

theorem size_pos {m : Nat} (hm : 0 < m) (e : Int) : 0 < size m e := Nat.mul_pos hm (Nat.two_pow_pos _)

theorem cmp_coe (a b : ℤ) :
    cmp ((a : WithTop ℤ) : WithBot (WithTop ℤ)) ((b : WithTop ℤ) : WithBot (WithTop ℤ)) = cmp a b := by
  rcases Int.lt_trichotomy a b with h | rfl | h
  · rw [(cmp_eq_lt_iff a b).2 h, cmp_eq_lt_iff]
    exact_mod_cast h
  · rw [cmp_self_eq_eq, cmp_self_eq_eq]
  · rw [(cmp_eq_gt_iff a b).2 h, cmp_eq_gt_iff]
    exact_mod_cast h

theorem cmp_size (m n : Nat) : cmp (m : ℤ) (n : ℤ) = compare m n := by
  rcases Nat.lt_trichotomy m n with h | rfl | h
  · rw [compare_lt_iff_lt.2 h, cmp_eq_lt_iff]
    exact_mod_cast h
  · rw [compare_eq_iff_eq.2 rfl, cmp_self_eq_eq]
  · rw [compare_gt_iff_gt.2 h, cmp_eq_gt_iff]
    exact_mod_cast h

theorem cmp_size_neg (m n : Nat) : cmp (-(m : ℤ)) (-(n : ℤ)) = (compare m n).swap := by
  rcases Nat.lt_trichotomy m n with h | rfl | h
  · rw [compare_lt_iff_lt.2 h, Ordering.swap_lt, cmp_eq_gt_iff]
    omega
  · rw [compare_eq_iff_eq.2 rfl, cmp_self_eq_eq, Ordering.swap_eq]
  · rw [compare_gt_iff_gt.2 h, Ordering.swap_gt, cmp_eq_lt_iff]
    omega

/-- **Numbers are in line by their values.** -/
theorem compare_eq_cmp {x y : UnpackedFloat} (hx : Proper x) (hy : Proper y) (hx' : x ≠ .notANumber)
    (hy' : y ≠ .notANumber) : x.compare y = some (cmp (value x) (value y)) := by
  cases x with
  | notANumber => exact absurd rfl hx'
  | infinity s =>
    cases y with
    | notANumber => exact absurd rfl hy'
    | infinity t => cases s <;> cases t <;> rfl
    | zero t => cases s <;> rfl
    | finite t n f hn => cases s <;> cases t <;> rfl
  | zero s =>
    cases y with
    | notANumber => exact absurd rfl hy'
    | infinity t => cases t <;> rfl
    | zero t => rfl
    | finite t n f hn =>
      have hpos := size_pos hn f
      cases t with
      | negative =>
        refine congrArg some ?_
        rw [value, value, cmp_coe, eq_comm, cmp_eq_gt_iff]
        omega
      | positive =>
        refine congrArg some ?_
        rw [value, value, cmp_coe, eq_comm, cmp_eq_lt_iff]
        omega
  | finite s m e hm =>
    have hpos := size_pos hm e
    cases y with
    | notANumber => exact absurd rfl hy'
    | infinity t => cases s <;> cases t <;> rfl
    | zero t =>
      cases s with
      | negative =>
        refine congrArg some ?_
        rw [value, value, cmp_coe, eq_comm, cmp_eq_lt_iff]
        omega
      | positive =>
        refine congrArg some ?_
        rw [value, value, cmp_coe, eq_comm, cmp_eq_gt_iff]
        omega
    | finite t n f hn =>
      have hpos' := size_pos hn f
      have hsize := compare_size hx.1 hy.1
      cases s with
      | negative =>
        cases t with
        | negative =>
          refine congrArg some ?_
          rw [value, value, cmp_coe, cmp_size_neg, hsize]
        | positive =>
          refine congrArg some ?_
          rw [value, value, cmp_coe, eq_comm, cmp_eq_lt_iff]
          omega
      | positive =>
        cases t with
        | negative =>
          refine congrArg some ?_
          rw [value, value, cmp_coe, eq_comm, cmp_eq_gt_iff]
          omega
        | positive =>
          refine congrArg some ?_
          rw [value, value, cmp_coe, cmp_size, hsize]

abbrev reading (x : Float) : UnpackedFloat := x.toModel.unpack

theorem proper_reading (x : Float) : Proper (reading x) := proper_unpack x.toModel

theorem defined_iff (x : Float) : Scalar.Defined x ↔ reading x ≠ .notANumber := by
  have hself : Scalar.Defined x ↔ (reading x).compare (reading x) = some .eq := by
    change (!((reading x).compare (reading x) == some .eq)) = false ↔ _
    simp
  rw [hself]
  constructor
  · intro h hnone
    rw [hnone] at h
    cases h
  · intro h
    rw [compare_eq_cmp (proper_reading x) (proper_reading x) h h, cmp_self_eq_eq]

theorem number_of_compare {x y : UnpackedFloat} {o : Ordering} (h : x.compare y = some o) :
    x ≠ .notANumber ∧ y ≠ .notANumber := by
  constructor
  · rintro rfl
    cases h
  · rintro rfl
    cases x with
    | notANumber => cases h
    | infinity s => cases s <;> cases h
    | zero s => cases h
    | finite s m e hm => cases s <;> cases h

theorem lt_iff (x y : Float) :
    x < y ↔ reading x ≠ .notANumber ∧ reading y ≠ .notANumber ∧ value (reading x) < value (reading y) := by
  have hcompare : x < y ↔ (reading x).compare (reading y) = some .lt := by
    change decide (((reading x).compare (reading y) == some .lt) = true) = true ↔ _
    simp
  rw [hcompare]
  constructor
  · intro h
    obtain ⟨hx, hy⟩ := number_of_compare h
    rw [compare_eq_cmp (proper_reading x) (proper_reading y) hx hy] at h
    exact ⟨hx, hy, (cmp_eq_lt_iff _ _).1 (Option.some.inj h)⟩
  · rintro ⟨hx, hy, h⟩
    rw [compare_eq_cmp (proper_reading x) (proper_reading y) hx hy, (cmp_eq_lt_iff _ _).2 h]

theorem le_iff (x y : Float) :
    x ≤ y ↔ reading x ≠ .notANumber ∧ reading y ≠ .notANumber ∧ value (reading x) ≤ value (reading y) := by
  have hcompare : x ≤ y ↔ ∃ o, (reading x).compare (reading y) = some o ∧ o.isLE = true := by
    change decide (((reading x).compare (reading y)).any (·.isLE) = true) = true ↔ _
    rw [decide_eq_true_iff, Option.any_eq_true]
  rw [hcompare]
  constructor
  · rintro ⟨o, h, hle⟩
    obtain ⟨hx, hy⟩ := number_of_compare h
    rw [compare_eq_cmp (proper_reading x) (proper_reading y) hx hy] at h
    refine ⟨hx, hy, not_lt.1 fun hgt => ?_⟩
    rw [(cmp_eq_gt_iff _ _).2 hgt] at h
    cases h
    cases hle
  · rintro ⟨hx, hy, h⟩
    refine ⟨_, compare_eq_cmp (proper_reading x) (proper_reading y) hx hy, ?_⟩
    rcases lt_or_eq_of_le h with hlt | heq
    · rw [(cmp_eq_lt_iff _ _).2 hlt]
      rfl
    · rw [(cmp_eq_eq_iff _ _).2 heq]
      rfl

/-! ## Sums -/

theorem reading_add (x y : Float) :
    reading (x + y) = (Float.Model.pack (UnpackedFloat.add .binary64 (reading x) (reading y))).unpack := rfl

theorem notANumber_add (y : UnpackedFloat) : UnpackedFloat.add .binary64 .notANumber y = .notANumber := by
  cases y <;> rfl

theorem add_notANumber (x : UnpackedFloat) : UnpackedFloat.add .binary64 x .notANumber = .notANumber := by
  cases x <;> rfl

/-- A result that stands for a size is kept, or is so large that it becomes an infinity. -/
theorem unpack_pack_stands {s : Sign} {n : Nat} {x : UnpackedFloat} (h : Stands s n x) :
    (Float.Model.pack x).unpack = x ∨
      (Float.Model.pack x).unpack = .infinity s ∧ ∀ m e, Canonical m e → e ≤ 971 → size m e < n := by
  rcases h with ⟨rfl, -⟩ | ⟨m, e, hm, rfl, hc, rfl⟩
  · exact Or.inl (unpack_pack_zero s)
  · rcases Int.lt_or_le 971 e with hover | hfits
    · refine Or.inr ⟨unpack_pack_overflow s hm hover, fun m' e' hc' he' => ?_⟩
      have hfull := hc.full.resolve_right (by omega)
      exact Nat.lt_of_lt_of_le (hc'.size_lt (by omega)) (size_mono hfull e)
    · exact Or.inl (unpack_pack_finite s hm hc hfits)

theorem value_stands {s : Sign} {n : Nat} {x : UnpackedFloat} (h : Stands s n x) :
    x ≠ .notANumber ∧ value x = ((s.apply n : ℤ) : WithTop ℤ) := by
  rcases h with ⟨rfl, rfl⟩ | ⟨m, e, hm, rfl, -, rfl⟩
  · refine ⟨by rintro ⟨⟩, ?_⟩
    cases s <;> rfl
  · refine ⟨by rintro ⟨⟩, ?_⟩
    cases s <;> rfl

theorem size_decreased {m : Nat} {e f : Int} (hf : -1074 ≤ f) (hfe : f ≤ e) :
    size (m <<< (e - f).toNat) f = size m e := by
  rw [Nat.shiftLeft_eq, ← size_add m hf]
  congr 1
  omega

theorem coe_le {a b : ℤ} (h : a ≤ b) :
    ((a : WithTop ℤ) : WithBot (WithTop ℤ)) ≤ ((b : WithTop ℤ) : WithBot (WithTop ℤ)) := by
  exact_mod_cast h

theorem coe_lt {a b : ℤ} (h : a < b) :
    ((a : WithTop ℤ) : WithBot (WithTop ℤ)) < ((b : WithTop ℤ) : WithBot (WithTop ℤ)) := by
  exact_mod_cast h

theorem normalize_neg {k : ℤ} (hk : k < 0) (f : Int) (t : Sign) :
    normalize .binary64 k f t = round .binary64 .negative (-k).toNat f := by
  unfold UnpackedFloat.normalize
  rw [compare_lt_iff_lt.2 hk]

theorem normalize_pos {k : ℤ} (hk : 0 < k) (f : Int) (t : Sign) :
    normalize .binary64 k f t = round .binary64 .positive k.toNat f := by
  unfold UnpackedFloat.normalize
  rw [compare_gt_iff_gt.2 hk]

theorem normalize_zero (f : Int) (t : Sign) : normalize .binary64 0 f t = .zero t := rfl

/-- **A rounded sum** lies above each number that its first part is. -/
theorem value_le_normalize (s : Sign) {m : Nat} {e : Int} (hm : 0 < m) (h : Canonical m e) (he : e ≤ 971) {a : Nat}
    {f : Int} (hf : -1074 ≤ f) (ha : size a f = size m e) (b : Nat) :
    let z := (Float.Model.pack (normalize .binary64 (s.apply a + b) f .positive)).unpack
    z ≠ .notANumber ∧ value (.finite s m e hm) ≤ value z := by
  dsimp only
  have hpos := size_pos hm e
  have ha' : 0 < a := by
    refine Nat.pos_of_ne_zero fun hzero => ?_
    rw [hzero, size, Nat.zero_mul] at ha
    omega
  rcases Int.lt_trichotomy (s.apply a + b) 0 with hneg | hzero | hpos'
  · -- the sum stays negative, and no size above the first part's is reached
    cases s with
    | positive => exact absurd hneg (by change ¬ (a : ℤ) + b < 0; omega)
    | negative =>
      have hless : (-(Sign.negative.apply a + b)).toNat ≤ a := by
        change (-(-(a : ℤ) + b)).toNat ≤ a
        omega
      obtain ⟨n, hstands, -, hup⟩ := round_stands .negative (m := (-(Sign.negative.apply a + b)).toNat) (by omega) hf
      have hn : n ≤ size m e := hup m e h (ha ▸ size_mono hless f)
      rw [normalize_neg hneg]
      rcases unpack_pack_stands hstands with hkept | ⟨-, hover⟩
      · obtain ⟨hnumber, hvalue⟩ := value_stands hstands
        rw [hkept]
        refine ⟨hnumber, ?_⟩
        rw [hvalue, value]
        exact coe_le (by change -(size m e : ℤ) ≤ -(n : ℤ); omega)
      · exact absurd (hover m e h he) (Nat.not_lt.2 hn)
  · rw [hzero, normalize_zero, unpack_pack_zero]
    refine ⟨by rintro ⟨⟩, ?_⟩
    cases s with
    | positive => exact absurd hzero (by change ¬ (a : ℤ) + b = 0; omega)
    | negative => exact coe_le (by omega)
  · obtain ⟨n, hstands, hdown, -⟩ := round_stands .positive (m := (s.apply a + b).toNat) (by omega) hf
    have hvalue : value (.finite s m e hm) ≤ ((n : ℤ) : WithTop ℤ) := by
      cases s with
      | negative => exact coe_le (by omega)
      | positive =>
        have hmore : a ≤ (Sign.positive.apply a + b).toNat := by
          change a ≤ ((a : ℤ) + b).toNat
          omega
        have hn : size m e ≤ n := hdown m e h (ha ▸ size_mono hmore f)
        exact coe_le (by omega)
    rw [normalize_pos hpos']
    rcases unpack_pack_stands hstands with hkept | ⟨hover, -⟩
    · obtain ⟨hnumber, hsum⟩ := value_stands hstands
      rw [hkept, hsum]
      exact ⟨hnumber, hvalue⟩
    · rw [hover]
      refine ⟨by rintro ⟨⟩, hvalue.trans ?_⟩
      exact WithBot.coe_le_coe.2 le_top

/-- **Adding time** to a number does not lower its value. -/
theorem value_le_add {x y : UnpackedFloat} (hx : Proper x) (hy : Proper y) (hx' : x ≠ .notANumber)
    (hy' : (∃ s, y = .zero s) ∨ ∃ m e h, y = .finite .positive m e h) :
    let z := (Float.Model.pack (UnpackedFloat.add .binary64 x y)).unpack
    z ≠ .notANumber ∧ value x ≤ value z := by
  dsimp only
  cases x with
  | notANumber => exact absurd rfl hx'
  | infinity s =>
    have hsum : UnpackedFloat.add .binary64 (.infinity s) y = .infinity s := by
      rcases hy' with ⟨t, rfl⟩ | ⟨n, f, hn, rfl⟩ <;> rfl
    rw [hsum, unpack_pack_infinity]
    exact ⟨hx', le_rfl⟩
  | zero s =>
    rcases hy' with ⟨t, rfl⟩ | ⟨n, f, hn, rfl⟩
    · have hsum : ∃ u, UnpackedFloat.add .binary64 (.zero s) (.zero t) = .zero u := by
        cases s <;> cases t <;> exact ⟨_, rfl⟩
      obtain ⟨u, hu⟩ := hsum
      rw [hu, unpack_pack_zero]
      exact ⟨by rintro ⟨⟩, le_rfl⟩
    · have hsum : UnpackedFloat.add .binary64 (.zero s) (.finite .positive n f hn) = .finite .positive n f hn := rfl
      rw [hsum, unpack_pack_finite .positive hn hy.1 hy.2]
      exact ⟨by rintro ⟨⟩, coe_le (by omega)⟩
  | finite s m e hm =>
    rcases hy' with ⟨t, rfl⟩ | ⟨n, f, hn, rfl⟩
    · have hsum : UnpackedFloat.add .binary64 (.finite s m e hm) (.zero t) = .finite s m e hm := rfl
      rw [hsum, unpack_pack_finite s hm hx.1 hx.2]
      exact ⟨hx', le_rfl⟩
    · have hsum : UnpackedFloat.add .binary64 (.finite s m e hm) (.finite .positive n f hn) =
          normalize .binary64 (s.apply (m <<< (e - min e f).toNat : Nat) + (n <<< (f - min e f).toNat : Nat)) (min e f)
            .positive := rfl
      have hlow := hx.1.low
      have hlow' := hy.1.low
      rw [hsum]
      exact value_le_normalize s hm hx.1 hx.2 (by omega) (size_decreased (by omega) (by omega)) _

/-! ## Times and thousandths of them -/

/-- Zero, or a positive number. -/
def Amount (x : UnpackedFloat) : Prop := (∃ s, x = .zero s) ∨ ∃ m e h, x = .finite .positive m e h

theorem reading_zero : reading 0.0 = .zero .positive := rfl

theorem elapses_iff (d : Float) : Scalar.Elapses d ↔ Amount (reading d) := by
  have hfinite : Scalar.isFinite d = (reading d).isFinite := rfl
  have hbelow : d < 0.0 ↔ reading d ≠ .notANumber ∧ value (reading d) < ((0 : ℤ) : WithTop ℤ) := by
    rw [lt_iff, reading_zero]
    exact ⟨fun h => ⟨h.1, h.2.2⟩, fun h => ⟨h.1, (by rintro ⟨⟩), h.2⟩⟩
  unfold Scalar.Elapses
  rw [hfinite, hbelow]
  cases reading d with
  | notANumber =>
    constructor
    · rintro ⟨⟨⟩, -⟩
    · rintro (⟨s, ⟨⟩⟩ | ⟨m, e, hm, ⟨⟩⟩)
  | infinity s =>
    constructor
    · rintro ⟨⟨⟩, -⟩
    · rintro (⟨s, ⟨⟩⟩ | ⟨m, e, hm, ⟨⟩⟩)
  | zero s => exact ⟨fun _ => Or.inl ⟨s, rfl⟩, fun _ => ⟨rfl, fun h => lt_irrefl _ h.2⟩⟩
  | finite s m e hm =>
    have hpos := size_pos hm e
    cases s with
    | negative =>
      have hneg : value (.finite .negative m e hm) < ((0 : ℤ) : WithTop ℤ) := coe_lt (by omega)
      constructor
      · exact fun h => absurd ⟨(by rintro ⟨⟩), hneg⟩ h.2
      · rintro (⟨s, ⟨⟩⟩ | ⟨m, e, hm, ⟨⟩⟩)
    | positive =>
      have hnonneg : ((0 : ℤ) : WithTop ℤ) ≤ value (.finite .positive m e hm) := coe_le (by omega)
      exact ⟨fun _ => Or.inr ⟨m, e, hm, rfl⟩, fun _ => ⟨rfl, fun h => not_lt.2 hnonneg h.2⟩⟩

theorem unpack_packComponents (s : Sign) {e : BitVec 11} (he : e ≠ -1#11) (m : BitVec 52) :
    UnpackedFloat.unpack .binary64 (packComponents .binary64 s e m) = .zero s ∨
      ∃ n f h, UnpackedFloat.unpack .binary64 (packComponents .binary64 s e m) = .finite s n f h ∧
        f ≤ max ((e.toNat : Int) - 1075) (-1074) := by
  unfold UnpackedFloat.unpack
  simp only [unpackMantissa_packComponents, unpackExponent_packComponents, unpackSign_packComponents,
    ofBitVec_toBitVec, he, if_false]
  split
  · next hlowest =>
    split
    · exact Or.inl rfl
    · next hm =>
      refine Or.inr ⟨_, _, Nat.pos_of_ne_zero fun hzero => hm (BitVec.eq_of_toNat_eq hzero), rfl, ?_⟩
      rw [hlowest]
      decide
  · have himplicit : 0 < ((1#1 : BitVec 1) ++ m).toNat := by
      rw [toNat_implicit]
      omega
    exact Or.inr ⟨_, _, himplicit, rfl, le_max_left _ _⟩

/-- A number whose exponent fits is packed as a number of its sign, whose exponent is no greater. -/
theorem unpack_pack_fits (s : Sign) {m : Nat} {e : Int} (hm : 0 < m) (he : e ≤ 971) :
    (Float.Model.pack (.finite s m e hm)).unpack = .zero s ∨
      ∃ n f h, (Float.Model.pack (.finite s m e hm)).unpack = .finite s n f h ∧ f ≤ max e (-1074) := by
  have hfits : ¬ 2 ^ Format.binary64.exponentBits ≤ (e + 1075).toNat + 1 := by
    change ¬ 2 ^ 11 ≤ _
    omega
  rw [unpack_pack]
  unfold UnpackedFloat.pack
  dsimp only
  rw [biased, if_neg hfits]
  have hsmall : (e + 1075).toNat < 2 ^ 11 := by
    change ¬ 2 ^ 11 ≤ _ at hfits
    omega
  split
  · have hexponent : (BitVec.ofNat 11 (e + 1075).toNat).toNat = (e + 1075).toNat := by
      rw [BitVec.toNat_ofNat, Nat.mod_eq_of_lt hsmall]
    refine (unpack_packComponents s (fun heq => ?_) _).imp_right ?_
    · have hone := congrArg BitVec.toNat heq
      rw [BitVec.toNat_ofNat] at hone
      change _ = 2047 at hone
      omega
    · rintro ⟨n, f, h, hn, hf⟩
      refine ⟨n, f, h, hn, ?_⟩
      change f ≤ max (((BitVec.ofNat 11 (e + 1075).toNat).toNat : Int) - 1075) (-1074) at hf
      rw [hexponent] at hf
      omega
  · refine (unpack_packComponents s (by decide) _).imp_right ?_
    rintro ⟨n, f, h, hn, hf⟩
    exact ⟨n, f, h, hn, hf.trans (le_max_right _ _)⟩

/-- A rounding that cuts low enough is packed as a number of its sign, low as well but for a carry. -/
theorem unpack_pack_round (s : Sign) (accuracy : Accuracy) {m : Nat} {e : Int} (h : max e (cut m e) ≤ 970) :
    (Float.Model.pack (roundWithAccuracy .binary64 s m e accuracy)).unpack = .zero s ∨
      ∃ n f hn, (Float.Model.pack (roundWithAccuracy .binary64 s m e accuracy)).unpack = .finite s n f hn ∧
        f ≤ max e (cut m e) + 1 := by
  have hlow : -1074 ≤ max e (cut m e) := by
    rw [cut_eq]
    omega
  rw [roundWithAccuracy_eq]
  split
  · exact Or.inl (unpack_pack_zero s)
  · split
    · refine (unpack_pack_fits s _ (by omega)).imp_right ?_
      rintro ⟨n, f, hn, hr, hf⟩
      exact ⟨n, f, hn, hr, by omega⟩
    · refine (unpack_pack_fits s _ (by omega)).imp_right ?_
      rintro ⟨n, f, hn, hr, hf⟩
      exact ⟨n, f, hn, hr, by omega⟩

/-- The exponent of a thousandth stays low, also where its mantissa is cut. -/
theorem exponent_thousandth {m : Nat} {e : Int} (hm : 0 < m) (h : Canonical m e) (he : e ≤ 971) :
    let core := divCore .binary64 m e 8796093022208000 (-43)
    max core.2.1 (cut core.1 core.2.1) ≤ 970 := by
  have hthousand : (8796093022208000 : Nat).log2 = 52 := by decide
  have hbits : m.log2 < 53 := (Nat.log2_lt (Nat.ne_of_gt hm)).2 h.small
  have htarget : ∀ t : Int, Format.binary64.targetExponent t = max (t - 53) (-1074) := by
    intro t
    simp [Format.targetExponent, Format.mantissaBits, Format.minExponent]
  obtain ⟨f, hf⟩ : ∃ f : Int, min (e - -43) (max (m.log2 + 1 + e - 10 - 53) (-1074)) = f := ⟨_, rfl⟩
  obtain ⟨k, hk⟩ : ∃ k : Nat, (e - -43 - f).toNat = k := ⟨_, rfl⟩
  have hcore : divCore .binary64 m e 8796093022208000 (-43) = ((m <<< k) / 8796093022208000, f,
      accuracyOfFraction ((m <<< k) % 8796093022208000) 8796093022208000) := by
    unfold divCore Float.Model.totalExponent
    rw [htarget, hthousand]
    push_cast
    rw [hf, hk]
  rw [hcore]
  dsimp only
  rw [cut_eq]
  by_cases hzero : (m <<< k) / 8796093022208000 = 0
  · rw [hzero, Nat.log2_zero]
    omega
  · have hsmall : (m <<< k) / 8796093022208000 < 2 ^ (m.log2 + 1 + k - 52) := by
      rw [Nat.div_lt_iff_lt_mul (by decide), Nat.shiftLeft_eq]
      calc m * 2 ^ k < 2 ^ (m.log2 + 1) * 2 ^ k := Nat.mul_lt_mul_of_pos_right Nat.lt_log2_self (Nat.two_pow_pos k)
        _ = 2 ^ (m.log2 + 1 + k) := (Nat.pow_add ..).symm
        _ ≤ 2 ^ (m.log2 + 1 + k - 52 + 52) := Nat.pow_le_pow_right (by decide) (by omega)
        _ = 2 ^ (m.log2 + 1 + k - 52) * 2 ^ 52 := Nat.pow_add ..
        _ ≤ 2 ^ (m.log2 + 1 + k - 52) * 8796093022208000 := Nat.mul_le_mul_left _ (by decide)
    have hquotient := (Nat.log2_lt hzero).2 hsmall
    omega

theorem amount_thousandth {x : UnpackedFloat} (hx : Proper x) (h : Amount x) :
    let thousand : UnpackedFloat := .finite .positive 8796093022208000 (-43) (by decide)
    Amount (Float.Model.pack (UnpackedFloat.div .binary64 x thousand)).unpack := by
  dsimp only
  rcases h with ⟨s, rfl⟩ | ⟨m, e, hm, rfl⟩
  · exact Or.inl ⟨_, unpack_pack_zero _⟩
  · rcases hq : divCore .binary64 m e 8796093022208000 (-43) with ⟨q, f, accuracy⟩
    have hquotient : UnpackedFloat.div .binary64 (.finite .positive m e hm)
        (.finite .positive 8796093022208000 (-43) (by decide)) =
        roundWithAccuracy .binary64 .positive q f accuracy := by
      change (let (q, f, accuracy) := divCore .binary64 m e 8796093022208000 (-43)
        roundWithAccuracy .binary64 (Sign.positive / Sign.positive) q f accuracy) = _
      rw [hq]
      rfl
    have hexponent := exponent_thousandth hm hx.1 hx.2
    rw [hq] at hexponent
    rw [hquotient]
    rcases unpack_pack_round .positive _ hexponent with hzero | ⟨n, g, hn, hfinite, -⟩
    · exact Or.inl ⟨_, hzero⟩
    · exact Or.inr ⟨n, g, hn, hfinite⟩

end Double

open Double in
/-- **Doubles have the laws of a clock.** -/
instance : Timekeeping Float where
  le_trans {a b c} hab hbc := by
    rw [le_iff] at hab hbc ⊢
    exact ⟨hab.1, hbc.2.1, hab.2.2.trans hbc.2.2⟩
  le_of_lt {a b} hab := by
    rw [lt_iff] at hab
    rw [le_iff]
    exact ⟨hab.1, hab.2.1, hab.2.2.le⟩
  lt_iff_not_le {a b} ha hb := by
    rw [defined_iff] at ha hb
    rw [lt_iff, le_iff]
    constructor
    · exact fun h h' => not_lt.2 h'.2.2 h.2.2
    · exact fun h => ⟨ha, hb, not_le.1 fun hle => h ⟨hb, ha, hle⟩⟩
  defined_zero := by
    rw [defined_iff, reading_zero]
    rintro ⟨⟩
  defined_add {now d} hnow hd := by
    rw [defined_iff] at hnow ⊢
    exact (value_le_add (proper_reading now) (proper_reading d) hnow ((elapses_iff d).1 hd)).1
  le_add {now d} hnow hd := by
    rw [defined_iff] at hnow
    have hsum := value_le_add (proper_reading now) (proper_reading d) hnow ((elapses_iff d).1 hd)
    exact (le_iff _ _).2 ⟨hnow, hsum.1, hsum.2⟩
  defined_wait {now d} hnow hd := by
    rw [defined_iff] at hnow ⊢
    have hd' : Amount (reading (d / 1000.0)) := amount_thousandth (proper_reading d) ((elapses_iff d).1 hd)
    exact (value_le_add (proper_reading now) (proper_reading _) hnow hd').1
  le_wait {now d} hnow hd := by
    rw [defined_iff] at hnow
    have hd' : Amount (reading (d / 1000.0)) := amount_thousandth (proper_reading d) ((elapses_iff d).1 hd)
    have hsum := value_le_add (proper_reading now) (proper_reading _) hnow hd'
    exact (le_iff _ _).2 ⟨hnow, hsum.1, hsum.2⟩

open Double in
instance : Strict Float where
  defined_of_add {a b} h := by
    rw [defined_iff, reading_add] at h
    rw [defined_iff, defined_iff]
    constructor
    · intro ha
      rw [ha, notANumber_add] at h
      exact h rfl
    · intro hb
      rw [hb, add_notANumber] at h
      exact h rfl
  defined_of_lt {a b} h := (defined_iff a).2 ((lt_iff a b).1 h).1
  defined_of_le {a b} h := (defined_iff b).2 ((le_iff a b).1 h).2.1

end Bystander
