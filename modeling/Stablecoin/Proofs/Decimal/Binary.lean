import Stablecoin.Proofs.Decimal.Rounding

namespace Stablecoin.Decimal
open Float.Model (Format UnpackedFloat)
open Float.Model.UnpackedFloat

theorem toNat_unpackExponent (bits : UInt64) :
    (@unpackExponent Format.binary64 bits.toBitVec).toNat = ((bits >>> 52) &&& 0x7FF).toNat := by
  rw [unpackExponent_def]
  simp only [BitVec.extractLsb'_toNat, UInt64.toNat_and, UInt64.toNat_shiftRight]
  exact (Nat.and_two_pow_sub_one_eq_mod _ 11).symm

theorem toNat_unpackMantissa (bits : UInt64) :
    (@unpackMantissa Format.binary64 bits.toBitVec).toNat = (bits &&& 0xFFFFFFFFFFFFF).toNat := by
  rw [unpackMantissa_def]
  simp only [BitVec.extractLsb'_toNat, UInt64.toNat_and]
  exact (Nat.and_two_pow_sub_one_eq_mod _ 52).symm

/-- The sign of a float. -/
def signOf (x : Float) : Sign := if isNegative x then .negative else .positive

theorem ofBitVec_unpackSign (x : Float) :
    Sign.ofBitVec (@unpackSign Format.binary64 x.toBits.toBitVec) = signOf x := by
  have bit : (@unpackSign Format.binary64 x.toBits.toBitVec).toNat = x.toBits.toNat / 2 ^ 63 % 2 := by
    rw [unpackSign_def]
    simp only [BitVec.extractLsb'_toNat]
    rw [Nat.shiftRight_eq_div_pow]
    rfl
  have limit := x.toBits.toNat_lt
  unfold signOf isNegative Sign.ofBitVec
  rcases Nat.lt_or_ge x.toBits.toNat 0x8000000000000000 with low | high
  · rw [if_pos (BitVec.eq_of_toNat_eq (by rw [bit]; simp; omega)), if_neg (by simpa using low)]
  · rw [if_neg, if_pos (by simpa using high)]
    intro zero
    rw [zero] at bit
    simp at bit
    omega

/-- A float is what its parts are packed to. -/
theorem pack_unpack (x : Float) : Float.ofModel (Float.Model.pack x.toModel.unpack) = x := by
  obtain ⟨⟨bits, valid⟩⟩ := x
  have packed : UnpackedFloat.pack .binary64 (UnpackedFloat.unpack .binary64 bits.toBitVec) = bits.toBitVec :=
    pack_unpack_of_valid valid
  simp only [Float.Model.pack, Float.Model.unpack, packed]

/-- The parts of a finite float: a zero, or a canonical magnitude that is not too large. -/
theorem unpack_eq {x : Float} (finite : x.isFinite = true) :
    (Binary.ofBits x.toBits).significand = 0 ∧ x.toModel.unpack = .zero (signOf x) ∨
      ∃ canonical : (Binary.ofBits x.toBits).Canonical, (Binary.ofBits x.toBits).exponent ≤ 971 ∧
        x.toModel.unpack = .finite (signOf x) (Binary.ofBits x.toBits).significand
          (Binary.ofBits x.toBits).exponent canonical.positive := by
  have biased := toNat_unpackExponent x.toBits
  have fraction := toNat_unpackMantissa x.toBits
  have short := (@unpackMantissa Format.binary64 x.toBits.toBitVec).isLt
  have finite : (UnpackedFloat.unpack Format.binary64 x.toBits.toBitVec).isFinite = true := finite
  change _ ∧ UnpackedFloat.unpack Format.binary64 x.toBits.toBitVec = _ ∨
    ∃ _, _ ∧ UnpackedFloat.unpack Format.binary64 x.toBits.toBitVec = _
  unfold UnpackedFloat.unpack at finite ⊢
  dsimp only at finite ⊢
  rw [ofBitVec_unpackSign] at finite ⊢
  split at finite
  · split at finite <;> cases finite
  · next notFull =>
    rw [if_neg notFull]
    split
    · next subnormal =>
      have least : ((x.toBits >>> 52) &&& 0x7FF).toNat = 0 := biased ▸ congrArg BitVec.toNat subnormal
      have magnitude : Binary.ofBits x.toBits =
          ⟨(@unpackMantissa Format.binary64 x.toBits.toBitVec).toNat, -1074, false⟩ := by
        simp only [Binary.ofBits, least, fraction, if_true]
      rw [magnitude]
      split
      · next zero => exact .inl ⟨congrArg BitVec.toNat zero, rfl⟩
      · next some =>
        have positive : 0 < (@unpackMantissa Format.binary64 x.toBits.toBitVec).toNat :=
          Nat.pos_of_ne_zero fun none => some (BitVec.eq_of_toNat_eq none)
        refine .inr ⟨⟨positive, short.trans (by decide), le_rfl, .inl rfl, by simp⟩, by norm_num, ?_⟩
        exact (UnpackedFloat.finite.injEq ..).mpr ⟨rfl, rfl, by rw [subnormal]; rfl⟩
    · next normal =>
      have atMost : ((x.toBits >>> 52) &&& 0x7FF).toNat < 2047 := by
        have bounded := (@unpackExponent Format.binary64 x.toBits.toBitVec).isLt
        have different : (@unpackExponent Format.binary64 x.toBits.toBitVec).toNat ≠ 2047 :=
          fun full => notFull (BitVec.eq_of_toNat_eq full)
        change _ < 2048 at bounded
        omega
      have atLeast : ((x.toBits >>> 52) &&& 0x7FF).toNat ≠ 0 :=
        fun none => normal (BitVec.eq_of_toNat_eq (biased.trans none))
      have magnitude : Binary.ofBits x.toBits =
          ⟨2 ^ 52 + (@unpackMantissa Format.binary64 x.toBits.toBitVec).toNat,
            ((x.toBits >>> 52) &&& 0x7FF).toNat - 1075,
            (@unpackMantissa Format.binary64 x.toBits.toBitVec).toNat = 0 &&
              decide (1 < ((x.toBits >>> 52) &&& 0x7FF).toNat)⟩ := by
        simp only [Binary.ofBits, atLeast, fraction, if_false]
        rfl
      have lead : (1#1 ++ @unpackMantissa Format.binary64 x.toBits.toBitVec).toNat =
          2 ^ 52 + (@unpackMantissa Format.binary64 x.toBits.toBitVec).toNat := by
        rw [BitVec.toNat_append, ← Nat.shiftLeft_add_eq_or_of_lt short, Nat.shiftLeft_eq]
        rfl
      change _ < 2 ^ 52 at short
      rw [magnitude]
      refine .inr ⟨⟨by dsimp only; omega, by dsimp only; omega, by dsimp only; omega, .inr (by dsimp only; omega), ?_⟩,
        by dsimp only; omega, ?_⟩
      · simp only [Bool.and_eq_true, decide_eq_true_eq]
        omega
      · refine (UnpackedFloat.finite.injEq ..).mpr ⟨rfl, lead, ?_⟩
        rw [biased]
        rfl

/-- The rational that a decimal writes. -/
def Digits.value (d : Digits) : ℚ := d.digits * 10 ^ d.exponent

/-- A negative exponent moves to the other side of a comparison. -/
theorem zpow_mul_toNat {base : ℚ} (some : base ≠ 0) (i : ℤ) : base ^ i * base ^ (-i).toNat = base ^ i.toNat := by
  rw [← zpow_natCast, ← zpow_natCast, ← zpow_add₀ some]
  congr 1
  omega

theorem compareScaled_eq (a : ℕ) (i : ℤ) (n : ℕ) (j : ℤ) :
    Binary.compareScaled a i n j = compare ((a : ℚ) * 10 ^ i) (n * 2 ^ j) := by
  -- Both numbers are compared as whole ones, times what their negative exponents divide by.
  have scale : (0 : ℚ) < 2 ^ (-j).toNat * 10 ^ (-i).toNat := by positivity
  have left : ((a * Nat.pow 10 i.toNat * Nat.pow 2 (-j).toNat : ℕ) : ℚ) =
      a * 10 ^ i * (2 ^ (-j).toNat * 10 ^ (-i).toNat) := by
    have tens := zpow_mul_toNat (show (10 : ℚ) ≠ 0 by norm_num) i
    push_cast [Nat.pow_eq]
    rw [← tens]
    ring
  have right : ((n * Nat.pow 2 j.toNat * Nat.pow 10 (-i).toNat : ℕ) : ℚ) =
      n * 2 ^ j * (2 ^ (-j).toNat * 10 ^ (-i).toNat) := by
    have twos := zpow_mul_toNat (show (2 : ℚ) ≠ 0 by norm_num) j
    push_cast [Nat.pow_eq]
    rw [← twos]
    ring
  unfold Binary.compareScaled
  rcases lt_trichotomy ((a : ℚ) * 10 ^ i) (n * 2 ^ j) with less | same | more
  · rw [compare_lt_iff_lt.mpr less, compare_lt_iff_lt, ← Nat.cast_lt (α := ℚ), left, right]
    exact mul_lt_mul_of_pos_right less scale
  · rw [compare_eq_iff_eq.mpr same, compare_eq_iff_eq, ← Nat.cast_inj (R := ℚ), left, right, same]
  · rw [compare_gt_iff_gt.mpr more, compare_gt_iff_gt, ← Nat.cast_lt (α := ℚ), left, right]
    exact mul_lt_mul_of_pos_right more scale

/-- The decimals that read back to a number are those of its interval. -/
theorem reads_iff {x : Binary} (positive : 0 < x.significand) (d : Digits) :
    x.reads d = true ↔ x.Attracts d.value := by
  have unit : (0 : ℚ) < 2 ^ x.exponent := by positivity
  have quarter : (2 : ℚ) ^ (x.exponent - 2) = 2 ^ x.exponent / 4 := by
    rw [zpow_sub₀ (by norm_num)]
    norm_num
  have least : ((if x.narrowBelow then 4 * x.significand - 1 else 4 * x.significand - 2 : ℕ) : ℚ) =
      4 * (x.significand - if x.narrowBelow then 1 / 4 else 1 / 2) := by
    split
    · rw [Nat.cast_sub (by omega)]
      push_cast
      ring
    · rw [Nat.cast_sub (by omega)]
      push_cast
      ring
  have most : ((4 * x.significand + 2 : ℕ) : ℚ) = 4 * (x.significand + 1 / 2) := by
    push_cast
    ring
  have scaled (bound : ℚ) : 4 * bound * (2 ^ x.exponent / 4) = bound * 2 ^ x.exponent := by ring
  unfold Binary.reads Binary.Attracts
  simp only [compareScaled_eq, Bool.and_eq_true, Bool.or_eq_true, decide_eq_true_eq, compare_lt_iff_lt,
    compare_gt_iff_gt, compare_eq_iff_eq, quarter]
  rw [← Digits.value, least, most, scaled, scaled, lt_div_iff₀ unit, div_lt_iff₀ unit, eq_div_iff unit.ne',
    div_eq_iff unit.ne']
  generalize (x.significand - if x.narrowBelow then 1 / 4 else 1 / 2 : ℚ) * 2 ^ x.exponent = middle
  rw [@eq_comm ℚ middle]

end Stablecoin.Decimal
