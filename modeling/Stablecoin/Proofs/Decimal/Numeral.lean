import Stablecoin.Decimal.Numeral
import Stablecoin.Proofs.Decimal.Shortest

/-!
Reading a numeral rounds correctly: a numeral in the interval of a finite float is read
as that float (`Numeral.toFloat_eq`). The product or quotient that a numeral is computed
from is located exactly, and so are the small numbers and the powers of ten that stand
in for it where both are floats themselves.
-/
namespace Stablecoin.Decimal
open Float.Model (Format UnpackedFloat totalExponent)
open Float.Model.UnpackedFloat

theorem locates_exact (mantissa : ℕ) : Locates (.ofMantissaAndAccuracy mantissa .exact) mantissa := by
  simp [Locates, ExtendedMantissa.ofMantissaAndAccuracy]

/-- A quotient with what is said about its rest. -/
theorem locates_fraction (a : ℕ) {b : ℕ} (positive : 0 < b) :
    Locates (.ofMantissaAndAccuracy (a / b) (accuracyOfFraction (a % b) b)) ((a : ℚ) / b) := by
  have unit : (0 : ℚ) < b := by exact_mod_cast positive
  have parts : (a : ℚ) / b = (a / b : ℕ) + (a % b : ℕ) / b := by
    have whole : (b : ℚ) * (a / b : ℕ) + (a % b : ℕ) = a := by exact_mod_cast Nat.div_add_mod a b
    field_simp
    linarith
  have rest : ((a % b : ℕ) : ℚ) < b := by exact_mod_cast Nat.mod_lt a positive
  rw [parts]
  unfold accuracyOfFraction
  split
  · next none => simp [none, Locates, ExtendedMantissa.ofMantissaAndAccuracy]
  · next some =>
    have more : (0 : ℚ) < (a % b : ℕ) / b := div_pos (by exact_mod_cast Nat.pos_of_ne_zero some) unit
    have less : ((a % b : ℕ) : ℚ) / b < 1 := (div_lt_one unit).mpr rest
    have twice : 2 * (((a % b : ℕ) : ℚ) / b) = (2 * (a % b) : ℕ) / b := by
      push_cast
      ring
    rcases lt_trichotomy (2 * (a % b)) b with below | middle | above
    · have : ((2 * (a % b) : ℕ) : ℚ) / b < 1 := (div_lt_one unit).mpr (by exact_mod_cast below)
      rw [compare_lt_iff_lt.mpr below]
      simp only [Locates, ExtendedMantissa.ofMantissaAndAccuracy, Bool.false_eq_true, if_true, if_false]
      constructor <;> linarith
    · have : ((2 * (a % b) : ℕ) : ℚ) / b = 1 := by rw [middle, div_self unit.ne']
      rw [compare_eq_iff_eq.mpr middle]
      simp only [Locates, ExtendedMantissa.ofMantissaAndAccuracy, Bool.false_eq_true, if_true, if_false]
      linarith
    · have : 1 < ((2 * (a % b) : ℕ) : ℚ) / b := (one_lt_div unit).mpr (by exact_mod_cast above)
      rw [compare_gt_iff_gt.mpr above]
      simp only [Locates, ExtendedMantissa.ofMantissaAndAccuracy, if_true]
      constructor <;> linarith

/-- The quotient of two mantissas is located, with enough bits. -/
theorem divCore_locates {m₁ m₂ : ℕ} (e₁ e₂ : ℤ) (first : 0 < m₁) (second : 0 < m₂) :
    ∃ mantissa exponent accuracy, divCore Format.binary64 m₁ e₁ m₂ e₂ = (mantissa, exponent, accuracy) ∧
      Locates (.ofMantissaAndAccuracy mantissa accuracy) (m₁ * 2 ^ e₁ / (m₂ * 2 ^ e₂) / 2 ^ exponent) ∧
      (52 ≤ mantissa.log2 ∨ exponent ≤ -1074) := by
  let exponent := min (e₁ - e₂) (Format.binary64.targetExponent (totalExponent m₁ e₁ - totalExponent m₂ e₂))
  have target : exponent = min (e₁ - e₂) (max ((m₁.log2 : ℤ) + e₁ - (m₂.log2 + e₂) - 53) (-1074)) := by
    simp only [exponent, Format.targetExponent, totalExponent, Format.mantissaBits, Format.minExponent]
    omega
  obtain ⟨places, shift⟩ := Int.eq_ofNat_of_zero_le (show 0 ≤ e₁ - e₂ - exponent by omega)
  have count : (e₁ - e₂ - exponent).toNat = places := by omega
  refine ⟨(m₁ <<< places) / m₂, exponent, accuracyOfFraction ((m₁ <<< places) % m₂) m₂, ?_, ?_, ?_⟩
  · rw [← count]
    rfl
  · have quotient : (m₁ * 2 ^ e₁ / (m₂ * 2 ^ e₂) / 2 ^ exponent : ℚ) = (m₁ <<< places : ℕ) / m₂ := by
      have power : (2 : ℚ) ^ e₁ = 2 ^ places * 2 ^ e₂ * 2 ^ exponent := by
        rw [← zpow_natCast, ← zpow_add₀ (by norm_num), ← zpow_add₀ (by norm_num)]
        congr 1
        omega
      rw [Nat.shiftLeft_eq, power]
      push_cast
      field_simp
    rw [quotient]
    exact locates_fraction _ second
  · by_cases least : exponent ≤ -1074
    · exact .inr least
    · -- Where exponents are not scarce, the dividend is moved up until the quotient is long enough.
      have enough : 53 + m₂.log2 ≤ m₁.log2 + places := by omega
      have leading : 2 ^ 52 * m₂ ≤ m₁ <<< places := by
        calc
          2 ^ 52 * m₂ ≤ 2 ^ 52 * 2 ^ (m₂.log2 + 1) := Nat.mul_le_mul_left _ Nat.lt_log2_self.le
          _ = 2 ^ (53 + m₂.log2) := by ring
          _ ≤ 2 ^ (m₁.log2 + places) := Nat.pow_le_pow_right (by decide) enough
          _ = 2 ^ m₁.log2 * 2 ^ places := Nat.pow_add ..
          _ ≤ m₁ * 2 ^ places := Nat.mul_le_mul_right _ (Nat.log2_self_le first.ne')
          _ = m₁ <<< places := (Nat.shiftLeft_eq ..).symm
      have full : 2 ^ 52 ≤ (m₁ <<< places) / m₂ := (Nat.le_div_iff_mul_le second).mpr leading
      exact .inl ((Nat.le_log2 (by omega)).mpr full)

theorem div_eq {x : Binary} (canonical : x.Canonical) {m₁ m₂ : ℕ} {e₁ e₂ : ℤ} (first : 0 < m₁) (second : 0 < m₂)
    (attracts : x.Attracts (m₁ * 2 ^ e₁ / (m₂ * 2 ^ e₂))) :
    UnpackedFloat.div Format.binary64 (.finite .positive m₁ e₁ first) (.finite .positive m₂ e₂ second) =
      .finite .positive x.significand x.exponent canonical.positive := by
  obtain ⟨mantissa, exponent, accuracy, quotient, located, long⟩ := divCore_locates e₁ e₂ first second
  unfold UnpackedFloat.div
  dsimp only
  rw [quotient]
  exact roundWithAccuracy_eq canonical attracts _ located long

theorem mul_eq {x : Binary} (canonical : x.Canonical) {m₁ m₂ : ℕ} {e₁ e₂ : ℤ} (first : 0 < m₁) (second : 0 < m₂)
    (attracts : x.Attracts (m₁ * 2 ^ e₁ * (m₂ * 2 ^ e₂))) (long : 52 ≤ (m₁ * m₂).log2) :
    UnpackedFloat.mul Format.binary64 (.finite .positive m₁ e₁ first) (.finite .positive m₂ e₂ second) =
      .finite .positive x.significand x.exponent canonical.positive := by
  refine roundWithAccuracy_eq canonical attracts _ ?_ (.inl long)
  have product : (m₁ * 2 ^ e₁ * (m₂ * 2 ^ e₂) : ℚ) / 2 ^ (e₁ + e₂) = (m₁ * m₂ : ℕ) := by
    rw [zpow_add₀ (by norm_num)]
    push_cast
    field_simp
  rw [product]
  exact locates_exact _

/-- The leading bit of a mantissa of 53 bits is the one that packing leaves out. -/
theorem toNat_leading_append {mantissa : ℕ} (log : mantissa.log2 = 52) :
    (1#1 ++ BitVec.ofNat 52 mantissa).toNat = mantissa := by
  have some : mantissa ≠ 0 := by
    rintro rfl
    simp at log
  obtain ⟨lower, upper⟩ := (Nat.log2_eq_iff some).mp log
  rw [BitVec.toNat_append, ← Nat.shiftLeft_add_eq_or_of_lt (BitVec.isLt _), BitVec.toNat_ofNat, Nat.shiftLeft_eq]
  change 1 * 2 ^ 52 + mantissa % 2 ^ 52 = mantissa
  omega

/-- A number of 53 bits is read back as it was packed. -/
theorem unpack_pack_full {mantissa : ℕ} {exponent : ℤ} (positive : 0 < mantissa) (log : mantissa.log2 = 52)
    (low : -1074 ≤ exponent) (high : exponent ≤ 971) :
    (Float.Model.pack (.finite .positive mantissa exponent positive)).unpack =
      .finite .positive mantissa exponent positive := by
  obtain ⟨biased, shift⟩ := Int.eq_ofNat_of_zero_le (show 0 ≤ exponent + 1075 by omega)
  have small : biased < 2047 := by omega
  have read : (BitVec.ofNat 11 biased).toNat = biased := by
    rw [BitVec.toNat_ofNat, Nat.mod_eq_of_lt (by omega)]
  have notFull : BitVec.ofNat 11 biased ≠ -1#11 := by
    intro full
    have value := read.symm.trans (congrArg BitVec.toNat full)
    change biased = 2047 at value
    omega
  have notNone : BitVec.ofNat 11 biased ≠ 0#11 := by
    intro none
    have value := read.symm.trans (congrArg BitVec.toNat none)
    change biased = 0 at value
    omega
  have count : (exponent + (Format.binary64.exponentBias : ℕ) + (52 : ℕ)).toNat = biased := by
    change (exponent + (1023 : ℕ) + (52 : ℕ)).toNat = biased
    omega
  have packed : UnpackedFloat.pack Format.binary64 (.finite .positive mantissa exponent positive) =
      packComponents Format.binary64 .positive (BitVec.ofNat 11 biased) (BitVec.ofNat 52 mantissa) := by
    unfold UnpackedFloat.pack
    dsimp only
    rw [count, if_neg (by omega), if_pos (by rw [log]; rfl)]
  change UnpackedFloat.unpack Format.binary64 (UnpackedFloat.pack Format.binary64 _) = _
  rw [packed]
  unfold UnpackedFloat.unpack
  simp only [unpackMantissa_packComponents, unpackExponent_packComponents, unpackSign_packComponents]
  rw [if_neg notFull, if_neg notNone]
  refine (UnpackedFloat.finite.injEq ..).mpr ⟨rfl, toNat_leading_append log, ?_⟩
  rw [read]
  change (biased : ℤ) - ((1023 : ℕ) + (52 : ℕ)) = exponent
  omega

/-- A subnormal number is read back as it was packed. -/
theorem unpack_pack_subnormal {mantissa : ℕ} (positive : 0 < mantissa) (short : mantissa < 2 ^ 52) :
    (Float.Model.pack (.finite .positive mantissa (-1074) positive)).unpack =
      .finite .positive mantissa (-1074) positive := by
  have log : mantissa.log2 < 52 := (Nat.log2_lt positive.ne').mpr short
  have read : (BitVec.ofNat 52 mantissa).toNat = mantissa := by
    rw [BitVec.toNat_ofNat, Nat.mod_eq_of_lt short]
  have some : BitVec.ofNat 52 mantissa ≠ 0#52 := by
    intro none
    exact positive.ne' (read.symm.trans (congrArg BitVec.toNat none))
  have packed : UnpackedFloat.pack Format.binary64 (.finite .positive mantissa (-1074) positive) =
      packComponents Format.binary64 .positive 0#11 (BitVec.ofNat 52 mantissa) := by
    unfold UnpackedFloat.pack
    dsimp only
    rw [if_neg (by decide), if_neg (by change mantissa.log2 + 1 ≠ 53; omega)]
  change UnpackedFloat.unpack Format.binary64 (UnpackedFloat.pack Format.binary64 _) = _
  rw [packed]
  unfold UnpackedFloat.unpack
  simp only [unpackMantissa_packComponents, unpackExponent_packComponents, unpackSign_packComponents]
  rw [if_neg (by decide), if_pos trivial, dif_neg some]
  exact (UnpackedFloat.finite.injEq ..).mpr ⟨rfl, read, rfl⟩

/-- A float is read back as it was packed. -/
theorem Binary.Canonical.unpack_pack {x : Binary} (canonical : x.Canonical) (small : x.exponent ≤ 971) :
    (Float.Model.pack (.finite .positive x.significand x.exponent canonical.positive)).unpack =
      .finite .positive x.significand x.exponent canonical.positive := by
  rcases Nat.lt_or_ge x.significand (2 ^ 52) with short | full
  · have least := canonical.full.resolve_right (by omega)
    obtain ⟨significand, exponent, narrow⟩ := x
    obtain rfl : exponent = -1074 := least
    exact unpack_pack_subnormal canonical.positive short
  · exact unpack_pack_full canonical.positive
      ((Nat.log2_eq_iff canonical.positive.ne').mpr ⟨full, canonical.short⟩) canonical.least small

theorem neg_pack {f : UnpackedFloat} (read : (Float.Model.pack f).unpack = f) :
    -Float.ofModel (Float.Model.pack f) = .ofModel (Float.Model.pack f.neg) := by
  change Float.ofModel (Float.Model.pack (Float.Model.pack f).unpack.neg) = _
  rw [read]

theorem canonical_of_log2 {mantissa : ℕ} {exponent : ℤ} (log : mantissa.log2 = 52) (least : -1074 < exponent) :
    (⟨mantissa, exponent, mantissa = 2 ^ 52⟩ : Binary).Canonical := by
  have some : mantissa ≠ 0 := by
    rintro rfl
    simp at log
  obtain ⟨lower, upper⟩ := (Nat.log2_eq_iff some).mp log
  exact ⟨Nat.pos_of_ne_zero some, upper, least.le, .inr lower, by simpa using fun _ => least⟩

/-- A number of at most 53 bits is a float. -/
theorem unpack_toFloat {n : ℕ} (some : n ≠ 0) (small : n < 2 ^ 53) :
    ∃ mantissa exponent positive, n.toUInt64.toFloat.toModel.unpack = .finite .positive mantissa exponent positive ∧
      mantissa.log2 = 52 ∧ (mantissa * 2 ^ exponent : ℚ) = n := by
  obtain ⟨lower, upper⟩ := (Nat.log2_eq_iff some).mp rfl
  have log : n.log2 ≤ 52 := Nat.le_of_lt_succ ((Nat.log2_lt some).mpr small)
  obtain ⟨places, count⟩ := Nat.exists_eq_add_of_le log
  have positive : 0 < n <<< places := by
    rw [Nat.shiftLeft_eq]
    positivity
  have full : (n <<< places).log2 = 52 := by
    rw [Nat.log2_eq_iff positive.ne', Nat.shiftLeft_eq, count, Nat.pow_succ, Nat.pow_add, Nat.mul_right_comm]
    rw [Nat.pow_succ] at upper
    exact ⟨Nat.mul_le_mul_right _ lower, Nat.mul_lt_mul_of_pos_right upper (by positivity)⟩
  have value : ((n <<< places : ℕ) * 2 ^ (-(places : ℤ)) : ℚ) = n := by
    rw [Nat.shiftLeft_eq]
    push_cast
    simp
  have canonical := canonical_of_log2 full (show -1074 < -(places : ℤ) by omega)
  have rounds : UnpackedFloat.ofUInt64 Format.binary64 n.toUInt64 =
      .finite .positive (n <<< places) (-places) positive := by
    have target : Format.binary64.targetExponent (totalExponent n 0) = -places := by
      simp only [Format.targetExponent, totalExponent, Format.mantissaBits, Format.minExponent]
      omega
    have whole : n.toUInt64.toNat = n := by simpa using small.trans (by decide)
    have above : compare (n : ℤ) 0 = .gt := compare_gt_iff_gt.mpr (by omega)
    have moved : (- -(places : ℤ)).toNat = places := by omega
    simp only [UnpackedFloat.ofUInt64, UnpackedFloat.ofNat, UnpackedFloat.ofInt, UnpackedFloat.normalize, whole, above,
      UnpackedFloat.round, Int.toNat_natCast, target, decreaseExponent, zero_sub, moved]
    refine roundWithAccuracy_eq canonical (Binary.attracts_self _) .positive ?_ (.inl full.ge)
    dsimp only
    rw [mul_div_cancel_right₀ _ (zpow_ne_zero _ two_ne_zero)]
    exact locates_exact _
  refine ⟨n <<< places, -places, positive, ?_, full, value⟩
  change (Float.Model.pack (UnpackedFloat.ofUInt64 Format.binary64 n.toUInt64)).unpack = _
  rw [rounds, unpack_pack_full positive full (by omega) (by omega)]

theorem powersOfTen_exact : ∀ k : Fin Float.exactlyRepresentablePowersOfTen.size,
    let x := Float.exactlyRepresentablePowersOfTen[k]
    let b := Binary.ofBits x.toBits
    x.isFinite = true ∧ isNegative x = false ∧ b.significand.log2 = 52 ∧
      b.significand * 2 ^ b.exponent.toNat = 10 ^ k.val * 2 ^ (-b.exponent).toNat := by
  decide

/-- The powers of ten up to the twenty-second are floats. -/
theorem unpack_powerOfTen {k : ℕ} (few : k < Float.exactlyRepresentablePowersOfTen.size) :
    ∃ mantissa exponent positive,
      Float.exactlyRepresentablePowersOfTen[k].toModel.unpack = .finite .positive mantissa exponent positive ∧
      mantissa.log2 = 52 ∧ (mantissa * 2 ^ exponent : ℚ) = 10 ^ k := by
  obtain ⟨finite, sign, log, value⟩ := powersOfTen_exact ⟨k, few⟩
  rcases unpack_eq finite with ⟨zero, -⟩ | ⟨canonical, -, parts⟩
  · have empty := log.symm.trans (congrArg Nat.log2 zero)
    simp at empty
  · rw [signOf, sign] at parts
    refine ⟨_, _, canonical.positive, parts, log, ?_⟩
    have scaled := zpow_mul_toNat (two_ne_zero : (2 : ℚ) ≠ 0)
      (Binary.ofBits Float.exactlyRepresentablePowersOfTen[k].toBits).exponent
    refine mul_right_cancel₀ (pow_ne_zero _ two_ne_zero) ((mul_assoc _ _ _).trans ((congrArg _ scaled).trans ?_))
    exact_mod_cast value

/-! ### Numerals -/

/-- What rounds to a float is not below half of the least one. -/
theorem Binary.Attracts.ge {x : Binary} (canonical : x.Canonical) {value : ℚ} (attracts : x.Attracts value) :
    2 ^ (-1075 : ℤ) ≤ value := by
  have unit : (0 : ℚ) < 2 ^ x.exponent := by positivity
  have positive : (1 : ℚ) ≤ x.significand := by exact_mod_cast canonical.positive
  have half : 1 / 2 ≤ value / 2 ^ x.exponent := by
    have least : (1 / 2 : ℚ) ≤ x.significand - if x.narrowBelow then 1 / 4 else 1 / 2 := by split <;> linarith
    rcases attracts.1 with below | ⟨-, below⟩ <;> linarith
  calc (2 : ℚ) ^ (-1075 : ℤ) = 1 / 2 * 2 ^ (-1074 : ℤ) := by
        rw [show (-1075 : ℤ) = -1 + -1074 by norm_num, zpow_add₀ (by norm_num), zpow_neg_one, one_div]
    _ ≤ 1 / 2 * 2 ^ x.exponent := by
      have := zpow_le_zpow_right₀ (show (1 : ℚ) ≤ 2 by norm_num) canonical.least
      linarith
    _ ≤ value := (le_div_iff₀ unit).mp half

theorem Binary.Attracts.lt_max {x : Binary} (canonical : x.Canonical) (small : x.exponent ≤ 971) {value : ℚ}
    (attracts : x.Attracts value) : value < 2 ^ (1024 : ℤ) :=
  (attracts.lt canonical).trans_le (zpow_le_zpow_right₀ (by norm_num) (by omega))

/-- A power of ten is beyond the power of eight. -/
theorem two_zpow_le_ten_zpow {e : ℤ} (whole : 0 ≤ e) : (2 : ℚ) ^ (3 * e) ≤ 10 ^ e := by
  rw [zpow_mul]
  exact zpow_le_zpow_left₀ whole (by norm_num) (by norm_num)

theorem ten_zpow_le_two_zpow {e : ℤ} (fraction : e ≤ 0) : (10 : ℚ) ^ e ≤ 2 ^ (3 * e) := by
  obtain ⟨k, rfl⟩ : ∃ k : ℤ, e = -k := ⟨-e, by omega⟩
  rw [mul_neg, zpow_neg, zpow_neg]
  exact inv_anti₀ (by positivity) (two_zpow_le_ten_zpow (by omega))

/-- What a numeral in the interval of a float is computed to without a shortcut. -/
theorem ofScientific_eq {x : Binary} (canonical : x.Canonical) (small : x.exponent ≤ 971) {m : ℕ} {e : ℤ}
    (attracts : x.Attracts (m * 10 ^ e)) :
    UnpackedFloat.ofScientific Format.binary64 m e = .finite .positive x.significand x.exponent canonical.positive := by
  have least := attracts.ge canonical
  have most := attracts.lt_max canonical small
  have some : m ≠ 0 := by
    rintro rfl
    rw [Nat.cast_zero, zero_mul] at least
    exact absurd least (not_le.mpr (by positivity))
  have one : (1 : ℚ) ≤ m := by exact_mod_cast Nat.pos_of_ne_zero some
  have power : (0 : ℚ) < 10 ^ e := by positivity
  have notAbove : ¬ e > 2 ^ Format.binary64.exponentBits := by
    intro above
    change (2048 : ℤ) < e at above
    refine absurd most (not_lt.mpr ?_)
    calc (2 : ℚ) ^ (1024 : ℤ) ≤ 2 ^ (3 * e) := zpow_le_zpow_right₀ (by norm_num) (by omega)
      _ ≤ 10 ^ e := two_zpow_le_ten_zpow (by omega)
      _ ≤ m * 10 ^ e := le_mul_of_one_le_left power.le one
  have notBelow : ¬ e < -(2 ^ Format.binary64.exponentBits + (m.log2 : ℤ)) := by
    intro below
    change e < -(2048 + (m.log2 : ℤ)) at below
    refine absurd least (not_le.mpr ?_)
    have log : (m : ℚ) < 2 ^ (m.log2 + 1) := by exact_mod_cast Nat.lt_log2_self
    calc (m : ℚ) * 10 ^ e < 2 ^ (m.log2 + 1) * 10 ^ e := mul_lt_mul_of_pos_right log power
      _ ≤ 2 ^ (m.log2 + 1) * 2 ^ (3 * e) := mul_le_mul_of_nonneg_left (ten_zpow_le_two_zpow (by omega)) (by positivity)
      _ = 2 ^ ((m.log2 : ℤ) + 1 + 3 * e) := by
        rw [zpow_add₀ (by norm_num)]
        norm_cast
      _ ≤ 2 ^ (-1075 : ℤ) := zpow_le_zpow_right₀ (by norm_num) (by omega)
  unfold UnpackedFloat.ofScientific
  rw [dif_neg some, if_neg notAbove, if_neg notBelow]
  split
  · next whole =>
    obtain ⟨k, rfl⟩ := Int.eq_ofNat_of_zero_le whole
    -- The digits are moved up before the product is taken, so that rounding only drops bits.
    have shifted : m <<< 53 = m * 2 ^ 53 := Nat.shiftLeft_eq m 53
    have long : 2 ^ 53 ≤ (m <<< 53) * 10 ^ k := by
      rw [shifted]
      calc 2 ^ 53 ≤ m * 2 ^ 53 := Nat.le_mul_of_pos_left _ (Nat.pos_of_ne_zero some)
        _ ≤ m * 2 ^ 53 * 10 ^ k := Nat.le_mul_of_pos_right _ (Nat.pow_pos (by decide))
    have value : ((m <<< 53 : ℕ) * 2 ^ (-53 : ℤ) * ((10 ^ k : ℕ) * 2 ^ (0 : ℤ)) : ℚ) = m * 10 ^ (k : ℤ) := by
      rw [shifted]
      push_cast
      norm_num
      ring
    have log : 52 ≤ ((m <<< 53) * 10 ^ k).log2 :=
      (Nat.le_succ 52).trans ((Nat.le_log2 (Nat.ne_of_gt (lt_of_lt_of_le (Nat.two_pow_pos 53) long))).mpr long)
    have attracted : x.Attracts ((m <<< 53 : ℕ) * 2 ^ (-53 : ℤ) * ((10 ^ k : ℕ) * 2 ^ (0 : ℤ))) := by
      rw [value]
      exact attracts
    exact mul_eq canonical _ _ attracted log
  · next fraction =>
    obtain ⟨k, rfl⟩ : ∃ k : ℕ, e = -k := ⟨(-e).toNat, by omega⟩
    refine div_eq canonical _ _ ?_
    simpa [zpow_neg, div_eq_mul_inv] using attracts

/-- A numeral in the interval of a float is computed to that float. -/
theorem floatOfScientific_eq {x : Binary} (canonical : x.Canonical) (small : x.exponent ≤ 971) {m : ℕ} {e : ℤ}
    (some : m ≠ 0) (attracts : x.Attracts (m * 10 ^ e)) :
    Float.ofScientific m (decide (e < 0)) e.natAbs =
      .ofModel (Float.Model.pack (.finite .positive x.significand x.exponent canonical.positive)) := by
  have exact : (if decide (e < 0) = true then Int.negOfNat e.natAbs else Int.ofNat e.natAbs) = e := by
    split
    · next negative =>
      have := of_decide_eq_true negative
      rw [Int.negOfNat_eq, Int.ofNat_eq_natCast]
      omega
    · next whole =>
      have := of_decide_eq_false (Bool.eq_false_iff.mpr whole)
      rw [Int.ofNat_eq_natCast]
      omega
  unfold Float.ofScientific
  split
  · next few =>
    -- Both the digits and the power of ten are floats, and one operation is left.
    obtain ⟨mantissa, exponent, positive, number, log, value⟩ := unpack_toFloat some few.1
    have within : e.natAbs < Float.exactlyRepresentablePowersOfTen.size := Nat.lt_succ_of_le few.2
    obtain ⟨tens, power, tensPositive, table, tensLog, tensValue⟩ := unpack_powerOfTen within
    dsimp only
    split
    · next negative =>
      have quotient : (m / 10 ^ e.natAbs : ℚ) = m * 10 ^ e := by
        obtain ⟨k, rfl⟩ : ∃ k : ℕ, e = -k := ⟨e.natAbs, by have := of_decide_eq_true negative; omega⟩
        simp [zpow_neg, div_eq_mul_inv]
      change Float.ofModel (Float.Model.pack (UnpackedFloat.div Format.binary64 m.toUInt64.toFloat.toModel.unpack
        Float.exactlyRepresentablePowersOfTen[e.natAbs].toModel.unpack)) = _
      rw [number, table, div_eq canonical positive tensPositive]
      rwa [value, tensValue, quotient]
    · next whole =>
      have product : (m * 10 ^ e.natAbs : ℚ) = m * 10 ^ e := by
        obtain ⟨k, rfl⟩ : ∃ k : ℕ, e = k :=
          ⟨e.natAbs, by have := of_decide_eq_false (Bool.eq_false_iff.mpr whole); omega⟩
        simp
      have long : 52 ≤ (mantissa * tens).log2 := by
        have leading := (Nat.le_log2 positive.ne').mp log.ge
        exact (Nat.le_log2 (Nat.mul_ne_zero positive.ne' tensPositive.ne')).mpr
          (leading.trans (Nat.le_mul_of_pos_right _ tensPositive))
      change Float.ofModel (Float.Model.pack (UnpackedFloat.mul Format.binary64 m.toUInt64.toFloat.toModel.unpack
        Float.exactlyRepresentablePowersOfTen[e.natAbs].toModel.unpack)) = _
      rw [number, table, mul_eq canonical positive tensPositive _ long]
      rwa [value, tensValue, product]
  · dsimp only
    rw [exact, Float.Model.ofScientific, ofScientific_eq canonical small attracts]

/-- The decimal length of a number. -/
theorem lt_pow_length (n : ℕ) : n < 10 ^ (toString n).length :=
  (Nat.length_repr_le_iff Nat.length_repr_pos).mp le_rfl

theorem pow_length_le {n : ℕ} (some : n ≠ 0) : 10 ^ ((toString n).length - 1) ≤ n := by
  have long : 0 < (toString n).length := Nat.length_repr_pos
  rcases Nat.eq_zero_or_pos ((toString n).length - 1) with single | more
  · rw [single]
    exact Nat.pos_of_ne_zero some
  · by_contra less
    have shorter : (toString n).length ≤ (toString n).length - 1 :=
      (Nat.length_repr_le_iff more).mpr (not_le.mp less)
    omega

/-- The leading digit of a numeral that is neither too small nor too large for a float. -/
theorem leading_bounds {digits : ℕ} {exponent : ℤ} (some : digits ≠ 0)
    (least : (2 : ℚ) ^ (-1075 : ℤ) ≤ digits * 10 ^ exponent) (most : (digits : ℚ) * 10 ^ exponent < 2 ^ (1024 : ℤ)) :
    -400 ≤ exponent + (toString digits).length ∧ exponent + (toString digits).length ≤ 400 := by
  have long : 0 < (toString digits).length := Nat.length_repr_pos
  have lower := pow_length_le some
  have upper := lt_pow_length digits
  generalize (toString digits).length = size at *
  have power : (0 : ℚ) < 10 ^ exponent := by positivity
  constructor
  · by_contra below
    refine absurd least (not_le.mpr ?_)
    have size : (digits : ℚ) < 10 ^ (size : ℤ) := by exact_mod_cast upper
    calc (digits : ℚ) * 10 ^ exponent < 10 ^ (_ : ℤ) * 10 ^ exponent := mul_lt_mul_of_pos_right size power
      _ = 10 ^ (exponent + _) := by rw [← zpow_add₀ (by norm_num), add_comm]
      _ ≤ 2 ^ (3 * (exponent + _)) := ten_zpow_le_two_zpow (by omega)
      _ ≤ 2 ^ (-1075 : ℤ) := zpow_le_zpow_right₀ (by norm_num) (by omega)
  · by_contra above
    refine absurd most (not_lt.mpr ?_)
    have size : (10 : ℚ) ^ ((size : ℤ) - 1) ≤ digits := by
      rw [← Nat.cast_one, ← Nat.cast_sub long, zpow_natCast]
      exact_mod_cast lower
    calc (2 : ℚ) ^ (1024 : ℤ) ≤ 2 ^ (3 * (_ - 1 + exponent)) := zpow_le_zpow_right₀ (by norm_num) (by omega)
      _ ≤ 10 ^ (_ - 1 + exponent) := two_zpow_le_ten_zpow (by omega)
      _ = 10 ^ (_ - 1 : ℤ) * 10 ^ exponent := zpow_add₀ (by norm_num) ..
      _ ≤ digits * 10 ^ exponent := mul_le_mul_of_nonneg_right size power.le

/-- A numeral in the interval of a finite float that is not zero reads as that float. -/
theorem Numeral.toFloat_eq {x : Float} (finite : x.isFinite = true) (some : (Binary.ofBits x.toBits).significand ≠ 0)
    {n : Numeral} (sign : n.negative = isNegative x)
    (attracts : (Binary.ofBits x.toBits).Attracts (n.digits * 10 ^ n.exponent)) : n.toFloat = x := by
  rcases unpack_eq finite with ⟨zero, -⟩ | ⟨canonical, small, parts⟩
  · exact absurd zero some
  have least := attracts.ge canonical
  have digits : n.digits ≠ 0 := by
    intro none
    rw [none, Nat.cast_zero, zero_mul] at least
    exact absurd least (not_le.mpr (by positivity))
  obtain ⟨notBelow, notAbove⟩ := leading_bounds digits least (attracts.lt_max canonical small)
  have magnitude := floatOfScientific_eq canonical small digits attracts
  unfold toFloat
  dsimp only
  rw [if_neg digits, if_neg (not_lt.mpr notBelow), if_neg (not_lt.mpr notAbove), magnitude, sign]
  rw [signOf] at parts
  split
  · next negative =>
    rw [if_pos negative] at parts
    rw [neg_pack (canonical.unpack_pack small)]
    exact (congrArg (fun parts => Float.ofModel (Float.Model.pack parts)) parts.symm).trans (pack_unpack x)
  · next positive =>
    rw [if_neg positive] at parts
    rw [← parts, pack_unpack]

/-- A numeral without a digit that counts reads as the zero of its sign. -/
theorem Numeral.toFloat_zero {x : Float} (finite : x.isFinite = true) (zero : (Binary.ofBits x.toBits).significand = 0)
    {n : Numeral} (sign : n.negative = isNegative x) (none : n.digits = 0) : n.toFloat = x := by
  rcases unpack_eq finite with ⟨-, parts⟩ | ⟨canonical, -⟩
  · rw [← pack_unpack x, parts, toFloat]
    simp only [none, if_true, sign, signOf]
    cases isNegative x <;> rfl
  · exact absurd zero canonical.positive.ne'

end Stablecoin.Decimal
