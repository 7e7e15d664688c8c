import Mathlib
import Stablecoin.Decimal.Binary

/-!
Rounding to a float. A positive float stands for an interval of rationals around it, and
whatever lies in that interval rounds to the float (`roundWithAccuracy_eq`): the mantissa
that rounding starts from says between which halves of a unit the rational lies, and this
knowledge survives the shift to the place of the last bit.
-/
namespace Stablecoin.Decimal
open Float.Model (Format UnpackedFloat totalExponent)
open Float.Model.UnpackedFloat

/-- The rational, in units of the last bit, lies where the mantissa and its bits say: at
    the mantissa or half a unit above it, or behind that by less than half a unit. -/
def Locates (extended : ExtendedMantissa) (units : ℚ) : Prop :=
  let place : ℚ := extended.mantissa + if extended.roundBit then 1 / 2 else 0
  if extended.stickyBit then place < units ∧ units < place + 1 / 2 else units = place

theorem Locates.bounds {extended : ExtendedMantissa} {units : ℚ} (located : Locates extended units) :
    (extended.mantissa : ℚ) ≤ units ∧ units < extended.mantissa + 1 := by
  obtain ⟨mantissa, round, sticky⟩ := extended
  cases round <;> cases sticky <;> simp only [Locates, Bool.false_eq_true, if_true, if_false] at located ⊢ <;>
    constructor <;> linarith

/-- A shift by one place halves the count of units. -/
theorem Locates.shiftRightOne {extended : ExtendedMantissa} {units : ℚ} (located : Locates extended units) :
    Locates extended.shiftRightOne (units / 2) := by
  obtain ⟨mantissa, round, sticky⟩ := extended
  have halves : 2 * ((mantissa / 2 : ℕ) : ℚ) + (mantissa % 2 : ℕ) = mantissa := by
    exact_mod_cast Nat.div_add_mod mantissa 2
  rcases Nat.mod_two_eq_zero_or_one mantissa with even | odd <;> cases round <;> cases sticky <;>
    simp_all [Locates, ExtendedMantissa.shiftRightOne] <;> (try constructor) <;> linarith

theorem Locates.shiftRight {extended : ExtendedMantissa} {units : ℚ} (located : Locates extended units)
    (places : ℕ) : Locates (extended >>> places) (units / 2 ^ places) := by
  induction places with
  | zero => simpa [HShiftRight.hShiftRight, Nat.repeat] using located
  | succ places ih =>
    rw [pow_succ, ← div_div]
    exact ih.shiftRightOne

/-- A mantissa rounds to the number that its units are nearest to, and from the middle
    between two to the even one. -/
theorem Locates.rounded {extended : ExtendedMantissa} {units : ℚ} (located : Locates extended units) {n : ℕ}
    (below : (n : ℚ) - 1 / 2 < units ∨ n % 2 = 0 ∧ (n : ℚ) - 1 / 2 = units)
    (above : units < (n : ℚ) + 1 / 2 ∨ n % 2 = 0 ∧ units = (n : ℚ) + 1 / 2) : extended.roundedMantissa = n := by
  obtain ⟨mantissa, round, sticky⟩ := extended
  have least : (mantissa : ℚ) ≤ units ∧ units < mantissa + 1 := located.bounds
  have atMost : n ≤ mantissa + 1 := by
    have : (n : ℚ) < (mantissa + 2 : ℕ) := by
      push_cast
      rcases below with below | ⟨-, below⟩ <;> linarith
    have : n < mantissa + 2 := by exact_mod_cast this
    omega
  have atLeast : mantissa ≤ n := by
    have : (mantissa : ℚ) < (n + 1 : ℕ) := by
      push_cast
      rcases above with above | ⟨-, above⟩ <;> linarith
    have : mantissa < n + 1 := by exact_mod_cast this
    omega
  -- Rounding down and up; the middle is left to the even one of the two.
  obtain rfl | rfl : n = mantissa ∨ n = mantissa + 1 := by omega
  · cases round <;> cases sticky <;>
      simp only [Locates, Bool.false_eq_true, if_true, if_false, add_zero, ExtendedMantissa.roundedMantissa,
        ExtendedMantissa.accuracy, Accuracy.roundToNearestEven] at located ⊢
    · rcases above with above | ⟨even, -⟩
      · linarith
      · omega
    · rcases above with above | ⟨-, above⟩ <;> linarith
  · push_cast at below
    cases round <;> cases sticky <;>
      simp only [Locates, Bool.false_eq_true, if_true, if_false, add_zero, ExtendedMantissa.roundedMantissa,
        ExtendedMantissa.accuracy, Accuracy.roundToNearestEven] at located ⊢
    · rcases below with below | ⟨-, below⟩ <;> linarith
    · rcases below with below | ⟨-, below⟩ <;> linarith
    · rcases below with below | ⟨odd, -⟩
      · linarith
      · omega

/-- The rational lies among those that round to the number: between the middles to its
    neighbours, and at one of them only if the significand is even. -/
def Binary.Attracts (x : Binary) (value : ℚ) : Prop :=
  let least : ℚ := x.significand - if x.narrowBelow then 1 / 4 else 1 / 2
  let most : ℚ := x.significand + 1 / 2
  let units := value / 2 ^ x.exponent
  (least < units ∨ x.significand % 2 = 0 ∧ least = units) ∧ (units < most ∨ x.significand % 2 = 0 ∧ units = most)

/-- A positive number with at most 53 bits, and with fewer only at the least exponent. -/
structure Binary.Canonical (x : Binary) : Prop where
  positive : 0 < x.significand
  short : x.significand < 2 ^ 53
  least : -1074 ≤ x.exponent
  full : x.exponent = -1074 ∨ 2 ^ 52 ≤ x.significand
  narrow : x.narrowBelow = true ↔ x.significand = 2 ^ 52 ∧ -1074 < x.exponent

/-- Without bits to drop nothing is shifted. -/
theorem shiftToTargetExponent_short {mantissa : ℕ} {exponent : ℤ} (short : mantissa < 2 ^ 53)
    (least : -1074 ≤ exponent) :
    shiftToTargetExponent Format.binary64 mantissa exponent .exact = (⟨mantissa, false, false⟩, exponent) := by
  have log : mantissa.log2 ≤ 52 := by
    rcases Nat.eq_zero_or_pos mantissa with rfl | positive
    · simp
    · exact Nat.le_of_lt_succ ((Nat.log2_lt positive.ne').mpr short)
  have target : (Format.binary64.targetExponent (totalExponent mantissa exponent) - exponent).toNat = 0 := by
    simp only [Format.targetExponent, totalExponent, Format.mantissaBits, Format.minExponent]
    omega
  simp [shiftToTargetExponent, shiftToExponent, target, HShiftRight.hShiftRight, Nat.repeat,
    ExtendedMantissa.ofMantissaAndAccuracy]

/-- A mantissa that rounding has lengthened loses the zero at its end. -/
theorem shiftToTargetExponent_carry {exponent : ℤ} (least : -1074 ≤ exponent) :
    shiftToTargetExponent Format.binary64 (2 ^ 53) exponent .exact = (⟨2 ^ 52, false, false⟩, exponent + 1) := by
  have target : (Format.binary64.targetExponent (totalExponent (2 ^ 53) exponent) - exponent).toNat = 1 := by
    simp only [Format.targetExponent, totalExponent, Format.mantissaBits, Format.minExponent, Nat.log2_two_pow]
    omega
  rw [shiftToTargetExponent, shiftToExponent, target]
  rfl

/-- What rounds to a number of 53 bits is less than the next power of two. -/
theorem Binary.Attracts.lt {x : Binary} (canonical : x.Canonical) {value : ℚ} (attracts : x.Attracts value) :
    value < 2 ^ (53 + x.exponent) := by
  have unit : (0 : ℚ) < 2 ^ x.exponent := by positivity
  have short : (x.significand : ℚ) + 1 ≤ 2 ^ 53 := by exact_mod_cast canonical.short
  have most : value / 2 ^ x.exponent < 2 ^ 53 := by
    rcases attracts.2 with above | ⟨-, above⟩ <;> linarith
  rw [zpow_add₀ (by norm_num)]
  exact (div_lt_iff₀ unit).mp most

/-- What rounds to a number of full length is not much less than its leading bit. -/
theorem Binary.Attracts.gt {x : Binary} (canonical : x.Canonical) {value : ℚ} (attracts : x.Attracts value)
    (normal : -1074 < x.exponent) :
    2 ^ (51 + x.exponent) < value ∧ (x.significand ≠ 2 ^ 52 → 2 ^ (52 + x.exponent) < value) := by
  have unit : (0 : ℚ) < 2 ^ x.exponent := by positivity
  have full : 2 ^ 52 ≤ x.significand := canonical.full.resolve_left (by omega)
  have least : (x.significand : ℚ) - 1 / 2 ≤ value / 2 ^ x.exponent := by
    have quarter : (x.significand : ℚ) - 1 / 2 ≤ x.significand - if x.narrowBelow then 1 / 4 else 1 / 2 := by
      split <;> linarith
    rcases attracts.1 with below | ⟨-, below⟩ <;> linarith
  rw [zpow_add₀ (by norm_num), zpow_add₀ (by norm_num)]
  constructor
  · have leading : ((2 : ℚ) ^ (52 : ℤ)) ≤ x.significand := by exact_mod_cast full
    refine (lt_div_iff₀ unit).mp (lt_of_lt_of_le ?_ least)
    linarith [show (2 : ℚ) ^ (51 : ℤ) + 1 < 2 ^ (52 : ℤ) by norm_num]
  · intro more
    have leading : (2 : ℚ) ^ (52 : ℤ) + 1 ≤ x.significand := by
      exact_mod_cast Nat.lt_of_le_of_ne full (Ne.symm more)
    refine (lt_div_iff₀ unit).mp (lt_of_lt_of_le ?_ least)
    linarith

theorem mantissa_ofMantissaAndAccuracy (mantissa : ℕ) (accuracy : Accuracy) :
    (ExtendedMantissa.ofMantissaAndAccuracy mantissa accuracy).mantissa = mantissa := by
  rcases accuracy with _ | (_ | _ | _) <;> rfl

/-- The last bit of a mantissa that locates what rounds to a number is shifted to the
    last bit of the number, or to the one behind it when the leading bit is not reached. -/
theorem targetExponent_eq {x : Binary} (canonical : x.Canonical) {value : ℚ} (attracts : x.Attracts value)
    {mantissa : ℕ} {exponent : ℤ} {accuracy : Accuracy}
    (located : Locates (.ofMantissaAndAccuracy mantissa accuracy) (value / 2 ^ exponent))
    (long : 52 ≤ mantissa.log2 ∨ exponent ≤ -1074) :
    let target := Format.binary64.targetExponent (totalExponent mantissa exponent)
    exponent ≤ target ∧ (target = x.exponent ∨
      target = x.exponent - 1 ∧ x.significand = 2 ^ 52 ∧ -1074 < x.exponent ∧ value < 2 ^ (52 + x.exponent)) := by
  have target_eq : Format.binary64.targetExponent (totalExponent mantissa exponent) =
      max ((mantissa.log2 : ℤ) + exponent - 52) (-1074) := by
    simp only [Format.targetExponent, totalExponent, Format.mantissaBits, Format.minExponent]
    omega
  dsimp only
  rw [target_eq]
  obtain ⟨atLeast, lessThan⟩ := located.bounds
  rw [mantissa_ofMantissaAndAccuracy] at atLeast lessThan
  have unit : (0 : ℚ) < 2 ^ exponent := by positivity
  have upper : value < 2 ^ ((mantissa.log2 : ℤ) + 1 + exponent) := by
    have log : ((mantissa : ℚ) + 1) ≤ 2 ^ (mantissa.log2 + 1) := by exact_mod_cast Nat.lt_log2_self
    rw [zpow_add₀ (by norm_num)]
    refine (div_lt_iff₀ unit).mp (lessThan.trans_le ?_)
    exact_mod_cast log
  have bounded := attracts.lt canonical
  have twoGt : (1 : ℚ) < 2 := by norm_num
  have notAbove (some : mantissa ≠ 0) : (mantissa.log2 : ℤ) + exponent < 53 + x.exponent := by
    refine (zpow_lt_zpow_iff_right₀ twoGt).mp (lt_of_le_of_lt ?_ bounded)
    have log : (2 : ℚ) ^ mantissa.log2 ≤ mantissa := by exact_mod_cast Nat.log2_self_le some
    rw [zpow_add₀ (by norm_num)]
    refine (le_div_iff₀ unit).mp (le_trans ?_ atLeast)
    exact_mod_cast log
  refine ⟨by omega, ?_⟩
  -- Nothing is shifted below the least exponent. Above it the leading bits decide, and only
  -- just below a power of two they stand one place lower than those of the number.
  rcases canonical.least.eq_or_lt with least | normal
  · rcases eq_or_ne mantissa 0 with rfl | some
    · simp at long ⊢
      omega
    · have := notAbove some
      omega
  · obtain ⟨half, leading⟩ := attracts.gt canonical normal
    have notBelow : 51 + x.exponent < (mantissa.log2 : ℤ) + 1 + exponent :=
      (zpow_lt_zpow_iff_right₀ twoGt).mp (half.trans upper)
    have some : mantissa ≠ 0 := by
      rintro rfl
      simp at long notBelow
      omega
    have atMost := notAbove some
    rcases eq_or_ne x.significand (2 ^ 52) with power | more
    · rcases lt_or_ge ((mantissa.log2 : ℤ) + exponent) (52 + x.exponent) with short | full
      · refine .inr ⟨by omega, power, normal, upper.trans_le ?_⟩
        exact (zpow_le_zpow_iff_right₀ twoGt).mpr (by omega)
      · exact .inl (by omega)
    · have reached : 52 + x.exponent < (mantissa.log2 : ℤ) + 1 + exponent :=
        (zpow_lt_zpow_iff_right₀ twoGt).mp ((leading more).trans upper)
      exact .inl (by omega)

/-- The shift keeps what a mantissa knows. -/
theorem Locates.shifted {mantissa : ℕ} {exponent : ℤ} {accuracy : Accuracy} {value : ℚ}
    (located : Locates (.ofMantissaAndAccuracy mantissa accuracy) (value / 2 ^ exponent)) {target : ℤ}
    (right : exponent ≤ target) :
    ∃ extended, shiftToExponent mantissa exponent accuracy target = (extended, target) ∧
      Locates extended (value / 2 ^ target) := by
  obtain ⟨places, rfl⟩ := Int.le.dest right
  have count : (exponent + places - exponent).toNat = places := by omega
  refine ⟨ExtendedMantissa.ofMantissaAndAccuracy mantissa accuracy >>> places, ?_, ?_⟩
  · rw [shiftToExponent, count]
  · rw [zpow_add₀ (by norm_num), ← div_div, zpow_natCast]
    exact located.shiftRight places

/-- What lies in the interval of a float rounds to it. -/
theorem roundWithAccuracy_eq {x : Binary} (canonical : x.Canonical) {value : ℚ} (attracts : x.Attracts value)
    (sign : Sign) {mantissa : ℕ} {exponent : ℤ} {accuracy : Accuracy}
    (located : Locates (.ofMantissaAndAccuracy mantissa accuracy) (value / 2 ^ exponent))
    (long : 52 ≤ mantissa.log2 ∨ exponent ≤ -1074) :
    roundWithAccuracy Format.binary64 sign mantissa exponent accuracy =
      .finite sign x.significand x.exponent canonical.positive := by
  obtain ⟨right, target⟩ := targetExponent_eq canonical attracts located long
  obtain ⟨extended, shifted, located⟩ := located.shifted right
  change shiftToTargetExponent Format.binary64 mantissa exponent accuracy = _ at shifted
  obtain ⟨below, above⟩ := attracts
  rcases target with target | ⟨target, power, normal, small⟩
  · rw [target] at shifted located
    have rounds : extended.roundedMantissa = x.significand := by
      refine located.rounded ?_ above
      split at below
      · rcases below with below | ⟨-, below⟩ <;> exact .inl (by linarith)
      · exact below
    have final := shiftToTargetExponent_short canonical.short canonical.least
    simp only [roundWithAccuracy, shifted, rounds, final, canonical.positive.ne', dite_false]
  · -- Just below a power of two the last bit is worth half as much, and rounding carries.
    rw [target] at shifted located
    have half : value / 2 ^ (x.exponent - 1) = 2 * (value / 2 ^ x.exponent) := by
      rw [zpow_sub_one₀ (by norm_num)]
      field_simp
    have rounds : extended.roundedMantissa = 2 ^ 53 := by
      refine located.rounded ?_ (.inl ?_)
      · rw [if_pos (canonical.narrow.mpr ⟨power, normal⟩), power] at below
        rw [half]
        push_cast at below ⊢
        rcases below with below | ⟨-, below⟩
        · exact .inl (by linarith)
        · exact .inr ⟨by decide, by linarith⟩
      · rw [zpow_add₀ (by norm_num)] at small
        have units := (div_lt_iff₀ (by positivity : (0 : ℚ) < 2 ^ x.exponent)).mpr small
        rw [half]
        norm_num at units ⊢
        linarith
    have final : shiftToTargetExponent Format.binary64 (2 ^ 53) (x.exponent - 1) .exact =
        (⟨2 ^ 52, false, false⟩, x.exponent) := by
      rw [shiftToTargetExponent_carry (by omega), sub_add_cancel]
    simp only [roundWithAccuracy, shifted, rounds, final, power]
    rfl

end Stablecoin.Decimal
