import Mathlib.Analysis.SpecialFunctions.Pow.Real
import Stablecoin.Decimal.Binary
import Stablecoin.Ledger.Basic

/-!
Exact arithmetic: the model over the real numbers. The operations are those of the
field, the order is total and every number is finite, so the comparisons of the model
say what they say on paper. Floats enter only as draws, each as the number that it
stands for.
-/
namespace Stablecoin

/-- The real number that a finite float stands for. -/
noncomputable def realOfFloat (x : Float) : ℝ :=
  let magnitude := Decimal.Binary.ofBits x.toBits
  (if Decimal.isNegative x then -1 else 1) * magnitude.significand * (2 : ℝ) ^ magnitude.exponent

/-- A float below one stands for a number below one. -/
theorem realOfFloat_lt_one {x : Float} (below : x.toBits < 0x3FF0000000000000) : realOfFloat x < 1 := by
  have bits : x.toBits.toNat < 0x3FF0000000000000 := below
  have positive : Decimal.isNegative x = false := decide_eq_false (by omega)
  have power : ((x.toBits >>> 52) &&& 0x7FF).toNat ≤ 1022 := by
    rw [UInt64.toNat_and, UInt64.toNat_shiftRight, Nat.shiftRight_eq_div_pow]
    refine Nat.and_le_left.trans ?_
    change x.toBits.toNat / 2 ^ 52 ≤ 1022
    omega
  have fraction : (x.toBits &&& 0xFFFFFFFFFFFFF).toNat ≤ 2 ^ 52 - 1 := by
    rw [UInt64.toNat_and]
    exact Nat.and_le_right
  have magnitude : (Decimal.Binary.ofBits x.toBits).significand < 2 ^ 53 ∧
      (Decimal.Binary.ofBits x.toBits).exponent ≤ -53 := by
    unfold Decimal.Binary.ofBits
    dsimp only
    split <;> constructor <;> dsimp only <;> omega
  have least : (2 : ℝ) ^ (Decimal.Binary.ofBits x.toBits).exponent ≤ 2 ^ (-53 : ℤ) :=
    zpow_le_zpow_right₀ one_le_two magnitude.2
  have most : ((Decimal.Binary.ofBits x.toBits).significand : ℝ) < 2 ^ 53 := by exact_mod_cast magnitude.1
  simp only [realOfFloat, positive, Bool.false_eq_true, if_false, one_mul]
  calc ((Decimal.Binary.ofBits x.toBits).significand : ℝ) * 2 ^ (Decimal.Binary.ofBits x.toBits).exponent
      ≤ (Decimal.Binary.ofBits x.toBits).significand * 2 ^ (-53 : ℤ) := by gcongr
    _ < 2 ^ 53 * 2 ^ (-53 : ℤ) := by gcongr
    _ = 1 := by norm_num

/-- The real numbers. There is no infinity among them, and zero stands in for it. -/
noncomputable instance : Number ℝ where
  decidableLt := inferInstance
  decidableLe := inferInstance
  isFinite _ := true
  infinity := 0
  nearestNat x := min ⌊x + 1 / 2⌋₊ (UInt64.size - 1)
  totalLe x y := decide (x ≤ y)
  exp := Real.exp
  log := Real.log
  sqrt := Real.sqrt
  pow := Real.rpow
  ofFloat := realOfFloat

namespace Number

@[simp] theorem isFinite_real (a : ℝ) : isFinite a = true := rfl

theorem pow_real (a b : ℝ) : Number.pow a b = a ^ b := rfl

@[simp] theorem min_real (a b : ℝ) : Number.min a b = a ⊓ b := by
  unfold Number.min IsDefined
  split
  · rename_i less
    exact (min_eq_right (le_of_lt less)).symm
  · rename_i notLess
    simp [min_eq_left (not_lt.mp notLess)]

@[simp] theorem max_real (a b : ℝ) : Number.max a b = a ⊔ b := by
  unfold Number.max IsDefined
  split
  · rename_i less
    exact (max_eq_right (le_of_lt less)).symm
  · rename_i notLess
    simp [max_eq_left (not_lt.mp notLess)]

@[simp] theorem abs_real (a : ℝ) : Number.abs a = |a| := by
  unfold Number.abs
  split
  · rename_i negative
    exact (abs_of_neg negative).symm
  · rename_i notNegative
    exact (abs_of_nonneg (not_lt.mp notNegative)).symm

@[simp] theorem sum_real (l : List ℝ) : Number.sum l = l.sum := by
  unfold Number.sum
  rw [List.sum_eq_foldl]
  simp

theorem tolerance_real : (tolerance : ℝ) = 1e-9 := rfl

theorem tolerance_pos : (0 : ℝ) < tolerance := by
  rw [tolerance_real]
  norm_num

end Number

namespace Ratio

@[simp] theorem below_of_of {α : Type} [Number α] (a b : α) : (of a).Below (of b) ↔ a < b := Iff.rfl

@[simp] theorem not_below_unbounded {α : Type} [Number α] (r : Ratio α) : ¬ (unbounded : Ratio α).Below r := id

@[simp] theorem below_unbounded (a : ℝ) : (of a).Below unbounded := .inl rfl

end Ratio

/-- A trove at or above a ratio that no debt-free comparison decides is worth that
    multiple of its debt. -/
theorem Trove.le_of_not_below {trove : Trove ℝ} {price minimum : ℝ} (indebted : 0 < trove.debt)
    (secured : ¬ (trove.icr price).Below (.of minimum)) : minimum * trove.debt ≤ trove.collateral * price := by
  have finite : trove.icr price = .of (trove.collateral * price / trove.debt) := by
    simp [Trove.icr, indebted]
  rw [finite, Ratio.below_of_of, not_lt] at secured
  exact (le_div_iff₀ indebted).mp secured

/-- A trove below such a ratio is worth less than that multiple of its debt. -/
theorem Trove.lt_of_below {trove : Trove ℝ} {price minimum : ℝ} (indebted : 0 < trove.debt)
    (below : (trove.icr price).Below (.of minimum)) : trove.collateral * price < minimum * trove.debt := by
  have finite : trove.icr price = .of (trove.collateral * price / trove.debt) := by
    simp [Trove.icr, indebted]
  rw [finite, Ratio.below_of_of] at below
  exact (div_lt_iff₀ indebted).mp below

end Stablecoin
