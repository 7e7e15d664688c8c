import Stablecoin.Decimal.Shortest
import Stablecoin.Proofs.Decimal.Binary

namespace Stablecoin.Decimal

/-- A decimal found on a grid reads back. -/
theorem onGrid?_reads {tie : Tie} {x : Binary} {step : ℤ} {d : Digits} (found : onGrid? tie x step = some d) :
    x.reads d = true := by
  unfold onGrid? at found
  dsimp only at found
  split at found
  · next down up =>
    split at found
    · cases found
      exact down
    · cases found
      exact up
    · split at found <;> cases found
      · exact down
      · exact up
  · next down _ =>
    cases found
    exact down
  · next _ up =>
    cases found
    exact up
  · cases found

theorem exact_value (x : Binary) : (exact x).value = x.significand * 2 ^ x.exponent := by
  unfold exact
  split
  · next whole =>
    obtain ⟨places, exponent⟩ := Int.eq_ofNat_of_zero_le whole
    simp [Digits.value, exponent]
  · next fraction =>
    obtain ⟨places, exponent⟩ := Int.eq_ofNat_of_zero_le (show 0 ≤ -x.exponent by omega)
    have exponent : x.exponent = -(places : ℤ) := by omega
    have ten : (10 : ℚ) ^ places = 5 ^ places * 2 ^ places := by rw [← mul_pow]; norm_num
    simp [Digits.value, exponent, ten]
    field_simp

/-- A number lies in its own interval. -/
theorem Binary.attracts_self (x : Binary) : x.Attracts (x.significand * 2 ^ x.exponent) := by
  have units : (x.significand * 2 ^ x.exponent : ℚ) / 2 ^ x.exponent = x.significand := by field_simp
  unfold Attracts
  rw [units]
  refine ⟨.inl ?_, .inl (by linarith)⟩
  split <;> linarith

theorem trimZeros_value (fuel : ℕ) (d : Digits) : (trimZeros fuel d).value = d.value := by
  induction fuel generalizing d with
  | zero => rfl
  | succ fuel ih =>
    rw [trimZeros]
    split
    · next zero =>
      have tens : ((d.digits / 10 : ℕ) : ℚ) * 10 = d.digits := by
        exact_mod_cast Nat.div_mul_cancel (Nat.dvd_of_mod_eq_zero zero.2)
      rw [ih, Digits.value, Digits.value, zpow_add_one₀ (by norm_num), ← tens]
      ring
    · rfl

/-- The shortest decimal of a number lies in its interval. -/
theorem shortest_attracted (tie : Tie) {x : Binary} (positive : 0 < x.significand) :
    x.Attracts (shortest tie x).value := by
  rw [shortest, if_neg positive.ne']
  dsimp only
  rw [trimZeros_value]
  cases found : (List.range 17).findSome? fun (n : ℕ) => onGrid? tie x (magnitude x - 1 - n) with
  | none =>
    rw [Option.getD_none, exact_value]
    exact x.attracts_self
  | some d =>
    obtain ⟨n, -, onGrid⟩ := List.exists_of_findSome?_eq_some found
    exact (reads_iff positive d).mp (onGrid?_reads onGrid)

end Stablecoin.Decimal
