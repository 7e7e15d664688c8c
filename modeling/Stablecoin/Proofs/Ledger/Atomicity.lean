import Stablecoin.Proofs.Ledger.WellFormed

/-!
A refused call leaves the ledger as it was. Only a redemption answers a refusal with a
ledger of its own, and it can refuse after it has closed troves. That this never
happens rests on the troves being large: a walk that has taken anything has taken more
than the tolerance, and it takes no more than the amount that was checked against the
balance before the first step.
-/
namespace Stablecoin.Ledger
open Number (tolerance tolerance_pos)
variable {ledger left : Ledger ℝ}

theorem debit_error {account : AccountId} {amount : ℝ} {refusal : Refusal ℝ}
    (refused : ledger.debit account amount = .error refusal) : ledger.balance account + tolerance < amount := by
  unfold debit at refused
  dsimp only at refused
  split at refused
  · assumption
  · cases refused

theorem redeems_refused (wellFormed : ledger.WellFormed) {redeemer : AccountId} {amount : ℝ} {refusal : Refusal ℝ}
    (redeems : Redeems ledger redeemer amount (.error refusal) left) : left = ledger := by
  cases redeems with
  | refused => rfl
  | @nothing walk walked dust =>
    have sound := walked.sound wellFormed
    rcases sound.untouched with same | more
    · exact same
    · exact absurd dust (not_le.mpr more)
  | @short walk _ walked something uncovered =>
    have sound := walked.sound wellFormed
    have short := debit_error uncovered
    have covered := not_lt.mp walked.covered
    have within : walk.taken.redeemed ≤ amount := by linarith [sound.accounted, sound.remaining]
    have held : walk.ledger.balance redeemer = ledger.balance redeemer := by rw [balance, sound.balances, balance]
    rw [held] at short
    linarith

theorem perform_refused (wellFormed : ledger.WellFormed) {call : Call ℝ} {refusal : Refusal ℝ}
    (refused : (ledger.perform call).1 = .error refusal) : (ledger.perform call).2 = ledger := by
  have performs := ledger.perform_performs call
  generalize (ledger.perform call).2 = left at performs ⊢
  rw [refused] at performs
  generalize answered : (Except.error refusal : Except (Refusal ℝ) (Answer ℝ)) = answer at performs
  cases performs with
  | refused => rfl
  | @redeemed redeemer amount result left redeems =>
    cases result with
    | error reason => exact redeems_refused wellFormed redeems
    | ok redemption => cases answered
  | _ => cases answered

/-- Whatever calls were made before, a refused call changes nothing in the ledger. -/
theorem refused_leaves_ledger {terms : Terms ℝ} (admissible : terms.Admissible) (price : ℝ) (calls : List (Call ℝ))
    (call : Call ℝ) (refusal : Refusal ℝ)
    (refused : (((new terms price).after calls).perform call).1 = .error refusal) :
    (((new terms price).after calls).perform call).2 = (new terms price).after calls :=
  perform_refused (after_wellFormed admissible price calls) refused

/-! ### A redemption that walks and takes nothing -/

/-- A quarter of its debt would leave the trove below the minimum. -/
theorem lone_redeem_refused : (lone.perform (.redeem 7 500.0)).1 = .error .nothingToRedeem := by
  have secured : ¬ lone.tcr.Below (.of lone.terms.mcr) :=
    not_ratio_below (by norm_num [readings, lone_eq, Parameters.defaultTerms])
  simp only [perform, redeem, secured]
  norm_num [readings, lone_eq, Number.tolerance_real, sortedTroves, place, Walk.along, Walk.take, Trove.icr,
    Parameters.defaultTerms, Except.map]

theorem refused_leaves_lone :
    (((new Parameters.defaultTerms 1000.0).after [.openTrove 7 10.0 2000.0]).perform (.redeem 7 500.0)).1 =
        .error (.nothingToRedeem : Refusal ℝ) ∧
      (((new Parameters.defaultTerms 1000.0).after [.openTrove 7 10.0 2000.0]).perform (.redeem 7 500.0)).2 =
        (new Parameters.defaultTerms 1000.0).after [.openTrove (7 : AccountId) (10.0 : ℝ) 2000.0] := by
  have refused : (((new Parameters.defaultTerms 1000.0).after [.openTrove 7 10.0 2000.0]).perform (.redeem 7 500.0)).1 =
      .error (.nothingToRedeem : Refusal ℝ) := by
    rw [after_cons, lone_opened]
    exact lone_redeem_refused
  exact ⟨refused, refused_leaves_ledger defaultTerms_admissible 1000.0 _ _ _ refused⟩

end Stablecoin.Ledger
