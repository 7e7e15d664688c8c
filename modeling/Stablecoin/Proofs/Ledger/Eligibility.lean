import Stablecoin.Proofs.Ledger.Batches
import Stablecoin.Proofs.Ledger.Order

/-!
Which troves may be liquidated, and which of them are found. Only the trove that is
secured worst is looked at. That is enough below the minimum ratio, for eligibility
follows the order there. In recovery it also asks that the pool covers the debt, and the
pool can cover a later trove where it does not cover the first (`Blocked`): some trove may
be liquidated exactly if one is found or the ledger is blocked, and never both
(`someLiquidatable_iff`, `not_pending_of_blocked`).
-/
namespace Stablecoin.Ledger
open Number (tolerance)
variable {ledger : Ledger ℝ} {account : AccountId} {trove : Trove ℝ}

/-- Some trove of the ledger may be liquidated. -/
def SomeLiquidatable (ledger : Ledger ℝ) : Prop :=
  ∃ id trove, ledger.troves.get? id = some trove ∧ ledger.Liquidatable trove

/-- In recovery the pool covers a trove below the ratio of the system, but not the trove
    that is secured worst, which is not below the minimum ratio. -/
structure Blocked (ledger : Ledger ℝ) : Prop where
  recovery : ledger.InRecovery
  uncovered : ∃ account trove, ledger.Worst account trove ∧
    ¬ (trove.icr ledger.price).Below (.of ledger.terms.mcr) ∧ ledger.totalDeposits + tolerance < trove.debt
  covered : ∃ id trove, ledger.troves.get? id = some trove ∧
    (trove.icr ledger.price).Below ledger.tcr ∧ trove.debt ≤ ledger.totalDeposits + tolerance

theorem nextLiquidation?_of_worst (several : 1 < ledger.troves.size) (worst : ledger.Worst account trove) :
    ledger.nextLiquidation? = if ledger.Liquidatable trove then some account else none :=
  nextLiquidation?_of_head several worst.first worst.found

theorem pending_iff_of_worst (several : 1 < ledger.troves.size) (worst : ledger.Worst account trove) :
    ledger.HasPendingLiquidations ↔ ledger.Liquidatable trove := by
  rw [HasPendingLiquidations, nextLiquidation?_of_worst several worst]
  by_cases eligible : ledger.Liquidatable trove <;> simp [eligible]

/-- What holds below a ratio for some trove holds below it for the one secured worst. -/
theorem Worst.below (worst : ledger.Worst account trove) {id : AccountId} {other : Trove ℝ}
    (found : ledger.troves.get? id = some other) {ratio : Ratio ℝ} (below : (other.icr ledger.price).Below ratio) :
    (trove.icr ledger.price).Below ratio := by
  rw [Ratio.below_iff] at below ⊢
  exact lt_of_le_of_lt (worst.least id other found) below

theorem Worst.liquidatable_or_blocked (worst : ledger.Worst account trove) (eligible : ledger.SomeLiquidatable) :
    ledger.Liquidatable trove ∨ ledger.Blocked := by
  obtain ⟨id, other, found, below | ⟨recovery, below, covered⟩⟩ := eligible
  · exact .inl (.inl (worst.below found below))
  · by_cases absorbed : trove.debt ≤ ledger.totalDeposits + tolerance
    · exact .inl (.inr ⟨recovery, worst.below found below, absorbed⟩)
    · by_cases unsecured : (trove.icr ledger.price).Below (.of ledger.terms.mcr)
      · exact .inl (.inl unsecured)
      · exact .inr ⟨recovery, ⟨account, trove, worst, unsecured, not_le.mp absorbed⟩, ⟨id, other, found, below, covered⟩⟩

theorem not_pending_of_blocked (blocked : ledger.Blocked) : ¬ ledger.HasPendingLiquidations := by
  rcases le_or_gt ledger.troves.size 1 with few | several
  · exact not_pending_of_few few
  · obtain ⟨account, trove, worst, secured, uncovered⟩ := blocked.uncovered
    rw [pending_iff_of_worst several worst]
    rintro (unsecured | ⟨_, _, covered⟩)
    · exact secured unsecured
    · exact absurd covered (not_le.mpr uncovered)

theorem Blocked.someLiquidatable (blocked : ledger.Blocked) : ledger.SomeLiquidatable := by
  obtain ⟨id, trove, found, below, covered⟩ := blocked.covered
  exact ⟨id, trove, found, .inr ⟨blocked.recovery, below, covered⟩⟩

/-- Among several troves one may be liquidated exactly if one is found or the ledger is
    blocked. -/
theorem someLiquidatable_iff (several : 1 < ledger.troves.size) :
    ledger.SomeLiquidatable ↔ ledger.HasPendingLiquidations ∨ ledger.Blocked := by
  obtain ⟨account, trove, worst⟩ := exists_worst (Nat.zero_lt_of_lt several)
  rw [pending_iff_of_worst several worst]
  constructor
  · exact worst.liquidatable_or_blocked
  · rintro (eligible | blocked)
    · exact ⟨account, trove, worst.found, eligible⟩
    · exact blocked.someLiquidatable

/-- The trove that is secured worst tells whether any may be liquidated exactly if the
    ledger is not blocked. -/
theorem pending_iff_someLiquidatable_iff (several : 1 < ledger.troves.size) :
    (ledger.HasPendingLiquidations ↔ ledger.SomeLiquidatable) ↔ ¬ ledger.Blocked := by
  rw [someLiquidatable_iff several]
  have exclusive : ledger.Blocked → ¬ ledger.HasPendingLiquidations := not_pending_of_blocked
  tauto

theorem someLiquidatable_iff_blocked (finished : ¬ ledger.HasPendingLiquidations)
    (several : 1 < ledger.troves.size) : ledger.SomeLiquidatable ↔ ledger.Blocked := by
  rw [someLiquidatable_iff several]
  exact or_iff_right finished

end Stablecoin.Ledger
