import Stablecoin.Proofs.Ledger.Eligibility
import Stablecoin.Proofs.Market.Agreement
import Stablecoin.Proofs.Market.Liquidations

namespace Stablecoin
open Ledger

namespace Market
variable {ledger : Ledger ℝ} {context : Context ℝ}

/-- Reward tokens change nothing that liquidations look at. -/
theorem issueRewards_pending (ledger : Ledger ℝ) (amount : ℝ) :
    (ledger.issueRewards amount).2.HasPendingLiquidations ↔ ledger.HasPendingLiquidations := by
  obtain ⟨_, issued⟩ := ledger.issueRewards_eq amount
  rw [issued]
  exact Iff.rfl

theorem liquidate_finished (some : context.parameters.terms.maxLiquidationsPerCall ≠ 0) {market : Market ℝ}
    (active : market.roster.active ≠ []) (state : MarketState ℝ) :
    ¬ (liquidate context market state).1.ledger.HasPendingLiquidations := by
  have awake : ¬ market.roster.active.isEmpty = true := by simpa using active
  unfold liquidate
  simp only [if_neg awake, issueRewards_pending]
  exact (liquidateBatches_settles some _ le_rfl).not_pending some

end Market

namespace Ledger

/-- Among several troves the one that is secured worst speaks for all exactly if the
    ledger is not blocked. What a call that may take every trove leaves, and what the
    liquidations of a period leave, holds a trove that may be liquidated exactly if it is
    blocked. -/
theorem head_decides_iff (ledger : Ledger ℝ) :
    (1 < ledger.troves.size →
        ((ledger.HasPendingLiquidations ↔ ledger.SomeLiquidatable) ↔ ¬ ledger.Blocked)) ∧
      (∀ liquidator count, ledger.troves.size ≤ count →
        1 < (ledger.perform (.liquidateTroves liquidator count)).2.troves.size →
          ((ledger.perform (.liquidateTroves liquidator count)).2.SomeLiquidatable ↔
            (ledger.perform (.liquidateTroves liquidator count)).2.Blocked)) ∧
      ∀ (context : Context ℝ) roster state, context.parameters.terms.maxLiquidationsPerCall ≠ 0 → roster.active ≠ [] →
        1 < (liquidate context ⟨ledger, roster⟩ state).1.ledger.troves.size →
          ((liquidate context ⟨ledger, roster⟩ state).1.ledger.SomeLiquidatable ↔
            (liquidate context ⟨ledger, roster⟩ state).1.ledger.Blocked) := by
  refine ⟨pending_iff_someLiquidatable_iff, ?_, ?_⟩
  · intro liquidator count enough several
    rw [perform_liquidateTroves] at several ⊢
    exact someLiquidatable_iff_blocked (liquidateUpTo_finished liquidator enough) several
  · intro context roster state some active several
    exact someLiquidatable_iff_blocked (Market.liquidate_finished some active state) several

/-! ### A blocked ledger -/

/-- Three troves under the default terms, opened one after another. -/
noncomputable def crowd : Ledger ℝ :=
  { lone with
    troves := ⟨[(7, ⟨10.0, 2210.0⟩), (8, ⟨43.0, 10250.0⟩), (9, ⟨125.0, 20300.0⟩)], by simp⟩
    balances := ⟨[(7, 2000.0), (8, 10000.0), (9, 20000.0)], by simp⟩
    feePool := 160.0
    gasPool := 600.0
    supply := 32760.0 }

/-- The price has fallen and put them into recovery. The pool holds three thousand, enough
    for the first trove and not for the second, which is secured worst. -/
noncomputable def stalled : Ledger ℝ :=
  { crowd with
    price := 270.0
    balances := ⟨[(7, 2000.0), (8, 10000.0), (9, 17000.0)], by simp⟩
    deposits := ⟨[(9, 3000.0)], by simp⟩ }

/-- The calls that lead there. -/
noncomputable def stalledCalls : List (Call ℝ) :=
  [.openTrove 7 10.0 2000.0, .openTrove 8 43.0 10000.0, .openTrove 9 125.0 20000.0, .provide 9 3000.0, .setPrice 270.0]

theorem lone_crowded : ∃ first second mid, lone.perform (.openTrove 8 43.0 10000.0) = (.ok (.changed first), mid) ∧
    mid.perform (.openTrove 9 125.0 20000.0) = (.ok (.changed second), crowd) := by
  refine ⟨⟨43.0, 10250.0, 50.0⟩, ⟨125.0, 20300.0, 100.0⟩,
    { lone with
      troves := ⟨[(7, ⟨10.0, 2210.0⟩), (8, ⟨43.0, 10250.0⟩)], by simp⟩
      balances := ⟨[(7, 2000.0), (8, 10000.0)], by simp⟩
      feePool := 60.0
      gasPool := 400.0
      supply := 12460.0 }, ?_, ?_⟩
  all_goals
    apply CalmOpening.perform
    constructor <;>
      norm_num [inRecovery_iff, readings, crowd, lone_eq, Parameters.defaultTerms, Number.tolerance_real]

theorem crowd_stalled : (crowd.perform (.provide 9 3000.0)).1 = .ok .done ∧
    (crowd.perform (.provide 9 3000.0)).2.perform (.setPrice 270.0) = (.ok .done, stalled) := by
  have provided : crowd.perform (.provide 9 3000.0) = (.ok .done, { stalled with price := crowd.price }) := by
    refine perform_provide ?_ ?_ ?_ <;> norm_num [afterDeposit, payOutGains, readings, crowd, stalled, lone_eq]
  rw [provided]
  exact ⟨rfl, rfl⟩

theorem stalledCalls_accepted :
    (∀ answer ∈ (new Parameters.defaultTerms 1000.0).answers stalledCalls, ∃ reply, answer = .ok reply) ∧
      (new Parameters.defaultTerms 1000.0).after stalledCalls = stalled := by
  obtain ⟨first, second, mid, opened, joined⟩ := lone_crowded
  obtain ⟨provided, priced⟩ := crowd_stalled
  constructor
  · intro answer listed
    simp only [stalledCalls, answers, lone_opened, opened, joined, provided, priced, List.mem_cons, List.not_mem_nil,
      or_false] at listed
    rcases listed with rfl | rfl | rfl | rfl | rfl <;> exact ⟨_, rfl⟩
  · simp only [stalledCalls, after_cons, lone_opened, opened, joined, priced]
    rfl

theorem stalled_recovery : stalled.InRecovery := by
  norm_num [inRecovery_iff, readings, stalled, crowd, lone_eq, Parameters.defaultTerms, Number.tolerance_real]

theorem stalled_not_pending : ¬ stalled.HasPendingLiquidations := by
  have several : 1 < stalled.troves.size := by decide
  have sorted : stalled.sortedTroves =
      [(8, .of (11610 / 10250)), (7, .of (2700 / 2210)), (9, .of (33750 / 20300))] := by
    norm_num [stalled, crowd, sortedTroves, place, Precedes, Trove.icr]
  have found : stalled.troves.get? 8 = some ⟨43.0, 10250.0⟩ := rfl
  have waits : ¬ stalled.Liquidatable ⟨43.0, 10250.0⟩ := by
    norm_num [Liquidatable, readings, stalled, crowd, lone_eq, Trove.icr, Parameters.defaultTerms,
      Number.tolerance_real]
  rw [HasPendingLiquidations, nextLiquidation?_of_head several (congrArg List.head? sorted) found, if_neg waits]
  simp

theorem stalled_someLiquidatable : stalled.SomeLiquidatable := by
  refine ⟨7, ⟨10.0, 2210.0⟩, rfl, .inr ⟨stalled_recovery, ?_⟩⟩
  norm_num [tcr, ratio, readings, stalled, crowd, lone_eq, Trove.icr, Number.tolerance_real]

/-- Accepted calls lead to three troves of which one may be liquidated, and none is found. -/
theorem stalledCalls_overlook :
    (∀ answer ∈ (new Parameters.defaultTerms 1000.0).answers stalledCalls, ∃ reply, answer = .ok reply) ∧
      1 < ((new Parameters.defaultTerms 1000.0).after stalledCalls).troves.size ∧
      ((new Parameters.defaultTerms 1000.0).after stalledCalls).SomeLiquidatable ∧
      ¬ ((new Parameters.defaultTerms 1000.0).after stalledCalls).HasPendingLiquidations := by
  obtain ⟨accepted, reached⟩ := stalledCalls_accepted
  rw [reached]
  exact ⟨accepted, by decide, stalled_someLiquidatable, stalled_not_pending⟩

/-- A roster in which the holders of the three troves are active. -/
noncomputable def holders : Roster ℝ := couple.activate 9 1.5 0.1 1

theorem holders_active : holders.active = [7, 8, 9] := rfl

theorem liquidate_stalled (state : MarketState ℝ) :
    (liquidate fallenPeriod ⟨stalled, holders⟩ state).1.ledger.troves = stalled.troves := by
  have size : stalled.troves.size = 3 := rfl
  simp [liquidate, liquidateBatches, stalled_not_pending, size, holders_active, issueRewards_troves]

theorem stalled_head_decides :
    holders.Division ∧ (∀ id, holders.IsActive id ↔ stalled.troves.Has id) ∧ 1 < stalled.troves.size ∧
      ((stalled.HasPendingLiquidations ↔ stalled.SomeLiquidatable) ↔ ¬ stalled.Blocked) ∧
      ((stalled.perform (.liquidateTroves 7 3)).2.SomeLiquidatable ↔
        (stalled.perform (.liquidateTroves 7 3)).2.Blocked) ∧
      ((liquidate fallenPeriod ⟨stalled, holders⟩ MarketState.initial).1.ledger.SomeLiquidatable ↔
        (liquidate fallenPeriod ⟨stalled, holders⟩ MarketState.initial).1.ledger.Blocked) := by
  obtain ⟨head, call, step⟩ := head_decides_iff stalled
  have several : 1 < stalled.troves.size := by decide
  have division : holders.Division := couple_division.activate 9 1.5 0.1 1
  have agree (id : AccountId) : holders.IsActive id ↔ stalled.troves.Has id := by
    rw [← division.mem_active, holders_active]
    rfl
  refine ⟨division, agree, several, head several, call 7 3 le_rfl ?_,
    step fallenPeriod holders MarketState.initial (by decide) (by simp [holders_active]) ?_⟩
  · have idle : (stalled.liquidateUpTo 7 3).2 = stalled := by
      simp [liquidateUpTo, (not_pending_iff 7).mp stalled_not_pending]
    rw [perform_liquidateTroves, idle]
    exact several
  · rw [liquidate_stalled]
    exact several

end Ledger
end Stablecoin
