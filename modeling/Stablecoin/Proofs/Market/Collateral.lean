import Stablecoin.Proofs.Ledger.Collateral
import Stablecoin.Proofs.Market.Agreement

/-!
The collateral in the troves over the steps of a period, against what each step counts.
Liquidations take at least what they count out of the troves, closures and redemptions
only take, and the three steps that bring collateral in count all of it (`Brings`).

None of the three counts less than nothing. A borrower adds collateral where the ratio
fell short of the target, an opening needs collateral to be accepted, and the whale posts
collateral for a shortfall, which is positive where the stablecoin trades above its
ceiling and is in demand (`circulating_lt_of_above`).
-/
namespace Stablecoin
open Ledger
open Number (tolerance)

/-- The troves hold no more than they held before and what was brought in, which is not
    less than nothing. -/
structure Brings (held : ℝ) (left : Ledger ℝ) (issuance : Issuance ℝ) : Prop where
  total : left.totalCollateral ≤ held + issuance.collateralAdded
  added : 0 ≤ issuance.collateralAdded

namespace Market
variable {size : Nat} {market : Market ℝ} {ledger left : Ledger ℝ} {context : Context ℝ} {held : ℝ}

theorem brings_none (ledger : Ledger ℝ) : Brings ledger.totalCollateral ledger Issuance.none :=
  ⟨(add_zero _).ge, le_rfl⟩

theorem foldl_bookLiquidation_collateral (context : Context ℝ) (liquidations : List (Liquidation ℝ))
    (market : Market ℝ) (outcome : LiquidationOutcome ℝ) :
    (liquidations.foldl (bookLiquidation context) (market, outcome)).2.collateralLiquidated =
      outcome.collateralLiquidated + (liquidations.map (·.collateralToPool)).sum := by
  induction liquidations generalizing market outcome with
  | nil => simp
  | cons liquidation rest ih =>
    rw [List.foldl_cons, bookLiquidation, ih, List.map_cons, List.sum_cons, add_assoc]

/-- What the batches count grows, and the troves lose at least as much. -/
theorem liquidateBatches_collateral (context : Context ℝ) (batches : Nat) (wellFormed : market.ledger.WellFormed)
    (outcome : LiquidationOutcome ℝ) :
    outcome.collateralLiquidated ≤ (liquidateBatches context batches (market, outcome)).2.collateralLiquidated ∧
      (liquidateBatches context batches (market, outcome)).1.ledger.totalCollateral +
          (liquidateBatches context batches (market, outcome)).2.collateralLiquidated ≤
        market.ledger.totalCollateral + outcome.collateralLiquidated := by
  obtain ⟨count, tally, batched⟩ := liquidateBatches_eq context batches market outcome
  have chain := liquidateUpTo_chain whale count market.ledger
  obtain ⟨taken, lost⟩ := liquidations_collateral wellFormed chain
  rw [batched, foldl_bookLiquidation_collateral]
  simp only [foldl_bookLiquidation_eq]
  exact ⟨by linarith, by linarith⟩

theorem liquidate_collateral (context : Context ℝ) (wellFormed : market.ledger.WellFormed) (state : MarketState ℝ) :
    0 ≤ (liquidate context market state).2.collateralLiquidated ∧
      (liquidate context market state).1.ledger.totalCollateral +
          (liquidate context market state).2.collateralLiquidated ≤ market.ledger.totalCollateral := by
  have batches := liquidateBatches_collateral context market.ledger.troves.size wellFormed
    ⟨[], 0, 0, 0, 0, 0, {}⟩
  unfold liquidate
  dsimp only
  rw [totalCollateral_of_troves (issueRewards_troves _ _)]
  split
  · exact ⟨le_rfl, (add_zero _).le⟩
  · exact ⟨batches.1, batches.2.trans_eq (add_zero _)⟩

theorem closeTurn_collateral (context : Context ℝ) (account : AccountId) (wellFormed : market.ledger.WellFormed)
    (outcome : ClosureOutcome) :
    (closeTurn context account market outcome).2.1.ledger.totalCollateral ≤ market.ledger.totalCollateral := by
  unfold closeTurn
  split
  · exact le_rfl
  · dsimp only
    split
    · exact le_rfl
    · rename_i funded topped
      have same := totalCollateral_of_troves (topUp_troves topped)
      split
      · exact same.le
      · rename_i accepted
        exact (closeTrove_collateral ((topUp_steady topped).wellFormed wellFormed) accepted).trans_eq same

theorem closeTurns_collateral (context : Context ℝ) (accounts : List AccountId) (sound : market.Sound size)
    (outcome : ClosureOutcome) :
    (closeTurns context accounts (market, outcome)).1.ledger.totalCollateral ≤ market.ledger.totalCollateral := by
  induction accounts generalizing market outcome with
  | nil => exact le_rfl
  | cons account rest ih =>
    have turned := closeTurn_collateral context account sound.wellFormed outcome
    have kept := closeTurn_sound context account sound outcome
    unfold closeTurns
    dsimp only
    split
    · exact turned
    · exact (ih kept _).trans turned

theorem close_collateral (context : Context ℝ) (sound : market.Sound size) :
    (close context market).1.ledger.totalCollateral ≤ market.ledger.totalCollateral := by
  unfold close
  split
  · exact le_rfl
  · exact closeTurns_collateral context _ sound _

/-- The amounts of collateral that an adjustment moves are not negative. -/
def Forward : Rebalance ℝ → Prop
  | .addCollateral amount => 0 ≤ amount
  | .withdrawCollateral amount => 0 ≤ amount
  | _ => True

/-- Collateral is added where the ratio lies below the target, and withdrawn elsewhere. -/
theorem rebalance_forward {trove : Trove ℝ} {price : ℝ} (borrower : Borrower ℝ) (indebted : 0 < trove.debt)
    (collateral : 0 ≤ trove.collateral) (positive : 0 < price) (rate : ℝ) (viaCollateral : Bool) :
    Forward (rebalance trove borrower.targetCr price rate
      (decide (borrower.deviation (trove.icr price).toNumber < 0)) viaCollateral) := by
  have icr : (trove.icr price).toNumber = trove.collateral * price / trove.debt := by
    simp [Trove.icr, not_le.mpr indebted, Ratio.toNumber]
  rw [icr]
  by_cases fell : borrower.deviation (trove.collateral * price / trove.debt) < 0
  · cases viaCollateral with
    | false => simp [fell, rebalance, Forward]
    | true =>
      simp only [fell, decide_true, rebalance, Forward, sub_nonneg]
      unfold Borrower.deviation at fell
      split at fell
      · exact absurd fell (lt_irrefl _)
      · rename_i target
        rw [div_lt_iff₀ (not_le.mp target), zero_mul, sub_neg, div_lt_iff₀ indebted] at fell
        rw [le_div_iff₀ positive]
        linarith
  · cases viaCollateral with
    | false => simp [fell, rebalance, Forward]
    | true =>
      simp only [fell, decide_false, rebalance, Forward, sub_nonneg]
      rw [div_le_iff₀ positive]
      unfold Borrower.deviation at fell
      split at fell
      · rename_i none
        exact (mul_nonpos_of_nonneg_of_nonpos indebted.le none).trans (mul_nonneg collateral positive.le)
      · rename_i target
        rw [not_lt, le_div_iff₀ (not_le.mp target), zero_mul, sub_nonneg, le_div_iff₀ indebted] at fell
        linarith

theorem apply_brings {rebalance : Rebalance ℝ} (forward : Forward rebalance) (account : AccountId)
    {outcome : Issuance ℝ} (brings : Brings held ledger outcome) :
    Brings held (rebalance.apply ledger account outcome).1 (rebalance.apply ledger account outcome).2 := by
  obtain ⟨total, added⟩ := brings
  cases rebalance with
  | addCollateral amount =>
    have amount_nonneg : 0 ≤ amount := forward
    unfold Rebalance.apply
    dsimp only
    split
    · exact ⟨total, added⟩
    · rename_i accepted
      have changed := adjustTrove_collateral accepted
      exact ⟨by dsimp only; linarith, add_nonneg added amount_nonneg⟩
  | repay amount =>
    unfold Rebalance.apply
    dsimp only
    split
    · exact ⟨total, added⟩
    · rename_i funded topped
      have same := totalCollateral_of_troves (topUp_troves topped)
      split
      · exact ⟨same.trans_le total, added⟩
      · rename_i accepted
        have changed := adjustTrove_collateral accepted
        exact ⟨by dsimp only; linarith, added⟩
  | withdrawCollateral amount =>
    have amount_nonneg : 0 ≤ amount := forward
    unfold Rebalance.apply
    dsimp only
    split
    · exact ⟨total, added⟩
    · rename_i accepted
      have changed := adjustTrove_collateral accepted
      exact ⟨by dsimp only; linarith, added⟩
  | draw amount =>
    unfold Rebalance.apply
    dsimp only
    split
    · exact ⟨total, added⟩
    · rename_i accepted
      have changed := adjustTrove_collateral accepted
      exact ⟨by dsimp only; linarith, added⟩

theorem adjustTurn_brings (positive : 0 < context.collateralPrice) (account : AccountId) (sound : market.Sound size)
    {outcome : Issuance ℝ} (brings : Brings held market.ledger outcome) :
    Brings held (adjustTurn context (market, outcome) account).1.ledger
      (adjustTurn context (market, outcome) account).2 := by
  unfold adjustTurn
  dsimp only
  split
  · split
    · rename_i borrower trove _ found
      have troveSound := sound.wellFormed.troves account trove found
      have indebted := troveSound.indebted sound.wellFormed.secure
      exact apply_brings (rebalance_forward borrower indebted troveSound.collateral.le positive _ _) account brings
    · exact brings
  · exact brings

theorem adjust_brings (positive : 0 < context.collateralPrice) (sound : market.Sound size) :
    Brings market.ledger.totalCollateral (adjust context market).1.ledger (adjust context market).2 := by
  suffices both : (adjust context market).1.Sound size ∧
      Brings market.ledger.totalCollateral (adjust context market).1.ledger (adjust context market).2 from both.2
  refine List.foldlRecOn _ (adjustTurn context)
    (motive := fun state => state.1.Sound size ∧ Brings market.ledger.totalCollateral state.1.ledger state.2) ?_ ?_
  · exact ⟨sound, brings_none market.ledger⟩
  · intro state kept account _
    exact ⟨adjustTurn_sound context account kept.1 state.2, adjustTurn_brings positive account kept.1 kept.2⟩

theorem openTurn_brings (context : Context ℝ) (account : AccountId) {outcome : Issuance ℝ}
    (brings : Brings held market.ledger outcome) :
    Brings held (openTurn context (market, outcome) account).1.ledger
      (openTurn context (market, outcome) account).2 := by
  obtain ⟨total, added⟩ := brings
  unfold openTurn
  dsimp only
  split
  · exact ⟨total, added⟩
  · rename_i accepted
    obtain ⟨positive, opened⟩ := openTrove_collateral accepted
    exact ⟨by dsimp only; linarith, add_nonneg added positive.le⟩

theorem openTroves_brings (context : Context ℝ) (market : Market ℝ) :
    Brings market.ledger.totalCollateral (openTroves context market).1.ledger (openTroves context market).2 := by
  refine List.foldlRecOn _ (openTurn context)
    (motive := fun state => Brings market.ledger.totalCollateral state.1.ledger state.2) ?_ ?_
  · exact brings_none market.ledger
  · intro state brings account _
    exact openTurn_brings context account brings

theorem openArbitrageTrove_brings (context : Context ℝ) (market : Market ℝ) (account : AccountId) (shortfall : ℝ) :
    Brings market.ledger.totalCollateral (openArbitrageTrove context market account shortfall).2.1.ledger
      (openArbitrageTrove context market account shortfall).2.2 := by
  unfold openArbitrageTrove
  dsimp only
  split
  · exact ⟨(brings_none market.ledger).total, le_rfl⟩
  · rename_i accepted
    obtain ⟨positive, opened⟩ := openTrove_collateral accepted
    exact ⟨by dsimp only; linarith, by dsimp only; linarith⟩

/-- The whale posts what it counts, and counts nothing negative for a shortfall. -/
theorem whaleDraw_collateral (context : Context ℝ) (market : Market ℝ) (shortfall : ℝ) :
    (whaleDraw context market shortfall).2.1.ledger.totalCollateral ≤
        market.ledger.totalCollateral + (whaleDraw context market shortfall).2.2.collateralAdded ∧
      (0 < context.collateralPrice → 0 ≤ context.parameters.liquidity.arbitrageCr → 0 ≤ shortfall →
        0 ≤ (whaleDraw context market shortfall).2.2.collateralAdded) := by
  unfold whaleDraw
  dsimp only
  split
  · exact ⟨(add_zero _).ge, fun _ _ _ => le_rfl⟩
  · rename_i accepted
    have changed := adjustTrove_collateral accepted
    refine ⟨by dsimp only; linarith, ?_⟩
    intro positive ratio short
    exact (div_nonneg (mul_nonneg ratio short) positive.le).trans_eq (zero_add _).symm

/-- Above a ceiling less circulates than is in demand at the ceiling. -/
theorem circulating_lt_of_above {circulating demand ceiling elasticity : ℝ} (demand_pos : 0 < demand)
    (ceiling_pos : 0 < ceiling) (elastic : elasticity < 0)
    (above : ceiling < clearingPrice circulating demand elasticity) :
    circulating < demand * Number.pow ceiling elasticity := by
  unfold clearingPrice at above
  rw [Number.max_real, Number.pow_real] at above
  rw [Number.pow_real]
  have offered : 0 < max circulating tolerance := lt_max_of_lt_right Number.tolerance_pos
  have power := Real.rpow_lt_rpow_of_neg ceiling_pos above elastic
  rw [← Real.rpow_mul (div_pos offered demand_pos).le, one_div_mul_cancel elastic.ne, Real.rpow_one,
    div_lt_iff₀' demand_pos] at power
  exact (le_max_left _ _).trans_lt power

theorem defendCeiling_collateral (context : Context ℝ) (market : Market ℝ) (pool : ℝ) {outcome : PegOutcome ℝ}
    (start : outcome.issuance = Issuance.none) :
    (defendCeiling context market pool outcome).1.ledger.totalCollateral ≤
      market.ledger.totalCollateral + (defendCeiling context market pool outcome).2.issuance.collateralAdded := by
  unfold defendCeiling
  dsimp only
  split
  · cases market.roster.idleBorrowers with
    | nil => exact (whaleDraw_collateral context market _).1
    | cons account rest => exact (openArbitrageTrove_brings context market account _).total
  · rw [start]
    exact (add_zero _).ge

/-- At a positive demand the defence of the ceiling counts nothing negative. -/
theorem defendCeiling_added (positive : 0 < context.collateralPrice)
    (ratio : 0 ≤ context.parameters.liquidity.arbitrageCr) (ceiling : 0 < context.parameters.liquidity.ceiling)
    (elastic : context.parameters.liquidity.elasticity < 0) (rate : 0 ≤ market.ledger.borrowingRate)
    {pool : ℝ} {outcome : PegOutcome ℝ} (start : outcome.issuance = Issuance.none)
    (clears : outcome.stablePrice = clearingPrice (market.ledger.supply - pool) outcome.liquidityDemand
      context.parameters.liquidity.elasticity)
    (demand : 0 < outcome.liquidityDemand) :
    0 ≤ (defendCeiling context market pool outcome).2.issuance.collateralAdded := by
  unfold defendCeiling
  dsimp only
  split
  · rename_i above
    cases market.roster.idleBorrowers with
    | nil =>
      rw [clears] at above
      have short := circulating_lt_of_above demand (add_pos_of_pos_of_nonneg ceiling rate) elastic above
      exact (whaleDraw_collateral context market _).2 positive ratio (by linarith)
    | cons account rest => exact (openArbitrageTrove_brings context market account _).added
  · rw [start]
    exact le_rfl

theorem defendCeiling_outcome (context : Context ℝ) (market : Market ℝ) (pool : ℝ) (outcome : PegOutcome ℝ) :
    (defendCeiling context market pool outcome).2.redeemed = outcome.redeemed ∧
      (defendCeiling context market pool outcome).2.liquidityDemand = outcome.liquidityDemand := by
  unfold defendCeiling
  dsimp only
  split <;> exact ⟨rfl, rfl⟩

/-- The defence of the floor takes collateral from the troves, and redeems nothing
    negative. -/
theorem defendFloor_collateral (context : Context ℝ) (sound : market.Sound size) (pool supply : ℝ)
    {outcome : PegOutcome ℝ} (start : 0 ≤ outcome.redeemed) :
    (defendFloor context market pool supply outcome).1.ledger.totalCollateral ≤ market.ledger.totalCollateral ∧
      0 ≤ (defendFloor context market pool supply outcome).2.redeemed ∧
      (defendFloor context market pool supply outcome).2.issuance = outcome.issuance ∧
      (defendFloor context market pool supply outcome).2.liquidityDemand = outcome.liquidityDemand := by
  unfold defendFloor
  dsimp only
  split
  · split
    · split
      · rename_i refusal left refused
        exact ⟨sound.wellFormed.secured.redeems_collateral (redeems_of_redeem refused), start, rfl, rfl⟩
      · rename_i redemption left accepted
        have redeems := redeems_of_redeem accepted
        refine ⟨sound.wellFormed.secured.redeems_collateral redeems, ?_, rfl, rfl⟩
        cases redeems with
        | accepted walked something => exact (Number.tolerance_pos.trans (not_le.mp something)).le
    · exact ⟨le_rfl, start, rfl, rfl⟩
  · exact ⟨le_rfl, start, rfl, rfl⟩

theorem stabilizePrice_collateral (context : Context ℝ) (sound : market.Sound size) (previousDemand : ℝ) :
    (stabilizePrice context market previousDemand).1.ledger.totalCollateral ≤
        market.ledger.totalCollateral + (stabilizePrice context market previousDemand).2.issuance.collateralAdded ∧
      0 ≤ (stabilizePrice context market previousDemand).2.redeemed ∧
      (0 < context.collateralPrice → 0 ≤ context.parameters.liquidity.arbitrageCr →
        0 < context.parameters.liquidity.ceiling → context.parameters.liquidity.elasticity < 0 →
        0 < (stabilizePrice context market previousDemand).2.liquidityDemand →
        0 ≤ (stabilizePrice context market previousDemand).2.issuance.collateralAdded) := by
  unfold stabilizePrice
  dsimp only
  generalize start_eq : (PegOutcome.mk (clearingPrice _ _ _) _ _ _ _ _ _ : PegOutcome ℝ) = start
  have issuance : start.issuance = Issuance.none := by rw [← start_eq]
  have redeemed : start.redeemed = 0 := by rw [← start_eq]
  have clears : start.stablePrice = clearingPrice (market.ledger.supply - market.ledger.totalDeposits)
      start.liquidityDemand context.parameters.liquidity.elasticity := by rw [← start_eq]
  have raised := defendCeiling_collateral context market market.ledger.totalDeposits issuance
  have kept := defendCeiling_sound context sound market.ledger.totalDeposits start
  obtain ⟨sameRedeemed, sameDemand⟩ := defendCeiling_outcome context market market.ledger.totalDeposits start
  obtain ⟨taken, redeems, same, demanded⟩ := defendFloor_collateral context kept market.ledger.totalDeposits
    market.ledger.supply (sameRedeemed.trans redeemed).ge
  rw [same, demanded, sameDemand]
  refine ⟨taken.trans raised, redeems, ?_⟩
  intro positive ratio ceiling elastic demand
  have rate := sound.wellFormed.secured.borrowingRate_nonneg
  exact defendCeiling_added positive ratio ceiling elastic rate issuance clears demand

end Market
end Stablecoin
