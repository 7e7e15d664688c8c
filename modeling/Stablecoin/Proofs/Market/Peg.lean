import Stablecoin.Proofs.Ledger.Gains
import Stablecoin.Proofs.Market.Liquidations

namespace Stablecoin
open Ledger
variable {α : Type} [Number α]

/-- The price at which the stablecoin outside the pool of the ledger meets the demand. -/
def Ledger.marketPrice (ledger : Ledger α) (demand elasticity : α) : α :=
  clearingPrice (ledger.supply - ledger.totalDeposits) demand elasticity

/-- The reported price is the price of the market that is left, the pool is as large as it
    was, and the active accounts changed by those that are reported. -/
structure Market.Stabilizes (context : Context α) (market : Market α) (outcome : PegOutcome α) (left : Market α) :
    Prop where
  stablePrice : outcome.stablePrice =
    left.ledger.marketPrice outcome.liquidityDemand context.parameters.liquidity.elasticity
  totalDeposits : left.ledger.totalDeposits = market.ledger.totalDeposits
  isActive : ∀ id, left.roster.IsActive id ↔
    (market.roster.IsActive id ∨ id ∈ outcome.issuance.accounts) ∧ id ∉ outcome.redeemedOut

/-- How an attempt to issue ends: refused, with an idle account that has opened a trove, or
    with a trove that more was drawn on. -/
inductive Market.Issues (market : Market α) : Bool → Market α → List AccountId → Prop
  | refused : Issues market false market []
  | opened {account : AccountId} {collateral netDebt : α} {change : TroveChange α} {left : Ledger α}
      (idle : market.roster.idle.Has account)
      (opening : Opening market.ledger account collateral netDebt change left) (targetCr inattention : α)
      (period : Nat) :
      Issues market true ⟨left, market.roster.activate account targetCr inattention period⟩ [account]
  | drawn {account : AccountId} {collateralDelta debtDelta : α} {trove : Trove α} {change : TroveChange α}
      {left : Ledger α} (adjustment : Adjustment market.ledger account collateralDelta debtDelta trove change left) :
      Issues market true { market with ledger := left } []

/-- How the defence of the ceiling ends: without an attempt to issue, or with one that gives
    a new price if it was accepted. -/
inductive Market.DefendsCeiling (context : Context α) (market : Market α) (pool : α) (outcome : PegOutcome α) :
    PegOutcome α → Market α → Prop
  | unneeded : DefendsCeiling context market pool outcome outcome market
  | attempted {issued : Bool} {left : Market α} {issuance : Issuance α}
      (issues : Issues market issued left issuance.accounts) :
      DefendsCeiling context market pool outcome
        { outcome with
          issuance
          stablePrice :=
            if issued then clearingPrice (left.ledger.supply - pool) outcome.liquidityDemand
              context.parameters.liquidity.elasticity
            else outcome.stablePrice }
        left

/-- How the defence of the floor ends: without a redemption, with a refused one, or with an
    accepted one after which the accounts that it closed are deactivated. -/
inductive Market.DefendsFloor (context : Context α) (market : Market α) (pool : α) (outcome : PegOutcome α) :
    PegOutcome α → Market α → Prop
  | unneeded : DefendsFloor context market pool outcome outcome market
  | refused {amount : α} {refusal : Refusal α} {left : Ledger α}
      (redeems : Redeems market.ledger whale amount (.error refusal) left) :
      DefendsFloor context market pool outcome { outcome with redemptionTally := outcome.redemptionTally.reject }
        { market with ledger := left }
  | accepted {amount : α} {redemption : Redemption α} {left : Ledger α}
      (redeems : Redeems market.ledger whale amount (.ok redemption) left) :
      DefendsFloor context market pool outcome
        { outcome with
          redeemed := redemption.redeemed
          redemptionFee := redemption.fee * context.collateralPrice
          redeemedOut := redemption.closed
          redemptionTally := outcome.redemptionTally.accept
          stablePrice := clearingPrice (left.supply - pool) outcome.liquidityDemand
            context.parameters.liquidity.elasticity }
        ⟨left, redemption.closed.foldl (fun roster account => roster.deactivate account context.period) market.roster⟩

namespace Ledger

theorem totalDeposits_of_deposits {ledger left : Ledger α} (same : left.deposits = ledger.deposits) :
    left.totalDeposits = ledger.totalDeposits := by
  rw [totalDeposits, same, totalDeposits]

/-- A redemption leaves the pool alone, whatever it answers. -/
theorem redeems_totalDeposits {ledger left : Ledger α} {redeemer : AccountId} {amount : α}
    {result : Except (Refusal α) (Redemption α)} (redeems : Redeems ledger redeemer amount result left) :
    left.totalDeposits = ledger.totalDeposits :=
  totalDeposits_of_deposits (congrArg Prod.fst (redeems_poolBooks redeems))

end Ledger

namespace Market
variable {context : Context α} {market mid left : Market α} {outcome last : PegOutcome α} {issued : Bool}
  {accounts : List AccountId} {pool : α}

theorem openArbitrageTrove_issues (context : Context α) {account : AccountId} (idle : market.roster.idle.Has account)
    (shortfall : α) :
    Issues market (openArbitrageTrove context market account shortfall).1
      (openArbitrageTrove context market account shortfall).2.1
      (openArbitrageTrove context market account shortfall).2.2.accounts := by
  unfold openArbitrageTrove
  dsimp only
  split
  · exact .refused
  · exact .opened idle (openTrove_ok (by assumption)) _ _ _

theorem whaleDraw_issues (context : Context α) (market : Market α) (shortfall : α) :
    Issues market (whaleDraw context market shortfall).1 (whaleDraw context market shortfall).2.1
      (whaleDraw context market shortfall).2.2.accounts := by
  unfold whaleDraw
  dsimp only
  split
  · exact .refused
  · rename_i accepted
    obtain ⟨trove, adjustment⟩ := adjustTrove_ok accepted
    exact .drawn adjustment

theorem Issues.totalDeposits (issues : Issues market issued left accounts) :
    left.ledger.totalDeposits = market.ledger.totalDeposits := by
  apply totalDeposits_of_deposits
  cases issues with
  | refused => rfl
  | opened idle opening => rw [opening.left_eq]
  | drawn adjustment => rw [adjustment.left_eq]

theorem Issues.refused_eq (issues : Issues market issued left accounts) (refused : ¬ issued = true) :
    left = market := by
  cases issues with
  | refused => rfl
  | opened => exact absurd rfl refused
  | drawn => exact absurd rfl refused

theorem Issues.division (issues : Issues market issued left accounts) (division : market.roster.Division) :
    left.roster.Division := by
  cases issues with
  | refused => exact division
  | opened => exact division.activate _ _ _ _
  | drawn => exact division

theorem Issues.isActive (issues : Issues market issued left accounts) (division : market.roster.Division)
    (id : AccountId) : left.roster.IsActive id ↔ market.roster.IsActive id ∨ id ∈ accounts := by
  cases issues with
  | refused => simp
  | opened idle => rw [Roster.isActive_activate division idle, List.mem_singleton, or_comm]
  | drawn => simp

theorem defendCeiling_defends (context : Context α) (market : Market α) (pool : α) (outcome : PegOutcome α) :
    DefendsCeiling context market pool outcome (defendCeiling context market pool outcome).2
      (defendCeiling context market pool outcome).1 := by
  unfold defendCeiling
  dsimp only
  split
  · split
    · rename_i account rest listed
      have idle : account ∈ market.roster.idleBorrowers := listed ▸ List.mem_cons_self
      exact .attempted (openArbitrageTrove_issues context (List.mem_filter.mp idle).1 _)
    · exact .attempted (whaleDraw_issues context market _)
  · exact .unneeded

theorem defendFloor_defends (context : Context α) (market : Market α) (pool supply : α) (outcome : PegOutcome α) :
    DefendsFloor context market pool outcome (defendFloor context market pool supply outcome).2
      (defendFloor context market pool supply outcome).1 := by
  unfold defendFloor
  dsimp only
  split
  · split
    · split
      · exact .refused (redeems_of_redeem (by assumption))
      · exact .accepted (redeems_of_redeem (by assumption))
    · exact .unneeded
  · exact .unneeded

/-- The outcome of clearing the market before anything is issued or redeemed. -/
def cleared (context : Context α) (market : Market α) (previousDemand : α) : PegOutcome α :=
  let liquidity := context.parameters.liquidity
  let shock := normalShock liquidity.shockSd context.streams .liquidityShock context.period
  let demand := previousDemand * liquidity.drift * (1 + shock)
  { stablePrice := market.ledger.marketPrice demand liquidity.elasticity
    liquidityDemand := demand
    redeemed := 0
    redemptionFee := 0
    redeemedOut := []
    redemptionTally := {}
    issuance := Issuance.none }

/-- What the defence of the ceiling leaves to that of the floor. -/
def capped (context : Context α) (market : Market α) (previousDemand : α) : Market α × PegOutcome α :=
  defendCeiling context market market.ledger.totalDeposits (cleared context market previousDemand)

theorem capped_defends (context : Context α) (market : Market α) (previousDemand : α) :
    DefendsCeiling context market market.ledger.totalDeposits (cleared context market previousDemand)
      (capped context market previousDemand).2 (capped context market previousDemand).1 :=
  defendCeiling_defends context market _ _

theorem stabilizePrice_defends (context : Context α) (market : Market α) (previousDemand : α) :
    DefendsFloor context (capped context market previousDemand).1 market.ledger.totalDeposits
      (capped context market previousDemand).2 (stabilizePrice context market previousDemand).2
      (stabilizePrice context market previousDemand).1 :=
  defendFloor_defends context _ _ _ _

/-- A market at its price, before anything was redeemed. -/
structure Capped (context : Context α) (market : Market α) (outcome : PegOutcome α) (mid : Market α) : Prop
    extends Stabilizes context market outcome mid where
  division : mid.roster.Division
  redeemedOut : outcome.redeemedOut = []
  redemptionTally : outcome.redemptionTally = {}

theorem DefendsCeiling.capped {previousDemand : α} (division : market.roster.Division)
    (defends : DefendsCeiling context market market.ledger.totalDeposits (cleared context market previousDemand)
      outcome mid) :
    Capped context market outcome mid := by
  cases defends with
  | unneeded =>
    exact
      { stablePrice := rfl
        totalDeposits := rfl
        isActive := fun id => by simp [cleared, Issuance.none]
        division
        redeemedOut := rfl
        redemptionTally := rfl }
  | @attempted issued left issuance issues =>
    refine
      { stablePrice := ?_
        totalDeposits := issues.totalDeposits
        isActive := fun id => ?_
        division := issues.division division
        redeemedOut := rfl
        redemptionTally := rfl }
    · dsimp only
      split
      · rw [Ledger.marketPrice, issues.totalDeposits]
      · -- Nothing was issued, and the market still clears at its first price.
        rename_i refused
        rw [issues.refused_eq refused]
        rfl
    · simp [cleared, issues.isActive division id]

theorem Capped.stabilizes_iff (ceiling : Capped context market outcome mid)
    (defends : DefendsFloor context mid market.ledger.totalDeposits outcome last left) :
    Stabilizes context market last left ↔
      last.redemptionTally.rejected = 0 ∨
        left.ledger.marketPrice last.liquidityDemand context.parameters.liquidity.elasticity =
          mid.ledger.marketPrice last.liquidityDemand context.parameters.liquidity.elasticity := by
  cases defends with
  | unneeded => exact iff_of_true ceiling.toStabilizes (.inl (by rw [ceiling.redemptionTally]))
  | refused redeems =>
    -- The outcome keeps the price from before, so the ledger that the refusal left decides.
    constructor
    · intro stabilizes
      exact .inr (stabilizes.stablePrice.symm.trans ceiling.stablePrice)
    · rintro (none | same)
      · exact absurd none (Nat.succ_ne_zero _)
      · exact
          { stablePrice := ceiling.stablePrice.trans same.symm
            totalDeposits := (redeems_totalDeposits redeems).trans ceiling.totalDeposits
            isActive := ceiling.isActive }
  | @accepted amount redemption left redeems =>
    have pool := (redeems_totalDeposits redeems).trans ceiling.totalDeposits
    have nothing : ∀ id, id ∉ outcome.redeemedOut := by simp [ceiling.redeemedOut]
    refine iff_of_true ?_ (.inl ?_)
    · exact
        { stablePrice := by rw [Ledger.marketPrice, pool]
          totalDeposits := pool
          isActive := fun id => by
            rw [Roster.isActive_deactivateAll ceiling.division, ceiling.isActive, and_iff_left (nothing id)] }
    · simp only [ceiling.redemptionTally, Tally.accept]

theorem Issues.wellFormed {market left : Market ℝ} (issues : Issues market issued left accounts)
    (wellFormed : market.ledger.WellFormed) : left.ledger.WellFormed := by
  cases issues with
  | refused => exact wellFormed
  | opened idle opening => exact opening.wellFormed wellFormed
  | drawn adjustment => exact adjustment.wellFormed wellFormed

theorem DefendsCeiling.wellFormed {context : Context ℝ} {market mid : Market ℝ} {pool : ℝ} {outcome last : PegOutcome ℝ}
    (defends : DefendsCeiling context market pool outcome last mid) (wellFormed : market.ledger.WellFormed) :
    mid.ledger.WellFormed := by
  cases defends with
  | unneeded => exact wellFormed
  | attempted issues => exact issues.wellFormed wellFormed

/-- A refused redemption leaves the ledger as it was. -/
theorem DefendsFloor.settled {context : Context ℝ} {mid left : Market ℝ} {pool : ℝ} {outcome last : PegOutcome ℝ}
    (defends : DefendsFloor context mid pool outcome last left) (wellFormed : mid.ledger.WellFormed)
    (none : outcome.redemptionTally.rejected = 0) :
    last.redemptionTally.rejected = 0 ∨ left.ledger = mid.ledger := by
  cases defends with
  | unneeded => exact .inl none
  | refused redeems => exact .inr (redeems_refused wellFormed redeems)
  | accepted redeems => exact .inl none

/-- Over exact numbers the price of the market is not moved by a refused redemption. -/
theorem stabilizePrice_settled (context : Context ℝ) {market : Market ℝ} (wellFormed : market.ledger.WellFormed)
    (division : market.roster.Division) (previousDemand : ℝ) :
    (stabilizePrice context market previousDemand).2.redemptionTally.rejected = 0 ∨
      (stabilizePrice context market previousDemand).1.ledger = (capped context market previousDemand).1.ledger := by
  have ceiling := capped_defends context market previousDemand
  refine (stabilizePrice_defends context market previousDemand).settled (ceiling.wellFormed wellFormed) ?_
  rw [(ceiling.capped division).redemptionTally]

end Market
end Stablecoin
