import Stablecoin.Proofs.Market.Floor

namespace Stablecoin
open Ledger

namespace Market
section
variable {α : Type} [Number α] {market : Market α}

/-- The step leaves the market at the price that it reports, with the pool as it was and the
    active accounts changed by those that it reports, exactly if no redemption is refused or
    the refused one leaves the price where it was. -/
theorem stabilizePrice_stabilizes_iff (context : Context α) (division : market.roster.Division) (previousDemand : α) :
    let left := stabilizePrice context market previousDemand
    Stabilizes context market left.2 left.1 ↔
      left.2.redemptionTally.rejected = 0 ∨
        left.1.ledger.marketPrice left.2.liquidityDemand context.parameters.liquidity.elasticity =
          (capped context market previousDemand).1.ledger.marketPrice left.2.liquidityDemand
            context.parameters.liquidity.elasticity := by
  intro left
  have ceiling := (capped_defends context market previousDemand).capped division
  exact ceiling.stabilizes_iff (stabilizePrice_defends context market previousDemand)

end

/-- A slim market issues a trove above the ceiling and redeems below the floor, and is left at
    the price that is reported. -/
theorem slim_stabilizes :
    let market : Market ℝ := ⟨(new slimParameters.terms 2000.0).after [.openTrove whale 10.0 2000.0], slimRoster⟩
    let issued := stabilizePrice slimPeriod market 2225.0
    let redeemed := stabilizePrice slimPeriod market 1999.95
    market.roster.Division ∧
      (issued.2.issuance.accounts = [1] ∧ Stabilizes slimPeriod market issued.2 issued.1) ∧
      redeemed.2.redeemed = 200 ∧ Stabilizes slimPeriod market redeemed.2 redeemed.1 := by
  intro market issued redeemed
  have slim : Slim slimPeriod market := slim_slim slimRoster
  have division : market.roster.Division := (Roster.ofSize_division 2).activate whale 9.0 1.0 0
  obtain ⟨_, _, issuance, -, -, accounts, -, issues⟩ := slim.issued rfl (by norm_num : (1.005 : ℝ) * 2210 < 2225.0)
    (by norm_num : 1800 = max (((2225.0 : ℝ) / 1.005 - 2410) / 1.005) 1800) (by norm_num)
  obtain ⟨_, _, redeems, -, amount, -, tally, -⟩ := slim.redeemed
  refine ⟨division, ⟨(congrArg (·.2.issuance.accounts) issues).trans accounts, ?_⟩,
    (congrArg (·.2.redeemed) redeems).trans amount, ?_⟩
  · exact (stabilizePrice_stabilizes_iff slimPeriod division 2225.0).mpr (.inl (by rw [issues]))
  · exact (stabilizePrice_stabilizes_iff slimPeriod division 1999.95).mpr (.inl (by rw [redeems, tally]))

/-- Over exact numbers and conventional terms the step always leaves the market at the price
    that it reports, whatever calls led to the ledger. -/
theorem stabilizePrice_exact {p : Parameters ℝ} (valid : p.Valid) (conventional : p.terms.Conventional) (price : ℝ)
    (calls : List (Call ℝ)) {roster : Roster ℝ} (division : roster.Division) (context : Context ℝ)
    (previousDemand : ℝ) :
    let market : Market ℝ := ⟨(new p.terms price).after calls, roster⟩
    let left := stabilizePrice context market previousDemand
    Stabilizes context market left.2 left.1 := by
  intro market left
  have wellFormed : market.ledger.WellFormed := after_wellFormed (valid.admissible conventional) price calls
  have ceiling := (capped_defends context market previousDemand).capped division
  refine (ceiling.stabilizes_iff (stabilizePrice_defends context market previousDemand)).mpr ?_
  refine (stabilizePrice_settled context wellFormed division previousDemand).imp id fun same => ?_
  rw [same]

/-- The whale, with twice the debt of the default bundle, and two other borrowers. -/
def crowd : Ledger Float :=
  (new Parameters.defaultTerms 2000.0).after
    [.openTrove whale 100000.0 20000000.0, .openTrove 1 5.0 2000.1, .openTrove 2 6.0 2000.1]

def crowdRoster : Roster Float :=
  (((Roster.ofSize 3).activate whale 9.95 0.1 0).activate 1 4.5 0.1 0).activate 2 5.4 0.1 0

/-- A period of the bundle without shocks, with a demand of unit elasticity. -/
def crowdPeriod : Context Float where
  parameters :=
    { Parameters.quiet with
      accounts := 3
      liquidity := { (Parameters.quiet : Parameters Float).liquidity with elasticity := -1.0 } }
  streams := ⟨42⟩
  traits := ⟨⟨10.0, 5.0⟩, .gamma ⟨8.0, 2.0⟩, ⟨4.0, 0.08⟩, 1.1, 0.1, 1.1⟩
  period := 1
  collateralPrice := 2000.0
  stablePrice := 1.0
  rewardPrice := 0.4
  naturalRate := 0.2

/-- Double precision in which a power of minus one is the reciprocal. The powers of the
    platform cannot be evaluated in a proof. -/
@[reducible]
def reciprocals : Number Float :=
  { (inferInstance : Number Float) with pow := fun x y => if y == -1.0 then 1.0 / x else x.pow y }

/-- The whale redeems what it holds. What is taken from the three troves adds up to more
    than that, beyond the tolerance, and is refused: two troves are gone by then, and the
    supply has fallen by their gas reserves. So the price that the step reports is not that of
    the market that it leaves, in which two active accounts are without a trove. -/
theorem crowd_overdrawn :
    ((crowd.redeem whale (crowd.balance whale)).1.isOk = false ∧
        (crowd.redeem whale (crowd.balance whale)).2.troves.accounts = [whale] ∧
        (crowd.redeem whale (crowd.balance whale)).2.supply < crowd.supply) ∧
      letI := reciprocals
      let market : Market Float := ⟨crowd, crowdRoster⟩
      let left := stabilizePrice crowdPeriod market 1000.0
      crowdPeriod.parameters.validate.isOk ∧ left.2.redemptionTally = ⟨0, 1⟩ ∧
        left.1.roster.active = [whale, 1, 2] ∧ left.1.ledger.troves.accounts = [whale] ∧
        ¬ Stabilizes crowdPeriod market left.2 left.1 := by
  refine ⟨by decide +kernel, by decide +kernel, by decide +kernel, by decide +kernel, by decide +kernel,
    fun stabilizes => ?_⟩
  have price := congrArg Float.toBits (@Stabilizes.stablePrice _ reciprocals _ _ _ _ stabilizes)
  revert price
  decide +kernel

end Market
end Stablecoin
