import Stablecoin.Proofs.Run.Quiet

namespace Stablecoin

/-- Nothing moves in the one period but what the market for the stablecoin brings about, and
    the whale leaves the stability pool empty. -/
structure Parameters.Unfunded (parameters : Parameters ℝ) : Prop where
  collateral : parameters.collateral = (Parameters.quiet : Parameters ℝ).collateral
  borrowing : parameters.borrowing = (Parameters.quiet : Parameters ℝ).borrowing
  stability : parameters.stability = (Parameters.quiet : Parameters ℝ).stability
  seed : parameters.bootstrap.stabilityInitial = 0
  periods : parameters.periods = 1

namespace Simulation
open Ledger
variable {sim : Simulation ℝ} {parameters : Parameters ℝ} {ledger : Ledger ℝ}

/-- Before its only period the whale has opened its trove, and left that ledger. -/
structure Outset (parameters : Parameters ℝ) (ledger : Ledger ℝ) (sim : Simulation ℝ) : Prop where
  unfunded : parameters.Unfunded
  single : ledger.troves.size ≤ 1
  empty : ledger.totalDeposits = 0
  parameters_eq : sim.parameters = parameters
  market : ∃ ratio, sim.market = ⟨ledger, (Roster.ofSize parameters.accounts).activate whale ratio Number.infinity 0⟩
  state : sim.state = openingState parameters ledger.supply
  price : sim.priceIn 1 = 2000.0
  naturalRate : sim.naturalRates[1]? = some (0.2 : ℝ)
  running : sim.phase = .running
  first : sim.nextPeriod = 1
  periods : sim.periods = 1

theorem bootstrap_outset (made : Simulation.new parameters = .ok sim) (unfunded : parameters.Unfunded)
    {change : TroveChange ℝ}
    (opens : ((Ledger.new parameters.terms 2000.0).setPrice 2000.0).openTrove whale parameters.bootstrap.whaleCollateral
      parameters.bootstrap.whaleDebt = .ok (change, ledger))
    (single : ledger.troves.size ≤ 1) (empty : ledger.totalDeposits = 0) (circulates : 0 < ledger.supply) :
    sim.bootstrap.2.Outset parameters ledger := by
  have initial : parameters.collateral.initial = 2000.0 := by
    rw [unfunded.collateral]
    rfl
  obtain ⟨_, same, unstarted, start, market⟩ := new_ok made
  obtain ⟨periods, _, _, first⟩ := new_path made
  obtain ⟨price, rate⟩ := new_still made (by norm_num [unfunded.collateral, Parameters.quiet])
    (by norm_num [unfunded.collateral, Parameters.quiet]) (by norm_num [unfunded.stability, Parameters.quiet])
    (by norm_num [unfunded.stability, Parameters.quiet, Parameters.defaultStability]) unfunded.periods.ge
  have boots : (sim.market.ledger.setPrice (sim.collateralPrices[0]?.getD 0)).openTrove whale
      sim.parameters.bootstrap.whaleCollateral sim.parameters.bootstrap.whaleDebt = .ok (change, ledger) := by
    rw [market, start, same, initial]
    exact opens
  have unseeded : ¬ 0 < sim.parameters.bootstrap.stabilityInitial := by
    rw [same, unfunded.seed]
    exact lt_irrefl 0
  have outside : ledger.supply - ledger.totalDeposits = ledger.supply := by rw [empty, sub_zero]
  obtain ⟨ratio, booted⟩ := bootstrap_eq unstarted boots (if_neg unseeded) (by rw [outside]; exact circulates.not_ge)
  rw [outside, same, market] at booted
  rw [booted]
  exact
    { unfunded, single, empty
      parameters_eq := rfl
      market := ⟨ratio, rfl⟩
      state := rfl
      price := (congrArg (Option.getD · 0) price).trans initial
      naturalRate := by rw [rate, unfunded.stability]; rfl
      running := rfl
      first
      periods := periods.trans unfunded.periods }

namespace Outset

/-- The pool stays empty, for it returns no more than the natural rate. -/
theorem settled (outset : sim.Outset parameters ledger) (price : ℝ) :
    poolTarget (sim.context 1 price) 0 (sim.context 1 price).parameters.stability.initialReturn = 0 := by
  simp [poolTarget, context, outset.parameters_eq, outset.unfunded.stability, outset.naturalRate, Parameters.quiet,
    Parameters.defaultStability]

/-- The market clears, and nothing else happens. -/
theorem worked (outset : sim.Outset parameters ledger) :
    ∃ funded, GainsApart (ledger.setPrice 2000.0) funded ∧
      (sim.work 1).1 = (stabilizePrice (sim.context 1 2000.0) ⟨funded, sim.market.roster⟩ sim.state.liquidityDemand).1 ∧
      (sim.work 1).2.peg =
        (stabilizePrice (sim.context 1 2000.0) ⟨funded, sim.market.roster⟩ sim.state.liquidityDemand).2 ∧
      (sim.work 1).2.Alone := by
  obtain ⟨ratio, market⟩ := outset.market
  have alone : sim.market.roster.activeBorrowers = [] := by
    rw [market]
    exact activeBorrowers_whale _ _ _ _
  have unopened : sim.parameters.borrowing.initialOpen = 0 := by
    norm_num [outset.parameters_eq, outset.unfunded.borrowing, Parameters.quiet]
  obtain ⟨given, rewarded, funded, deposits, left, peg, nobody⟩ :=
    sim.work_alone (by rw [market]; exact outset.single) alone unopened
  rw [outset.price] at rewarded deposits left peg
  have empty : given.totalDeposits = 0 := by
    obtain ⟨_, _, _, rfl⟩ := rewarded
    rw [market]
    exact outset.empty
  have claimed : GainsApart given funded := by
    rw [deposits]
    refine @Market.updateDeposits_settled (sim.context 1 2000.0) ⟨given, sim.market.roster⟩ _ ?_
    dsimp only
    rw [empty]
    exact outset.settled _
  refine ⟨funded, ?_, left, peg, nobody⟩
  rw [market] at rewarded
  exact rewarded.trans claimed

end Outset

end Simulation
end Stablecoin
