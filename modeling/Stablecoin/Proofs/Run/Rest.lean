import Stablecoin.Proofs.Market.Rest
import Stablecoin.Proofs.Run.Agreement
import Stablecoin.Proofs.Run.Passing

namespace Stablecoin

/-- What was added, liquidated and redeemed over all periods. -/
def MarketState.totals (state : MarketState ℝ) : ℝ × ℝ × ℝ :=
  (state.totalCollateralAdded, state.totalCollateralLiquidated, state.totalStableRedeemed)

/-- The report of a period in which no trove was touched. -/
structure Report.Idle (report : Report ℝ) : Prop where
  liquidated : report.liquidated = []
  closed : report.closed = []
  opened : report.opened = []
  redeemedOut : report.redeemedOut = []
  adjusted : report.adjusted = 0

namespace Simulation
open Ledger
open Number (tolerance tolerance_pos)
variable {sim : Simulation ℝ} {size : Nat}

/-- What no call changes of a run. -/
def settings (sim : Simulation ℝ) : Parameters ℝ × Nat × Array ℝ := (sim.parameters, sim.periods, sim.collateralPrices)

theorem advance_settings (sim : Simulation ℝ) (period : Nat) : (sim.advance period).2.settings = sim.settings :=
  advance_frame (fun _ _ _ => rfl) period

/-- Between two periods the market is at rest. -/
structure Rests (sim : Simulation ℝ) : Prop where
  calm : sim.parameters.Calm
  par : sim.state.stablePrice = 1
  alone : sim.market.roster.activeBorrowers = []
  numbered : sim.market.roster.Numbered
  single : sim.market.ledger.troves.size ≤ 1
  pool : tolerance < sim.market.ledger.totalDeposits
  circulates : tolerance ≤ sim.state.liquidityDemand
  cleared : sim.market.ledger.supply - sim.market.ledger.totalDeposits = sim.state.liquidityDemand
  covered : sim.state.totalCollateralLiquidated ≤ sim.state.totalCollateralAdded

/-- The steps of a period before the market clears, if they find no trove to act on. -/
structure Steps.Alone (steps : Steps ℝ) : Prop where
  collateralLiquidated : steps.liquidated.collateralLiquidated = 0
  liquidated : steps.liquidated.liquidated = []
  closed : steps.closed.closed = []
  adjusted : steps.adjusted = Issuance.none
  opened : steps.opened = Issuance.none

/-- The steps of a period in which the stablecoin stays at par as well. -/
structure Steps.Idle (demand : ℝ) (steps : Steps ℝ) : Prop extends Steps.Alone steps where
  peg : steps.peg = Market.parOutcome demand

/-- With nobody but the whale in debt and no trove due to be opened, a period hands out the
    gains, moves the deposits and clears the market. -/
theorem runSteps_alone {context : Context ℝ} {market : Market ℝ} (few : market.ledger.troves.size ≤ 1)
    (alone : market.roster.activeBorrowers = [])
    (still : ∀ ledger, GainsApart market.ledger ledger →
      openTroves context ⟨ledger, market.roster⟩ = (⟨ledger, market.roster⟩, Issuance.none)) (state : MarketState ℝ) :
    ∃ ledger, GainsApart market.ledger ledger ∧
      ∃ funded, funded = (updateDeposits context ⟨ledger, market.roster⟩
          (runSteps context market state).2.liquidated.stabilityReturn).1 ∧
        (runSteps context market state).1 =
          (stabilizePrice context ⟨funded, market.roster⟩ state.liquidityDemand).1 ∧
        (runSteps context market state).2.peg =
          (stabilizePrice context ⟨funded, market.roster⟩ state.liquidityDemand).2 ∧
        (runSteps context market state).2.Alone := by
  unfold runSteps
  obtain ⟨rewarded, roster, nothing, nobody⟩ := Market.liquidate_resting context few state
  generalize liquidate context market state = done at rewarded roster nothing nobody ⊢
  obtain ⟨⟨ledger, _⟩, liquidations⟩ := done
  obtain rfl : _ = market.roster := roster
  obtain ⟨kept, closed⟩ := @Market.close_alone ⟨ledger, market.roster⟩ context alone
  dsimp only at rewarded nothing nobody ⊢
  generalize close context ⟨ledger, market.roster⟩ = done at kept closed ⊢
  obtain ⟨same, closures⟩ := done
  obtain rfl : same = ⟨ledger, market.roster⟩ := kept
  simp only [@Market.adjust_alone ⟨ledger, market.roster⟩ context alone, still ledger rewarded]
  exact ⟨ledger, rewarded, _, rfl, rfl, rfl, nothing, nobody, closed, rfl, rfl⟩

theorem runSteps_liquidated (context : Context ℝ) (market : Market ℝ) (state : MarketState ℝ) :
    (runSteps context market state).2.liquidated = (liquidate context market state).2 := rfl

/-- So it is in a first period in which the parameters let no trove open, and the pool has
    its initial return. -/
theorem work_alone (sim : Simulation ℝ) (few : sim.market.ledger.troves.size ≤ 1)
    (alone : sim.market.roster.activeBorrowers = []) (none : sim.parameters.borrowing.initialOpen = 0) :
    ∃ ledger, GainsApart (sim.market.ledger.setPrice (sim.priceIn 1)) ledger ∧
      ∃ funded, funded = (updateDeposits (sim.context 1 (sim.priceIn 1)) ⟨ledger, sim.market.roster⟩
          sim.parameters.stability.initialReturn).1 ∧
        (sim.work 1).1 = (stabilizePrice (sim.context 1 (sim.priceIn 1)) ⟨funded, sim.market.roster⟩
          sim.state.liquidityDemand).1 ∧
        (sim.work 1).2.peg = (stabilizePrice (sim.context 1 (sim.priceIn 1)) ⟨funded, sim.market.roster⟩
          sim.state.liquidityDemand).2 ∧
        (sim.work 1).2.Alone := by
  have first : (sim.context 1 (sim.priceIn 1)).period ≤ 1 := le_refl 1
  have initial : (sim.work 1).2.liquidated.stabilityReturn = sim.parameters.stability.initialReturn := by
    rw [work, runSteps_liquidated]
    exact Market.liquidate_first first _ _
  rw [← initial]
  unfold work
  exact @runSteps_alone (sim.context 1 (sim.priceIn 1))
    ⟨sim.market.ledger.setPrice (sim.priceIn 1), sim.market.roster⟩ few alone
    (fun _ _ => Market.openTroves_first first none) sim.state

theorem runSteps_resting {context : Context ℝ} {market : Market ℝ} {state : MarketState ℝ}
    (rest : market.AtRest context state.liquidityDemand) :
    GainsApart market.ledger (runSteps context market state).1.ledger ∧
      (runSteps context market state).1.roster = market.roster ∧
      Steps.Idle state.liquidityDemand (runSteps context market state).2 := by
  obtain ⟨ledger, rewarded, funded, deposits, left, peg, nobody⟩ :=
    runSteps_alone rest.single rest.alone (fun _ gains => Market.openTroves_resting (rest.gains gains)) state
  have claimed := Market.updateDeposits_resting (rest.gains rewarded)
    (runSteps context market state).2.liquidated.stabilityReturn
  rw [← deposits] at claimed
  rw [Market.stabilizePrice_resting (rest.gains (rewarded.trans claimed))] at left peg
  rw [left]
  exact ⟨rewarded.trans claimed, rfl, nobody, peg⟩

/-- The market before a period of a run at rest. -/
theorem Rests.atRest (rests : sim.Rests) (sound : sim.market.Sound size) (period : Nat) (price : ℝ) :
    { sim.market with ledger := sim.market.ledger.setPrice price }.AtRest (sim.context period price)
      sim.state.liquidityDemand where
  calm := rests.calm
  par := rests.par
  alone := rests.alone
  single := rests.single
  borrowingRate := sound.wellFormed.secured.borrowingRate_nonneg
  redemptionRate := sound.wellFormed.redemptionRate_nonneg
  pool := rests.pool
  circulates := rests.circulates
  cleared := rests.cleared

theorem Steps.Idle.report {demand : ℝ} {steps : Steps ℝ} (idle : steps.Idle demand) (period : Nat)
    (rewardMarket : RewardMarket ℝ) : (steps.report period rewardMarket).Idle := by
  constructor <;> simp only [Steps.report, idle.liquidated, idle.closed, idle.adjusted, idle.opened, idle.peg] <;> rfl

theorem Steps.Idle.totals {demand : ℝ} {steps : Steps ℝ} (idle : steps.Idle demand) (period : Nat)
    (state : MarketState ℝ) : (steps.carry period state).totals = state.totals := by
  simp [MarketState.totals, Steps.carry, idle.collateralLiquidated, idle.adjusted, idle.opened, idle.peg,
    Market.parOutcome, Issuance.none]

/-- A period at rest: of the ledger it changes the price and the gains of depositors, besides
    what time does, and it reports nothing. -/
structure Passes (sim : Simulation ℝ) (price : ℝ) (left : Simulation ℝ) : Prop where
  settings : left.settings = sim.settings
  phase : left.phase = sim.phase
  market : ∃ ledger, GainsApart (sim.market.ledger.setPrice price) ledger ∧
    left.market = ⟨ledger.advancePeriod, sim.market.roster⟩
  par : left.state.stablePrice = 1
  demand : left.state.liquidityDemand = sim.state.liquidityDemand
  totals : left.state.totals = sim.state.totals
  reports : ∃ report : Report ℝ, report.Idle ∧ left.reports = sim.reports.push report

theorem conclude_resting {context : Context ℝ} {steps : Steps ℝ} {price : ℝ} {ledger : Ledger ℝ}
    (gains : GainsApart (sim.market.ledger.setPrice price) ledger) (idle : steps.Idle sim.state.liquidityDemand)
    (covered : sim.state.totalCollateralLiquidated ≤ sim.state.totalCollateralAdded)
    (partitioned : sim.market.roster.isPartitioned = true) :
    (∃ row, ({ sim with market := ⟨ledger, sim.market.roster⟩ }.conclude context steps).1 = .ok row) ∧
      sim.Passes price ({ sim with market := ⟨ledger, sim.market.roster⟩ }.conclude context steps).2 := by
  have par : steps.peg.stablePrice = 1 := congrArg PegOutcome.stablePrice idle.peg
  have demand : steps.peg.liquidityDemand = sim.state.liquidityDemand := congrArg PegOutcome.liquidityDemand idle.peg
  have positive : ¬ ¬ (0 < steps.peg.stablePrice ∧ Number.isFinite steps.peg.stablePrice) := by
    rw [par]
    simp
  have same := idle.totals context.period sim.state
  obtain ⟨added, rest⟩ := Prod.mk.inj same
  obtain ⟨liquidated, redeemed⟩ := Prod.mk.inj rest
  unfold conclude
  rw [if_neg positive]
  dsimp only
  rw [added, liquidated, if_neg (by linarith [tolerance_pos]), if_neg (not_not.mpr partitioned)]
  exact ⟨⟨_, rfl⟩,
    { settings := rfl
      phase := rfl
      market := ⟨ledger, gains, rfl⟩
      par := par
      demand := demand
      totals := Prod.ext rfl (Prod.ext rfl redeemed)
      reports := ⟨_, idle.report _ _, rfl⟩ }⟩

/-- Neither the price of the collateral nor the gains of depositors nor time disturb a run
    at rest. -/
theorem Passes.rests {next : Simulation ℝ} {price : ℝ} (passes : sim.Passes price next) (rests : sim.Rests) :
    next.Rests := by
  obtain ⟨settings, _, ⟨_, ⟨_, _, _, rfl⟩, market⟩, par, demand, totals, _⟩ := passes
  obtain ⟨added, rest⟩ := Prod.mk.inj totals
  obtain ⟨liquidated, _⟩ := Prod.mk.inj rest
  have parameters : next.parameters = sim.parameters := congrArg Prod.fst settings
  refine ⟨parameters ▸ rests.calm, par, ?_, ?_, ?_, ?_, demand ▸ rests.circulates, ?_, ?_⟩
  · rw [market]
    exact rests.alone
  · rw [market]
    exact rests.numbered
  · rw [market]
    exact rests.single
  · rw [market]
    exact rests.pool
  · rw [market, demand]
    exact rests.cleared
  · rw [added, liquidated]
    exact rests.covered

/-- At rest a period passes. -/
theorem advance_resting (rests : sim.Rests) (sound : sim.market.Sound size) (period : Nat) :
    (∃ row, (sim.advance period).1 = .ok row) ∧ sim.Passes (sim.priceIn period) (sim.advance period).2 := by
  rw [advance_eq]
  unfold work
  obtain ⟨gains, roster, idle⟩ := runSteps_resting (rests.atRest sound period (sim.priceIn period))
  generalize (runSteps _ _ _ : Market ℝ × Steps ℝ) = done at gains roster idle ⊢
  obtain ⟨⟨left, _⟩, steps⟩ := done
  obtain rfl : _ = sim.market.roster := roster
  exact conclude_resting gains idle rests.covered (sound.division.isPartitioned rests.numbered)

/-- The run is at rest after its bootstrap, with these totals. -/
structure Resting (size : Nat) (totals : ℝ × ℝ × ℝ) (sim : Simulation ℝ) : Prop where
  rests : sim.Rests
  sound : sim.market.Sound size
  started : sim.phase ≠ .bootstrapping
  totals : sim.state.totals = totals

theorem resting_passing (size : Nat) (totals : ℝ × ℝ × ℝ) : Passing (Resting size totals) fun _ => True where
  started _ resting := resting.started
  passes sim resting period := by
    obtain ⟨⟨row, passed⟩, passes⟩ := advance_resting resting.rests resting.sound period
    refine ⟨⟨row, passed, trivial⟩, ?_⟩
    exact
      { rests := passes.rests resting.rests
        sound := advance_sound resting.sound period
        started := passes.phase ▸ resting.started
        totals := passes.totals.trans resting.totals }
  moves _ _ _ resting started := { resting with rests := { resting.rests with }, started }

section Tables
variable {ε : Type} {failed : RunError ℝ → ε} {append : Row ℝ → Except ε Unit} {left : Simulation ℝ}

/-- A step at rest into a table that takes every row gives one, and the run goes on if it
    was not the last. -/
theorem Stepped.running {answer : Except ε (Option (Row ℝ))} (stepped : Stepped failed append sim answer left)
    (rests : sim.Rests) (sound : sim.market.Sound size) (running : sim.phase = .running)
    (remains : sim.nextPeriod < sim.periods) (takes : ∀ row, append row = .ok ()) :
    (∃ row, answer = .ok (some row)) ∧ left.phase = .running ∧
      ∃ ledger, GainsApart (sim.market.ledger.setPrice (sim.priceIn sim.nextPeriod)) ledger ∧
        left.market = ⟨ledger.advancePeriod, sim.market.roster⟩ := by
  have prepared : sim.ready = (.ok (), sim) := ready_of_started (by simp [running])
  obtain ⟨⟨row, passed⟩, settings, phase, ⟨ledger, gains, market⟩, _⟩ := advance_resting rests sound sim.nextPeriod
  cases stepped with
  | unready booting => cases prepared.symm.trans booting
  | ended booted finished =>
    cases prepared.symm.trans booted
    cases running.symm.trans finished
  | past booted unfinished past =>
    cases prepared.symm.trans booted
    exact absurd past (not_lt.mpr remains.le)
  | broken booted remains advanced =>
    cases prepared.symm.trans booted
    cases passed.symm.trans (congrArg Prod.fst advanced)
  | @refused _ _ given fault booted _ advanced refused => cases (takes given).symm.trans refused
  | @taken _ last given booted _ advanced taken =>
    cases prepared.symm.trans booted
    rw [advanced] at phase settings market
    have periods : last.periods = sim.periods := congrArg (fun settings => settings.2.1) settings
    refine ⟨⟨given, rfl⟩, ?_, ledger, gains, market⟩
    rw [moveOn, periods, if_neg remains.ne]
    exact phase.trans running

end Tables

end Simulation
end Stablecoin
