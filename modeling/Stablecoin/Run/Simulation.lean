import Stablecoin.Market.Adjustments
import Stablecoin.Market.Closures
import Stablecoin.Market.Deposits
import Stablecoin.Market.Liquidations
import Stablecoin.Market.Paths
import Stablecoin.Market.Peg
import Stablecoin.Market.Reward
import Stablecoin.Run.Error
import Stablecoin.Run.Row

/-!
The loop over the periods. A run is bootstrapped once and then advances period by
period: seven steps in a fixed order, the check of the invariants, and one row of
the table. A call that fails answers the error together with the run as it stands,
for the steps before the failure are not taken back.
-/
namespace Stablecoin
open Stablecoin.Random

inductive Phase where
  | bootstrapping
  | running
  | finished
deriving Repr, DecidableEq

/-- What happened inside a period, beyond its row. -/
structure Report (α : Type) where
  period : Nat
  liquidated : List AccountId
  closed : List AccountId
  /-- The accounts that opened a trove, also those that did so for arbitrage. -/
  opened : List AccountId
  /-- The accounts whose troves were redeemed and closed. -/
  redeemedOut : List AccountId
  adjusted : Nat
  stableIssued : α
  stabilityTarget : α
  stabilityReturn : α
  rewardMarket : RewardMarket α
  rejected : Nat
deriving Repr

/-- A run. -/
structure Simulation (α : Type) where
  parameters : Parameters α
  market : Market α
  state : MarketState α
  reports : Array (Report α)
  phase : Phase
  nextPeriod : Nat
  /-- The number of periods that the run will execute. -/
  periods : Nat
  streams : Streams
  traits : TraitModel α
  collateralPrices : Array α
  naturalRates : Array α

namespace Simulation
variable {α : Type} [Number α]

/-- A run with the given parameters, before its bootstrap. -/
def new (parameters : Parameters α) : Except (RunError α) (Simulation α) := do
  parameters.validate.mapError .parameters
  let streams : Streams := ⟨parameters.seed⟩
  let some traits := TraitModel.ofParameters? parameters.borrowing parameters.terms.mcr | throw .noTraitModel
  return {
    parameters, streams, traits
    market :=
      { ledger := Ledger.new parameters.terms parameters.collateral.initial
        roster := Roster.ofSize parameters.accounts }
    state := MarketState.initial
    reports := #[]
    phase := .bootstrapping
    nextPeriod := 1
    periods := parameters.periods
    collateralPrices := collateralPath parameters.collateral parameters.periods streams
    naturalRates := naturalRatePath parameters.stability parameters.periods streams }

/-- Replays recorded collateral prices, the first of them at the bootstrap. The run is
    cut to the length of the path. -/
def withPrices (sim : Simulation α) (prices : Array α) : Except (RunError α) (Simulation α) := do
  if sim.phase ≠ .bootstrapping then throw (.setup .pricesAfterBootstrap)
  if prices.size < 2 then throw (.path .tooShort)
  if let some price := prices.find? fun price => ¬ (0 < price ∧ Number.isFinite price) then
    throw (.path (.notPositive price))
  return { sim with periods := min sim.parameters.periods (prices.size - 1), collateralPrices := prices }

/-- The collateral prices of the periods that the run will execute. -/
def prices (sim : Simulation α) : Array α := sim.collateralPrices.extract 0 (sim.periods + 1)

/-- The state of period zero, with the demand scaled so that the given amount of
    circulating stablecoin clears at the initial price. -/
def openingState (parameters : Parameters α) (circulating : α) : MarketState α :=
  let price := parameters.bootstrap.initialStablePrice
  { MarketState.initial with
    stablePrice := price
    rewardPrice := parameters.reward.initialPrice
    liquidityDemand := circulating / Number.pow price parameters.liquidity.elasticity
    stabilityReturn := parameters.stability.initialReturn
    totalCollateralAdded := parameters.bootstrap.whaleCollateral
    liquidationGain := #[0]
    airdropGain := #[0]
    issuanceFee := #[0]
    redemptionFee := #[0] }

/-- Opens the trove of the whale and seeds the stability pool. The whale never
    rebalances. -/
def bootstrap (sim : Simulation α) : Except (RunError α) Unit × Simulation α :=
  if sim.phase ≠ .bootstrapping then (throw (.setup .alreadyBootstrapped), sim)
  else
    let boot := sim.parameters.bootstrap
    let ledger := sim.market.ledger.setPrice (sim.collateralPrices[0]?.getD 0)
    match ledger.openTrove whale boot.whaleCollateral boot.whaleDebt with
    | .error refusal => (throw (.setup (.whaleRefused refusal)), { sim with market.ledger := ledger })
    | .ok (_, ledger) =>
      let whaleCr := ((ledger.icr? whale).getD .unbounded).toNumber
      let roster := sim.market.roster.activate whale whaleCr Number.infinity 0
      let seeded := if 0 < boot.stabilityInitial then ledger.provide whale boot.stabilityInitial else pure ledger
      match seeded with
      | .error refusal => (throw (.setup (.poolSeedRefused refusal)), { sim with market := ⟨ledger, roster⟩ })
      | .ok ledger =>
        let circulating := ledger.supply - ledger.totalDeposits
        let sim := { sim with market := ⟨ledger, roster⟩ }
        if circulating ≤ 0 then (throw (.setup .nothingCirculates), sim)
        else (pure (), { sim with state := openingState sim.parameters circulating, phase := .running })

/-- Opens a trove at a chosen ratio, outside the behaviour of borrowers. -/
def seedTrove (sim : Simulation α) (account : AccountId) (collateral netDebt targetCr inattention : α) :
    Except (RunError α) Unit × Simulation α :=
  let roster := sim.market.roster
  if sim.phase ≠ .running then (throw (.setup .notRunning), sim)
  else if roster.IsActive account ∨ (roster.get? account).isNone then
    (throw (.setup (.accountUnavailable account)), sim)
  else
    match sim.market.ledger.openTrove account collateral netDebt with
    | .error refusal => (throw (.setup (.seedRefused account refusal)), sim)
    | .ok (_, ledger) =>
      (pure (),
        { sim with
          market := ⟨ledger, roster.activate account targetCr inattention (sim.nextPeriod - 1)⟩
          state.totalCollateralAdded := sim.state.totalCollateralAdded + collateral })

/-- What the steps of a period know. -/
def context (sim : Simulation α) (period : Nat) (price : α) : Context α where
  parameters := sim.parameters
  streams := sim.streams
  traits := sim.traits
  period := period
  collateralPrice := price
  stablePrice := sim.state.stablePrice
  rewardPrice := sim.state.rewardPrice
  naturalRate := sim.naturalRates[period]?.getD 0

/-- What the steps that act on the market did in a period. -/
structure Steps (α : Type) where
  liquidated : LiquidationOutcome α
  closed : ClosureOutcome
  adjusted : Issuance α
  opened : Issuance α
  deposits : DepositOutcome α
  peg : PegOutcome α

/-- The steps of a period that act on the market, each on what the one before left. -/
def runSteps (context : Context α) (market : Market α) (state : MarketState α) : Market α × Steps α :=
  let (market, liquidated) := liquidate context market state
  let (market, closed) := close context market
  let (market, adjusted) := adjust context market
  let (market, opened) := openTroves context market
  let (ledger, deposits) := updateDeposits context market liquidated.stabilityReturn
  let (market, peg) := stabilizePrice context { market with ledger } state.liquidityDemand
  (market, { liquidated, closed, adjusted, opened, deposits, peg })

namespace Steps

/-- The number of refused actions. -/
def rejected (steps : Steps α) : Nat :=
  steps.liquidated.tally.rejected + steps.closed.tally.rejected + steps.adjusted.tally.rejected +
    steps.opened.tally.rejected + steps.deposits.tally.rejected + steps.peg.issuance.tally.rejected +
    steps.peg.redemptionTally.rejected

/-- Carries the state over the period. The price of the reward token follows later. -/
def carry (steps : Steps α) (period : Nat) (state : MarketState α) : MarketState α :=
  let fee := steps.adjusted.fee + steps.opened.fee + steps.peg.issuance.fee
  { state with
    period
    stablePrice := steps.peg.stablePrice
    liquidityDemand := steps.peg.liquidityDemand
    stabilityReturn := steps.liquidated.stabilityReturn
    totalCollateralAdded :=
      state.totalCollateralAdded +
        (steps.adjusted.collateralAdded + steps.opened.collateralAdded + steps.peg.issuance.collateralAdded)
    totalCollateralLiquidated := state.totalCollateralLiquidated + steps.liquidated.collateralLiquidated
    totalStableRedeemed := state.totalStableRedeemed + steps.peg.redeemed
    liquidationGain := state.liquidationGain.push steps.liquidated.liquidationGain
    airdropGain := state.airdropGain.push steps.liquidated.airdropGain
    issuanceFee := state.issuanceFee.push (steps.peg.stablePrice * fee)
    redemptionFee := state.redemptionFee.push steps.peg.redemptionFee }

def report (steps : Steps α) (period : Nat) (rewardMarket : RewardMarket α) : Report α where
  period := period
  liquidated := steps.liquidated.liquidated
  closed := steps.closed.closed
  opened := steps.opened.accounts ++ steps.peg.issuance.accounts
  redeemedOut := steps.peg.redeemedOut
  adjusted := steps.adjusted.accounts.length
  stableIssued := steps.adjusted.stableIssued + steps.opened.stableIssued + steps.peg.issuance.stableIssued
  stabilityTarget := steps.deposits.target
  stabilityReturn := steps.liquidated.stabilityReturn
  rewardMarket := rewardMarket
  rejected := steps.rejected

end Steps

/-- The row of a period that has been carried over. -/
def row (sim : Simulation α) (period : Nat) (price : α) : Row α :=
  let snapshot := sim.market.ledger.snapshot
  { iteration := period
    collateralPrice := price
    stablePrice := sim.state.stablePrice
    rewardPrice := sim.state.rewardPrice
    numTroves := snapshot.numTroves
    totalCollateral := snapshot.totalCollateral
    totalDebt := snapshot.totalDebt
    tcr := snapshot.tcr.toNumber
    recoveryMode := snapshot.recoveryMode
    lastIcr := snapshot.lastIcr.toNumber
    poolStable := snapshot.poolStable
    poolCollateral := snapshot.poolCollateral
    totalCollateralAdded := sim.state.totalCollateralAdded
    totalCollateralLiquidated := sim.state.totalCollateralLiquidated
    totalStableRedeemed := sim.state.totalStableRedeemed }

/-- Carries the state over a period whose steps are done, checks the invariants and gives
    the row. A period whose price is not positive leaves the carried state as it was. -/
def conclude (sim : Simulation α) (context : Context α) (steps : Steps α) :
    Except (RunError α) (Row α) × Simulation α :=
  let period := context.period
  let stablePrice := steps.peg.stablePrice
  if ¬ (0 < stablePrice ∧ Number.isFinite stablePrice) then
    (throw (.violation period (.stablePrice stablePrice)), sim)
  else
    let carried := steps.carry period sim.state
    let rewardMarket := Stablecoin.rewardMarket context carried
    let state := { carried with rewardPrice := rewardMarket.price }
    let sim := { sim with state }
    let liquidated := state.totalCollateralLiquidated
    let added := state.totalCollateralAdded
    if added + Number.tolerance < liquidated then
      (throw (.violation period (.collateral liquidated added)), sim)
    else if ¬ sim.market.roster.isPartitioned then (throw (.violation period .roster), sim)
    else
      (pure (sim.row period context.collateralPrice),
        { sim with
          reports := sim.reports.push (steps.report period rewardMarket)
          market.ledger := sim.market.ledger.advancePeriod })

/-- Executes a period and gives its row. What the steps did to the market stays, also
    where the period ends with an error. -/
def advance (sim : Simulation α) (period : Nat) : Except (RunError α) (Row α) × Simulation α :=
  let price := sim.collateralPrices[period]?.getD 0
  let ledger := sim.market.ledger.setPrice price
  let context := sim.context period price
  let (market, steps) := runSteps context { sim.market with ledger } sim.state
  { sim with market }.conclude context steps

/-- Executes the next period, after the bootstrap where it is still to come, and appends
    its row to a table. Gives no row once every period has run. Where the table refuses
    the row, the period has been executed and the run does not move on. -/
def stepInto {ε : Type} (failed : RunError α → ε) (append : Row α → Except ε Unit) (sim : Simulation α) :
    Except ε (Option (Row α)) × Simulation α :=
  let (ready, sim) := if sim.phase = .bootstrapping then sim.bootstrap else (pure (), sim)
  match ready with
  | .error error => (throw (failed error), sim)
  | .ok () =>
    if sim.phase = .finished then (pure none, sim)
    else if sim.periods < sim.nextPeriod then (pure none, { sim with phase := .finished })
    else
      let period := sim.nextPeriod
      match sim.advance period with
      | (.error error, sim) => (throw (failed error), sim)
      | (.ok row, sim) =>
        match append row with
        | .error refused => (throw refused, sim)
        | .ok () =>
          (pure (some row),
            { sim with
              nextPeriod := period + 1
              phase := if period = sim.periods then .finished else sim.phase })

/-- Executes up to `count` periods, and gives their rows and the error that ended them. -/
def stepsInto {ε : Type} (failed : RunError α → ε) (append : Row α → Except ε Unit) :
    Nat → Simulation α → List (Row α) × Option ε × Simulation α
  | 0, sim => ([], none, sim)
  | count + 1, sim =>
    match sim.stepInto failed append with
    | (.error error, sim) => ([], some error, sim)
    | (.ok none, sim) => ([], none, sim)
    | (.ok (some row), sim) =>
      let (rows, error, sim) := stepsInto failed append count sim
      (row :: rows, error, sim)

/-- Executes every remaining period. The answer that there is none left takes a step
    of its own. -/
def runInto {ε : Type} (failed : RunError α → ε) (append : Row α → Except ε Unit) (sim : Simulation α) :
    List (Row α) × Option ε × Simulation α :=
  sim.stepsInto failed append (sim.periods + 1)

/-- Executes the next period into a table that takes every row. -/
def step (sim : Simulation α) : Except (RunError α) (Option (Row α)) × Simulation α :=
  sim.stepInto id fun _ => pure ()

/-- Executes every remaining period into a table that takes every row. -/
def run (sim : Simulation α) : List (Row α) × Option (RunError α) × Simulation α :=
  sim.runInto id fun _ => pure ()

end Simulation
end Stablecoin
