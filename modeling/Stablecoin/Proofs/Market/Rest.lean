import Stablecoin.Proofs.Ledger.Eligibility
import Stablecoin.Proofs.Market.Agreement
import Stablecoin.Proofs.Market.Deposits
import Stablecoin.Proofs.Market.Liquidations

/-!
A market at rest (`AtRest`). With no shock, no opening due and nobody but the whale in
debt, the stablecoin clears at par, and no step of a period finds anything to do on the
market: only the gains of the stability pool are handed out and collected (`GainsApart`).
-/
namespace Stablecoin
open Ledger
open Number (tolerance tolerance_pos)

/-- No shock moves the market, no trove is due to be opened, and the stablecoin may trade
    at par. -/
structure Parameters.Calm (parameters : Parameters ℝ) : Prop where
  initialOpen : parameters.borrowing.initialOpen = 0
  openBase : parameters.borrowing.openBase = 0
  openSd : parameters.borrowing.openSd = 0
  poolShock : parameters.stability.shockSd = 0
  sensitivity : parameters.stability.sensitivity = 0
  demandShock : parameters.liquidity.shockSd = 0
  drift : parameters.liquidity.drift = 1
  ceiling : 1 ≤ parameters.liquidity.ceiling

theorem Parameters.quiet_calm : (Parameters.quiet : Parameters ℝ).Calm := by
  constructor <;> norm_num [Parameters.quiet, Parameters.default, Parameters.defaultLiquidity]

namespace Market
variable {context : Context ℝ} {market : Market ℝ} {ledger : Ledger ℝ} {demand : ℝ}

/-- Before a period the market clears at par, and nobody but the whale borrows. -/
structure AtRest (market : Market ℝ) (context : Context ℝ) (demand : ℝ) : Prop where
  calm : context.parameters.Calm
  par : context.stablePrice = 1
  alone : market.roster.activeBorrowers = []
  single : market.ledger.troves.size ≤ 1
  borrowingRate : 0 ≤ market.ledger.borrowingRate
  redemptionRate : 0 ≤ market.ledger.redemptionRate
  pool : tolerance < market.ledger.totalDeposits
  circulates : tolerance ≤ demand
  cleared : market.ledger.supply - market.ledger.totalDeposits = demand

theorem normalShock_zero (streams : Random.Streams) (purpose : Random.Purpose) (period : Nat) :
    normalShock (0 : ℝ) streams purpose period = 0 := by
  simp only [normalShock, Random.gaussian, lt_irrefl, and_false, if_false]
  rfl

theorem wholeCount_zero (available : Nat) : wholeCount (0 : ℝ) available = 0 := by
  have nothing : ⌊(2 : ℝ)⁻¹⌋₊ = 0 := Nat.floor_eq_zero.mpr (by norm_num)
  simp [wholeCount, Number.nearestNat, nothing]

theorem openCount_calm (calm : context.parameters.Calm) (par : context.stablePrice = 1)
    (rate : 0 ≤ ledger.borrowingRate) (available : Nat) :
    openCount context.parameters.borrowing context.streams context.period context.stablePrice ledger.borrowingRate
      available = 0 := by
  have discount : ¬ 0 < context.stablePrice - 1 - ledger.borrowingRate := by
    rw [par]
    linarith
  have shock := normalShock_zero context.streams .openCount context.period
  rw [normalShock] at shock
  unfold openCount
  simp only [calm.initialOpen, calm.openBase, calm.openSd, shock, if_neg discount, add_zero, wholeCount_zero, ite_self]

theorem AtRest.gains (rest : market.AtRest context demand) {left : Ledger ℝ} (gains : GainsApart market.ledger left) :
    { market with ledger := left }.AtRest context demand := by
  obtain ⟨_, _, _, rfl⟩ := gains
  exact ⟨rest.calm, rest.par, rest.alone, rest.single, rest.borrowingRate, rest.redemptionRate, rest.pool,
    rest.circulates, rest.cleared⟩

theorem liquidateBatches_resting (context : Context ℝ) (few : market.ledger.troves.size ≤ 1) (batches : Nat)
    (outcome : LiquidationOutcome ℝ) : liquidateBatches context batches (market, outcome) = (market, outcome) := by
  cases batches with
  | zero => rfl
  | succ batches => rw [liquidateBatches, if_pos (not_pending_of_few few)]

theorem issueRewards_gains (ledger : Ledger ℝ) (amount : ℝ) : GainsApart ledger (ledger.issueRewards amount).2 := by
  unfold issueRewards
  dsimp only
  split
  · exact .refl _
  · exact ⟨_, _, _, rfl⟩

theorem liquidate_resting (context : Context ℝ) (few : market.ledger.troves.size ≤ 1) (state : MarketState ℝ) :
    GainsApart market.ledger (liquidate context market state).1.ledger ∧
      (liquidate context market state).1.roster = market.roster ∧
      (liquidate context market state).2.collateralLiquidated = 0 ∧
      (liquidate context market state).2.liquidated = [] := by
  unfold liquidate
  simp only [liquidateBatches_resting context few, ite_self]
  exact ⟨issueRewards_gains _ _, trivial, trivial, trivial⟩

/-- In the first period the pool has its initial return. -/
theorem liquidate_first (first : context.period ≤ 1) (market : Market ℝ) (state : MarketState ℝ) :
    (liquidate context market state).2.stabilityReturn = context.parameters.stability.initialReturn := by
  simp [liquidate, stabilityReturn, first]

theorem close_alone (context : Context ℝ) (alone : market.roster.activeBorrowers = []) :
    (close context market).1 = market ∧ (close context market).2.closed = [] := by
  unfold close
  split
  · exact ⟨rfl, rfl⟩
  · simp [alone, choose, closeTurns]

theorem adjust_alone (context : Context ℝ) (alone : market.roster.activeBorrowers = []) :
    adjust context market = (market, Issuance.none) := by
  rw [adjust, alone, List.foldl_nil]

theorem openTroves_of_none
    (none : openCount context.parameters.borrowing context.streams context.period context.stablePrice
      market.ledger.borrowingRate market.roster.idleBorrowers.length = 0) :
    openTroves context market = (market, Issuance.none) := by
  unfold openTroves
  simp only [none]
  simp [choose]

theorem openTroves_resting (rest : market.AtRest context demand) :
    openTroves context market = (market, Issuance.none) :=
  openTroves_of_none (openCount_calm rest.calm rest.par rest.borrowingRate _)

/-- The first period opens as many troves as the parameters say. -/
theorem openTroves_first (first : context.period ≤ 1) (none : context.parameters.borrowing.initialOpen = 0) :
    openTroves context market = (market, Issuance.none) := by
  refine openTroves_of_none ?_
  rw [openCount, if_pos first, none, wholeCount_zero]

/-- Without a shock and with no answer to its return a pool keeps its size that is not to be
    started. -/
theorem poolTarget_unstarted (calm : context.parameters.Calm) {current poolReturn : ℝ} (nonneg : 0 ≤ current)
    (unattractive : ¬ (current ≤ tolerance ∧ context.naturalRate < poolReturn)) :
    poolTarget context current poolReturn = current := by
  unfold poolTarget
  simp [calm.poolShock, calm.sensitivity, normalShock_zero, unattractive, nonneg]

theorem poolTarget_calm (calm : context.parameters.Calm) {current : ℝ} (pool : tolerance < current)
    (poolReturn : ℝ) : poolTarget context current poolReturn = current :=
  poolTarget_unstarted calm (tolerance_pos.trans pool).le fun empty => absurd empty.1 (not_le.mpr pool)

/-- An empty pool with an attractive return is drawn to the minimum debt of a trove. -/
theorem poolTarget_calm_of_empty (calm : context.parameters.Calm) {current poolReturn : ℝ} (empty : current ≤ tolerance)
    (attractive : context.naturalRate < poolReturn) (nonneg : 0 ≤ context.parameters.terms.minNetDebt) :
    poolTarget context current poolReturn = context.parameters.terms.minNetDebt := by
  unfold poolTarget
  simp [calm.poolShock, calm.sensitivity, normalShock_zero, empty, attractive, nonneg]

/-- A period without shocks. -/
noncomputable def quietPeriod : Context ℝ := { fallenPeriod with parameters := Parameters.quiet }

theorem quietPeriod_target (empty : market.ledger.totalDeposits ≤ tolerance) :
    depositTarget quietPeriod market 1.0 = 1800 := by
  have minimum : quietPeriod.parameters.terms.minNetDebt = 1800 := by
    norm_num [quietPeriod, Parameters.quiet, Parameters.default, Parameters.defaultTerms]
  have attractive : quietPeriod.naturalRate < 1.0 := by norm_num [quietPeriod, fallenPeriod]
  rw [depositTarget, poolTarget_calm_of_empty Parameters.quiet_calm empty attractive (minimum ▸ by norm_num), minimum]

/-- A pool that has the size it is drawn to only hands out its gains. -/
theorem updateDeposits_settled {poolReturn : ℝ}
    (settled : poolTarget context market.ledger.totalDeposits poolReturn = market.ledger.totalDeposits) :
    GainsApart market.ledger (updateDeposits context market poolReturn).1 := by
  have small := tolerance_pos
  have resizes := updateDeposits_resizes context market poolReturn
  generalize updateDeposits context market poolReturn = left at resizes ⊢
  cases resizes with
  | grows short last_eq =>
    rw [depositTarget, settled] at short
    linarith
  | shrinks large last_eq =>
    rw [depositTarget, settled] at large
    linarith
  | rests enough fits => exact market.ledger.claims_gains

/-- A holder that has what the pool needs deposits all of it. -/
theorem provideTurn_all {need : ℝ} (wanted : tolerance < need) {account : AccountId}
    (covered : need ≤ ledger.balance account) (outcome : DepositOutcome ℝ) :
    (provideTurn (ledger, outcome, need) account).1 = ledger.afterDeposit account need := by
  rw [provideTurn_eq, min_eq_left covered, if_neg (not_le.mpr wanted)]

theorem afterDeposit_gains {left : Ledger ℝ} (gains : GainsApart ledger left) (account : AccountId) (amount : ℝ) :
    GainsApart { ledger with
      balances := ledger.balances.insert account (ledger.balance account - amount)
      deposits := addTo ledger.deposits account amount } (left.afterDeposit account amount) := by
  obtain ⟨_, _, _, rfl⟩ := gains
  exact ⟨_, _, _, rfl⟩

/-- What an account holds it can deposit. -/
theorem provide_gains {account : AccountId} {amount : ℝ} (positive : 0 < amount)
    (covered : amount ≤ ledger.balance account) :
    ∃ left, ledger.provide account amount = .ok left ∧
      GainsApart { ledger with
        balances := ledger.balances.insert account (ledger.balance account - amount)
        deposits := addTo ledger.deposits account amount } left :=
  ⟨_, provide_eq positive covered, afterDeposit_gains (.refl ledger) account amount⟩

/-- With nobody but the whale in debt, the whale deposits what the pool lacks. -/
theorem updateDeposits_funded {poolReturn lack : ℝ} (alone : market.roster.activeBorrowers = [])
    (lacking : poolTarget context market.ledger.totalDeposits poolReturn - market.ledger.totalDeposits = lack)
    (wanted : tolerance < lack) (covered : lack ≤ market.ledger.balance whale) :
    GainsApart { market.ledger with
      balances := market.ledger.balances.insert whale (market.ledger.balance whale - lack)
      deposits := addTo market.ledger.deposits whale lack } (updateDeposits context market poolReturn).1 := by
  have small := tolerance_pos
  have order : depositOrder context market = [whale] := by
    simp [depositOrder, alone, choose]
  have resizes := updateDeposits_resizes context market poolReturn
  generalize updateDeposits context market poolReturn = left at resizes ⊢
  cases resizes with
  | grows short last_eq =>
    rw [order, List.foldl_cons, List.foldl_nil, depositTarget, lacking] at last_eq
    have held : lack ≤ market.ledger.claims.1.balance whale := by
      obtain ⟨_, _, _, same⟩ := market.ledger.claims_gains
      rwa [same]
    rw [last_eq, provideTurn_all wanted held]
    exact afterDeposit_gains market.ledger.claims_gains whale lack
  | shrinks large last_eq =>
    rw [depositTarget] at large
    linarith
  | rests enough fits =>
    rw [depositTarget] at enough
    linarith

theorem updateDeposits_resting (rest : market.AtRest context demand) (poolReturn : ℝ) :
    GainsApart market.ledger (updateDeposits context market poolReturn).1 :=
  updateDeposits_settled (poolTarget_calm rest.calm rest.pool poolReturn)

/-- A market that has cleared at par without any defence. -/
noncomputable def parOutcome (demand : ℝ) : PegOutcome ℝ where
  stablePrice := 1
  liquidityDemand := demand
  redeemed := 0
  redemptionFee := 0
  redeemedOut := []
  redemptionTally := {}
  issuance := Issuance.none

/-- Without a shock a market that has cleared at par clears there again, between the two
    bounds that are defended. -/
theorem stabilizePrice_par (calm : context.parameters.Calm) (borrowing : 0 ≤ market.ledger.borrowingRate)
    (redemption : 0 ≤ market.ledger.redemptionRate) (circulates : tolerance ≤ demand)
    (cleared : market.ledger.supply - market.ledger.totalDeposits = demand) :
    stabilizePrice context market demand = (market, parOutcome demand) := by
  have par : clearingPrice demand demand context.parameters.liquidity.elasticity = 1 := by
    have positive : demand ≠ 0 := (tolerance_pos.trans_le circulates).ne'
    rw [clearingPrice, Number.max_real, max_eq_left circulates, div_self positive, Number.pow_real, Real.one_rpow]
  have ceiling : ¬ context.parameters.liquidity.ceiling + market.ledger.borrowingRate < 1 := by
    linarith [calm.ceiling]
  have floor : ¬ 1 < 1 - market.ledger.redemptionRate := by linarith
  unfold stabilizePrice
  simp only [calm.drift, calm.demandShock, normalShock_zero, mul_one, add_zero, cleared, par, defendCeiling,
    if_neg ceiling, defendFloor, if_neg floor]
  rfl

theorem stabilizePrice_resting (rest : market.AtRest context demand) :
    stabilizePrice context market demand = (market, parOutcome demand) :=
  stabilizePrice_par rest.calm rest.borrowingRate rest.redemptionRate rest.circulates rest.cleared

end Market
end Stablecoin
