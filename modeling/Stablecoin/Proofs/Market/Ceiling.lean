import Stablecoin.Proofs.Ledger.Borrowers
import Stablecoin.Proofs.Market.Collateral
import Stablecoin.Proofs.Market.Peg
import Stablecoin.Proofs.Market.Rest
import Stablecoin.Proofs.Parameters

/-!
How much the defence of the ceiling issues. What circulates falls short of what is in
demand at the ceiling by the `shortfall`. An idle account opens a trove whose debt makes up
for it, and otherwise the whale draws it (`Raises`). Both amounts are solved for so that the
debt comes out right once the fee and the gas reserve are added, and out of recovery it does
(`Opening.debt_of_calm`, `Adjustment.debt_of_draw`): the stablecoin that circulates
afterwards is what is in demand at the ceiling. Only a trove that needs more debt to reach
the minimum takes the market beyond (`MeetsCeiling`).
-/
namespace Stablecoin
open Ledger
open Number (tolerance tolerance_pos)

/-- The stablecoin outside the pool. -/
def Ledger.circulating {α : Type} [Number α] (ledger : Ledger α) : α := ledger.supply - ledger.totalDeposits

namespace Market
section
variable {α : Type} [Number α]

/-- The price above which debt is issued. -/
def ceiling (context : Context α) (market : Market α) : α :=
  context.parameters.liquidity.ceiling + market.ledger.borrowingRate

/-- What the supply lacks for the market to clear at the ceiling. -/
def shortfall (context : Context α) (market : Market α) (demand : α) : α :=
  market.ledger.totalDeposits + demand * Number.pow (market.ceiling context) context.parameters.liquidity.elasticity -
    market.ledger.supply

/-- The net debt that adds the amount to the supply once the fee and the gas reserve are on
    top of it, or the minimum where that is more. -/
def arbitrageDebt (context : Context α) (market : Market α) (amount : α) : α :=
  Number.max ((amount - context.parameters.terms.gasCompensation) / (1 + market.ledger.borrowingRate))
    context.parameters.terms.minNetDebt

/-- The collateral that secures such a trove at the ratio of arbitrage. -/
def arbitrageCollateral (context : Context α) (market : Market α) (amount : α) : α :=
  context.parameters.liquidity.arbitrageCr *
      (market.arbitrageDebt context amount * (1 + market.ledger.borrowingRate) +
        context.parameters.terms.gasCompensation) /
    context.collateralPrice

/-- How an attempt to issue the amount ends: refused, with a trove of the first idle
    account, or, if there is none, with a draw of the whale. -/
inductive Raises (context : Context α) (market : Market α) (amount : α) : Bool → Market α → Issuance α → Prop
  | refused :
      Raises context market amount false market { (Issuance.none : Issuance α) with tally := ({} : Tally).reject }
  | opened {account : AccountId} {change : TroveChange α} {left : Ledger α}
      (first : market.roster.idleBorrowers.head? = some account)
      (opening : Opening market.ledger account (market.arbitrageCollateral context amount)
        (market.arbitrageDebt context amount) change left) :
      Raises context market amount true
        ⟨left, market.roster.activate account context.parameters.liquidity.arbitrageCr
          (context.traits.drawInattention context.streams context.period account) context.period⟩
        { accounts := [account]
          collateralAdded := 0 + market.arbitrageCollateral context amount
          stableIssued := 0 + market.arbitrageDebt context amount
          fee := 0 + change.fee
          tally := ({} : Tally).accept }
  | drawn {trove : Trove α} {change : TroveChange α} {left : Ledger α} (nobody : market.roster.idleBorrowers = [])
      (adjustment : Adjustment market.ledger whale
        (context.parameters.liquidity.arbitrageCr * amount / context.collateralPrice)
        (amount / (1 + market.ledger.borrowingRate)) trove change left) :
      Raises context market amount true { market with ledger := left }
        { accounts := []
          collateralAdded := 0 + context.parameters.liquidity.arbitrageCr * amount / context.collateralPrice
          stableIssued := 0 + amount / (1 + market.ledger.borrowingRate)
          fee := 0 + change.fee
          tally := ({} : Tally).accept }

/-- How the ceiling is defended: not at all up to the ceiling, and by an attempt to issue the
    shortfall above it. -/
inductive Caps (context : Context α) (market : Market α) (outcome : PegOutcome α) : PegOutcome α → Market α → Prop
  | within (low : ¬ market.ceiling context < outcome.stablePrice) : Caps context market outcome outcome market
  | attempted {issued : Bool} {left : Market α} {issuance : Issuance α}
      (high : market.ceiling context < outcome.stablePrice)
      (raises : Raises context market (market.shortfall context outcome.liquidityDemand) issued left issuance) :
      Caps context market outcome
        { outcome with
          issuance
          stablePrice :=
            if issued then clearingPrice (left.ledger.supply - market.ledger.totalDeposits) outcome.liquidityDemand
              context.parameters.liquidity.elasticity
            else outcome.stablePrice }
        left

variable {context : Context α} {market left mid : Market α} {amount : α} {issued : Bool} {issuance : Issuance α}
  {outcome last : PegOutcome α}

theorem openArbitrageTrove_raises (context : Context α) {account : AccountId}
    (first : market.roster.idleBorrowers.head? = some account) (amount : α) :
    Raises context market amount (openArbitrageTrove context market account amount).1
      (openArbitrageTrove context market account amount).2.1
      (openArbitrageTrove context market account amount).2.2 := by
  unfold openArbitrageTrove
  dsimp only
  split
  · exact .refused
  · rename_i accepted
    exact .opened first (openTrove_ok accepted)

theorem whaleDraw_raises (context : Context α) (nobody : market.roster.idleBorrowers = []) (amount : α) :
    Raises context market amount (whaleDraw context market amount).1 (whaleDraw context market amount).2.1
      (whaleDraw context market amount).2.2 := by
  unfold whaleDraw
  dsimp only
  split
  · exact .refused
  · rename_i accepted
    obtain ⟨trove, adjustment⟩ := adjustTrove_ok accepted
    exact .drawn nobody adjustment

theorem defendCeiling_caps (context : Context α) (market : Market α) (outcome : PegOutcome α) :
    Caps context market outcome (defendCeiling context market market.ledger.totalDeposits outcome).2
      (defendCeiling context market market.ledger.totalDeposits outcome).1 := by
  unfold defendCeiling
  dsimp only
  split
  · rename_i high
    split
    · rename_i account rest listed
      exact .attempted high (openArbitrageTrove_raises context (by rw [listed]; rfl) _)
    · rename_i nobody
      exact .attempted high (whaleDraw_raises context nobody _)
  · rename_i low
    exact .within low

theorem capped_caps (context : Context α) (market : Market α) (previousDemand : α) :
    Caps context market (cleared context market previousDemand) (capped context market previousDemand).2
      (capped context market previousDemand).1 :=
  defendCeiling_caps context market _

/-- Above the ceiling the first idle account opens its trove, if the ledger accepts it. -/
theorem capped_opened {previousDemand : α} {account : AccountId} {change : TroveChange α} {ledger : Ledger α}
    (high : market.ceiling context < (cleared context market previousDemand).stablePrice)
    (first : market.roster.idleBorrowers.head? = some account)
    (opened : market.ledger.openTrove account
      (market.arbitrageCollateral context
        (market.shortfall context (cleared context market previousDemand).liquidityDemand))
      (market.arbitrageDebt context (market.shortfall context (cleared context market previousDemand).liquidityDemand)) =
        .ok (change, ledger)) :
    ∃ inattention issuance, issuance.tally.accepted = 1 ∧ issuance.accounts = [account] ∧
      issuance.collateralAdded = 0 + market.arbitrageCollateral context
        (market.shortfall context (cleared context market previousDemand).liquidityDemand) ∧
      capped context market previousDemand =
        (⟨ledger, market.roster.activate account context.parameters.liquidity.arbitrageCr inattention context.period⟩,
        { cleared context market previousDemand with
          stablePrice := clearingPrice (ledger.supply - market.ledger.totalDeposits)
            (cleared context market previousDemand).liquidityDemand context.parameters.liquidity.elasticity
          issuance }) := by
  obtain ⟨rest, listed⟩ := List.head?_eq_some_iff.mp first
  unfold arbitrageCollateral arbitrageDebt shortfall ceiling at opened
  unfold capped defendCeiling openArbitrageTrove
  dsimp only
  rw [if_pos (by exact high)]
  simp only [listed, opened, if_true]
  exact ⟨_, _, rfl, rfl, rfl, rfl⟩

/-- With no idle account the whale draws the shortfall. -/
theorem capped_drawn {previousDemand : α} {change : TroveChange α} {ledger : Ledger α}
    (high : market.ceiling context < (cleared context market previousDemand).stablePrice)
    (nobody : market.roster.idleBorrowers = [])
    (drawn : market.ledger.adjustTrove whale
      (context.parameters.liquidity.arbitrageCr *
          market.shortfall context (cleared context market previousDemand).liquidityDemand / context.collateralPrice)
      (market.shortfall context (cleared context market previousDemand).liquidityDemand /
        (1 + market.ledger.borrowingRate)) = .ok (change, ledger)) :
    ∃ issuance, issuance.tally.accepted = 1 ∧
      capped context market previousDemand = ({ market with ledger },
        { cleared context market previousDemand with
          stablePrice := clearingPrice (ledger.supply - market.ledger.totalDeposits)
            (cleared context market previousDemand).liquidityDemand context.parameters.liquidity.elasticity
          issuance }) := by
  unfold shortfall ceiling at drawn
  unfold capped defendCeiling whaleDraw
  dsimp only
  rw [if_pos (by exact high)]
  simp only [nobody, drawn, if_true]
  exact ⟨_, rfl, rfl⟩

theorem Raises.issues (raises : Raises context market amount issued left issuance) :
    Issues market issued left issuance.accounts := by
  cases raises with
  | refused => exact .refused
  | opened first opening =>
    have idle := List.mem_of_mem_head? first
    exact .opened (List.mem_filter.mp idle).1 opening _ _ _
  | drawn nobody adjustment => exact .drawn adjustment

theorem Raises.accepted_iff (raises : Raises context market amount issued left issuance) :
    issuance.tally.accepted = 0 ↔ issued = false := by
  cases raises <;> simp [Tally.accept, Tally.reject]

/-- Where no issuance was accepted, the market is as it was. -/
theorem Caps.unissued (caps : Caps context market outcome last mid) (none : last.issuance.tally.accepted = 0) :
    mid = market := by
  cases caps with
  | within => rfl
  | attempted high raises =>
    obtain rfl := raises.accepted_iff.mp none
    exact raises.issues.refused_eq (by simp)

theorem Caps.kept (caps : Caps context market outcome last mid) :
    last.liquidityDemand = outcome.liquidityDemand ∧ last.redemptionTally = outcome.redemptionTally := by
  cases caps <;> exact ⟨rfl, rfl⟩

theorem Caps.totalDeposits (caps : Caps context market outcome last mid) :
    mid.ledger.totalDeposits = market.ledger.totalDeposits := by
  cases caps with
  | within => rfl
  | attempted high raises => exact raises.issues.totalDeposits

end
end Market

namespace Ledger
variable {ledger left : Ledger ℝ} {account : AccountId} {change : TroveChange ℝ} {terms : Terms ℝ}

/-- Out of recovery the debt of a new trove is the net debt with its fee and the gas reserve. -/
theorem Opening.debt_of_calm {collateral netDebt : ℝ} (opening : Opening ledger account collateral netDebt change left)
    (calm : ¬ ledger.InRecovery) :
    change.debt = netDebt * (1 + ledger.borrowingRate) + ledger.terms.gasCompensation := by
  rw [opening.debt_eq, opening.fee_eq, if_neg calm]
  ring

/-- Out of recovery a draw adds its fee to the debt. -/
theorem Adjustment.debt_of_draw {collateralDelta debtDelta : ℝ} {trove : Trove ℝ}
    (adjustment : Adjustment ledger account collateralDelta debtDelta trove change left) (calm : ¬ ledger.InRecovery)
    (draws : 0 < debtDelta) : change.debt = debtDelta * (1 + ledger.borrowingRate) := by
  rw [adjustment.debt_eq, adjustment.fee_eq, if_pos ⟨draws, calm⟩]
  ring

/-- A trove that is opened with a multiple of its debt in collateral has that ratio. -/
theorem Opening.icr_of_multiple {collateral netDebt multiple : ℝ}
    (opening : Opening ledger account collateral netDebt change left) (secured : ledger.Secured terms)
    (positive : 0 < ledger.price) (collateral_eq : collateral = multiple * change.debt / ledger.price) :
    left.icr? account = some (.of multiple) := by
  have large : tolerance < change.debt := (opening.trove_sound secured).large secured.secure
  have indebted : change.debt ≠ 0 := (tolerance_pos.trans large).ne'
  rw [opening.icr_eq secured, ratio_of_some large, collateral_eq, div_mul_cancel₀ _ positive.ne',
    mul_div_cancel_right₀ _ indebted]

end Ledger

namespace Market
variable {context : Context ℝ} {market left : Market ℝ} {terms : Terms ℝ} {amount demand : ℝ} {issuance : Issuance ℝ}

/-! ### The market that is left -/

/-- The amount can be issued as it is: the whale draws it, or it covers the minimum debt of a
    trove with its fee and the gas reserve. -/
def Solvable (context : Context ℝ) (market : Market ℝ) (amount : ℝ) : Prop :=
  market.roster.idleBorrowers = [] ∨
    context.parameters.terms.minNetDebt ≤
      (amount - context.parameters.terms.gasCompensation) / (1 + market.ledger.borrowingRate)

/-- The stablecoin that circulates is what is in demand at the ceiling, and more only where a
    trove needed more debt. The trove is at the ratio of arbitrage, and what was counted is
    what it consists of. -/
structure MeetsCeiling (context : Context ℝ) (market : Market ℝ) (demand : ℝ) (issuance : Issuance ℝ)
    (left : Ledger ℝ) : Prop where
  borrowingRate : left.borrowingRate = market.ledger.borrowingRate
  circulating : Solvable context market (market.shortfall context demand) → left.circulating =
    demand * Number.pow (market.ceiling context) context.parameters.liquidity.elasticity
  beyond : ¬ Solvable context market (market.shortfall context demand) →
    demand * Number.pow (market.ceiling context) context.parameters.liquidity.elasticity < left.circulating
  accounts : issuance.accounts = market.roster.idleBorrowers.head?.toList
  icr : ∀ account ∈ issuance.accounts, left.icr? account = some (.of context.parameters.liquidity.arbitrageCr)
  trove : ∀ account ∈ issuance.accounts, left.troves.get? account =
    some ⟨issuance.collateralAdded, issuance.stableIssued + issuance.fee + context.parameters.terms.gasCompensation⟩

/-- What a trove of arbitrage owes is the amount, or more where the amount does not cover the
    minimum debt. -/
theorem arbitrageDebt_owed (context : Context ℝ) (market : Market ℝ) (amount : ℝ)
    (rate : 0 ≤ market.ledger.borrowingRate) :
    let owed := market.arbitrageDebt context amount * (1 + market.ledger.borrowingRate) +
      context.parameters.terms.gasCompensation
    let net := (amount - context.parameters.terms.gasCompensation) / (1 + market.ledger.borrowingRate)
    (context.parameters.terms.minNetDebt ≤ net → owed = amount) ∧
      (net < context.parameters.terms.minNetDebt → amount < owed) := by
  intro owed net
  have positive : 0 < 1 + market.ledger.borrowingRate := by linarith
  constructor
  · intro enough
    have debt : market.arbitrageDebt context amount = net := by
      rw [arbitrageDebt, Number.max_real]
      exact max_eq_left enough
    simp only [owed, debt, net, div_mul_cancel₀ _ positive.ne', sub_add_cancel]
  · intro small
    have debt : market.arbitrageDebt context amount = context.parameters.terms.minNetDebt := by
      rw [arbitrageDebt, Number.max_real]
      exact max_eq_right small.le
    have more := (div_lt_iff₀ positive).mp small
    simp only [owed, debt]
    linarith

/-- Above the ceiling the supply falls short. -/
theorem shortfall_pos (demand_pos : 0 < demand) (ceiling_pos : 0 < market.ceiling context)
    (elastic : context.parameters.liquidity.elasticity < 0)
    (high : market.ceiling context <
      market.ledger.marketPrice demand context.parameters.liquidity.elasticity) :
    0 < market.shortfall context demand := by
  have less := circulating_lt_of_above demand_pos ceiling_pos elastic high
  rw [shortfall]
  linarith

/-- Issuing the shortfall out of recovery meets the ceiling. -/
theorem Raises.meets (raises : Raises context market (market.shortfall context demand) true left issuance)
    (secured : market.ledger.Secured context.parameters.terms) (calm : ¬ market.ledger.InRecovery)
    (price : context.collateralPrice = market.ledger.price) (positive : 0 < market.ledger.price)
    (short : 0 < market.shortfall context demand) : MeetsCeiling context market demand issuance left.ledger := by
  have rate := secured.borrowingRate_nonneg
  have terms := secured.terms_eq
  have pool := raises.issues.totalDeposits
  have target : demand * Number.pow (market.ceiling context) context.parameters.liquidity.elasticity =
      market.ledger.circulating + market.shortfall context demand := by
    rw [circulating, shortfall]
    ring
  cases raises with
  | @opened account change left first opening =>
    obtain ⟨enough, less⟩ := arbitrageDebt_owed context market (market.shortfall context demand) rate
    have debt := opening.debt_of_calm calm
    rw [terms] at debt
    rw [← debt] at enough less
    have supply : left.circulating = market.ledger.circulating + change.debt := by
      rw [circulating, circulating, pool, opening.left_eq]
      ring
    have borrower : market.roster.idleBorrowers ≠ [] := by
      intro nobody
      rw [nobody] at first
      cases first
    refine
      { borrowingRate := by rw [opening.left_eq]; rfl
        circulating := fun solvable => ?_
        beyond := fun unsolvable => ?_
        accounts := by rw [first]; rfl
        icr := fun id member => ?_
        trove := fun id member => ?_ }
    · rw [supply, enough (solvable.resolve_left borrower), target]
    · have more := less (not_le.mp fun covers => unsolvable (.inr covers))
      rw [supply, target]
      linarith
    · obtain rfl := List.mem_singleton.mp member
      refine opening.icr_of_multiple secured positive ?_
      rw [debt, arbitrageCollateral, price]
    · obtain rfl := List.mem_singleton.mp member
      have owed := opening.debt_eq
      rw [terms] at owed
      rw [opening.left_eq, Book.get?_insert, if_pos rfl, owed, zero_add, zero_add, zero_add]
  | @drawn trove change left nobody adjustment =>
    have drawn : 0 < market.shortfall context demand / (1 + market.ledger.borrowingRate) :=
      div_pos short (by linarith)
    have debt := adjustment.debt_of_draw calm drawn
    rw [div_mul_cancel₀ _ (by linarith)] at debt
    have supply : left.circulating = market.ledger.circulating + change.debt := by
      rw [circulating, circulating, pool, adjustment.left_eq, adjustment.debt_eq]
      ring
    exact
      { borrowingRate := by rw [adjustment.left_eq]; rfl
        circulating := fun _ => by rw [supply, debt, target]
        beyond := fun unsolvable => absurd (.inl nobody) unsolvable
        accounts := by rw [nobody]; rfl
        icr := fun _ member => absurd member List.not_mem_nil
        trove := fun _ member => absurd member List.not_mem_nil }

/-- The bundle without shocks over two accounts, with a ceiling at par. -/
noncomputable def slimParameters : Parameters ℝ :=
  { Parameters.quiet with
    accounts := 2
    liquidity := { Parameters.quiet.liquidity with elasticity := -1, ceiling := 1 } }

theorem slimParameters_valid : slimParameters.Valid :=
  { quiet_valid with
    accounts := by decide
    elasticity := by norm_num [slimParameters] }

theorem slimParameters_conventional : slimParameters.terms.Conventional := defaultTerms_conventional

/-- The whale has borrowed little more than the minimum. -/
noncomputable def slim : Ledger ℝ :=
  { new Parameters.defaultTerms 2000.0 with
    troves := ⟨[(whale, ⟨10.0, 2210.0⟩)], by simp⟩
    balances := ⟨[(whale, 2000.0)], by simp⟩
    feePool := 10.0
    gasPool := 200.0
    supply := 2210.0 }

theorem slim_opened :
    (new Parameters.defaultTerms 2000.0).openTrove whale 10.0 2000.0 = .ok (⟨10.0, 2210.0, 10.0⟩, slim) := by
  apply CalmOpening.accepted
  constructor
  case calm => exact new_calm _ _
  all_goals norm_num [readings, slim, Parameters.defaultTerms, new]

theorem slim_reached : (new slimParameters.terms 2000.0).after [.openTrove whale 10.0 2000.0] = slim :=
  congrArg (fun opened => (settle _ opened Answer.changed).2) slim_opened

/-- The whale is active, and the other account idle. -/
noncomputable def slimRoster : Roster ℝ := (Roster.ofSize 2).activate whale 9.0 1.0 0

noncomputable def slimPeriod : Context ℝ :=
  { fallenPeriod with parameters := slimParameters, collateralPrice := 2000.0 }

/-- A market in which only the whale borrows, little more than the minimum, at a period without
    shocks. The gains of depositors may be any. -/
structure Slim (context : Context ℝ) (market : Market ℝ) : Prop where
  liquidity : context.parameters.liquidity = slimParameters.liquidity
  terms : context.parameters.terms = Parameters.defaultTerms
  price : context.collateralPrice = 2000.0
  gains : GainsApart slim market.ledger

theorem slim_slim (roster : Roster ℝ) :
    Slim slimPeriod ⟨(new slimParameters.terms 2000.0).after [.openTrove whale 10.0 2000.0], roster⟩ :=
  ⟨rfl, rfl, rfl, slim_reached ▸ .refl slim⟩

namespace Slim

theorem readings (slim : Slim context market) :
    market.ledger.supply = 2210 ∧ market.ledger.totalDeposits = 0 ∧ market.ledger.borrowingRate = 0.005 ∧
      market.ledger.redemptionRate = 0.005 ∧ market.ledger.balance whale = 2000 := by
  obtain ⟨collateralGains, rewardGains, poolCollateral, same⟩ := slim.gains
  rw [same]
  norm_num [Ledger.readings, Market.slim, Parameters.defaultTerms, new]

theorem liquidity_eq (slim : Slim context market) : context.parameters.liquidity = ⟨1, 0, -1, 1, 1.2⟩ := by
  rw [slim.liquidity]
  norm_num [slimParameters, Parameters.quiet, Parameters.default, Parameters.defaultLiquidity]

/-- The price is what is in demand for each stablecoin that circulates. -/
theorem clearingPrice_eq (slim : Slim context market) {supply : ℝ} (large : 1 ≤ supply) (demand : ℝ) :
    clearingPrice (supply - market.ledger.totalDeposits) demand context.parameters.liquidity.elasticity =
      demand / supply := by
  have some : tolerance ≤ supply := by
    rw [Number.tolerance_real]
    linarith
  rw [clearingPrice, slim.readings.2.1, slim.liquidity_eq, sub_zero, Number.max_real, max_eq_left some,
    Number.pow_real]
  norm_num [Real.rpow_neg_one]

theorem cleared_eq (slim : Slim context market) (demand : ℝ) :
    cleared context market demand = ⟨demand / 2210, demand, 0, 0, [], {}, Issuance.none⟩ := by
  have price := slim.clearingPrice_eq (by norm_num : (1 : ℝ) ≤ 2210) demand
  rw [← slim.readings.1] at price
  simp only [cleared, Ledger.marketPrice, slim.readings.1, slim.liquidity_eq, normalShock_zero, mul_one,
    add_zero] at price ⊢
  rw [price]

theorem ceiling_eq (slim : Slim context market) : market.ceiling context = 1.005 := by
  obtain ⟨_, _, borrowing, _⟩ := slim.readings
  norm_num [ceiling, slim.liquidity_eq, borrowing]

/-- What is in demand at the ceiling. -/
theorem demand_eq (slim : Slim context market) (demand : ℝ) :
    demand * Number.pow (market.ceiling context) context.parameters.liquidity.elasticity = demand / 1.005 := by
  rw [slim.ceiling_eq, slim.liquidity_eq, Number.pow_real, Real.rpow_neg_one, div_eq_mul_inv]

theorem shortfall_eq (slim : Slim context market) (demand : ℝ) :
    market.shortfall context demand = demand / 1.005 - 2210 := by
  obtain ⟨supply, pool, _⟩ := slim.readings
  rw [shortfall, slim.demand_eq, supply, pool, zero_add]

theorem high (slim : Slim context market) {demand : ℝ} (above : 1.005 * 2210 < demand) :
    market.ceiling context < (cleared context market demand).stablePrice := by
  rw [slim.ceiling_eq, slim.cleared_eq]
  exact (lt_div_iff₀ (by norm_num)).mpr above

/-- What is left of the market once the other account has opened a trove with that net debt. -/
structure Joined (netDebt : ℝ) (ledger : Ledger ℝ) : Prop where
  supply : ledger.supply = 2410 + netDebt * 1.005
  pool : ledger.totalDeposits = 0
  redemptionRate : ledger.redemptionRate = 0.005
  held : ledger.balance whale = 2000

/-- A trove of arbitrage is accepted up to a large debt. -/
theorem opens (slim : Slim context market) {netDebt : ℝ} (enough : 1800 ≤ netDebt) (few : netDebt ≤ 50000) :
    ∃ change left, Joined netDebt left ∧
      market.ledger.openTrove 1 (1.2 * (netDebt * 1.005 + 200) / 2000) netDebt = .ok (change, left) := by
  obtain ⟨collateralGains, rewardGains, poolCollateral, same⟩ := slim.gains
  rw [same]
  have opening : CalmOpening { Market.slim with collateralGains, rewardGains, poolCollateral } 1
      (1.2 * (netDebt * 1.005 + 200) / 2000) netDebt
      ⟨1.2 * (netDebt * 1.005 + 200) / 2000, netDebt * 1.005 + 200, netDebt * 0.005⟩
      { Market.slim with
        collateralGains, rewardGains, poolCollateral
        troves := ⟨[(whale, ⟨10.0, 2210.0⟩), (1, ⟨1.2 * (netDebt * 1.005 + 200) / 2000, netDebt * 1.005 + 200⟩)],
          by simp [whale]⟩
        balances := ⟨[(whale, 2000.0), (1, netDebt)], by simp [whale]⟩
        feePool := 10.0 + netDebt * 0.005
        gasPool := 400.0
        supply := 2410 + netDebt * 1.005 } := by
    constructor
    all_goals norm_num [inRecovery_iff, Ledger.readings, Market.slim, Parameters.defaultTerms, new, whale,
      Number.tolerance_real]
    all_goals linarith
  refine ⟨_, _, ⟨rfl, ?_, ?_, ?_⟩, opening.accepted⟩ <;>
    norm_num [Ledger.readings, Market.slim, Parameters.defaultTerms, new]

/-- Above the ceiling the other account opens its trove. -/
theorem issues (slim : Slim context market) (first : market.roster.idleBorrowers.head? = some 1) {demand netDebt : ℝ}
    (above : 1.005 * 2210 < demand) (debt : netDebt = max ((demand / 1.005 - 2410) / 1.005) 1800)
    (few : netDebt ≤ 50000) :
    ∃ left inattention issuance, Joined netDebt left ∧ issuance.tally.accepted = 1 ∧ issuance.accounts = [1] ∧
      0 ≤ issuance.collateralAdded ∧
      capped context market demand =
        (⟨left, market.roster.activate 1 context.parameters.liquidity.arbitrageCr inattention context.period⟩,
          ⟨demand / (2410 + netDebt * 1.005), demand, 0, 0, [], {}, issuance⟩) := by
  obtain ⟨supply, pool, borrowing, _⟩ := slim.readings
  have gas : context.parameters.terms.gasCompensation = 200 := by
    norm_num [slim.terms, Parameters.defaultTerms]
  have minimum : context.parameters.terms.minNetDebt = 1800 := by
    norm_num [slim.terms, Parameters.defaultTerms]
  have owed : market.arbitrageDebt context (market.shortfall context demand) = netDebt := by
    rw [arbitrageDebt, slim.shortfall_eq, gas, minimum, borrowing, Number.max_real, debt]
    ring_nf
  have posted : market.arbitrageCollateral context (market.shortfall context demand) =
      1.2 * (netDebt * 1.005 + 200) / 2000 := by
    rw [arbitrageCollateral, owed, gas, borrowing, slim.liquidity_eq, slim.price]
    norm_num
  have enough : 1800 ≤ netDebt := debt ▸ le_max_right _ _
  obtain ⟨change, left, joined, opened⟩ := slim.opens enough few
  rw [← posted, ← owed] at opened
  obtain ⟨inattention, issuance, accepted, accounts, added, issued⟩ := capped_opened (slim.high above) first
    (by rwa [slim.cleared_eq])
  rw [slim.cleared_eq] at added issued
  dsimp only at added issued
  rw [joined.supply, slim.clearingPrice_eq (by linarith)] at issued
  refine ⟨left, inattention, issuance, joined, accepted, accounts, ?_, issued⟩
  rw [added, posted, zero_add]
  linarith

/-- So is a draw of the whale. -/
theorem adjusts (slim : Slim context market) {draw : ℝ} (one_le : 1 ≤ draw) (few : draw ≤ 50000) :
    ∃ change left, left.supply = 2210 + draw * 1.005 ∧ left.redemptionRate = 0.005 ∧
      market.ledger.adjustTrove whale (1.2 * (draw * 1.005) / 2000) draw = .ok (change, left) := by
  obtain ⟨collateralGains, rewardGains, poolCollateral, same⟩ := slim.gains
  rw [same]
  have adjustment : CalmAdjustment { Market.slim with collateralGains, rewardGains, poolCollateral } whale
      (1.2 * (draw * 1.005) / 2000) draw (draw * 0.005) ⟨10.0, 2210.0⟩
      { Market.slim with
        collateralGains, rewardGains, poolCollateral
        troves := ⟨[(whale, ⟨10.0 + 1.2 * (draw * 1.005) / 2000, 2210.0 + draw + draw * 0.005⟩)], by simp⟩
        balances := ⟨[(whale, 2000.0 + draw)], by simp⟩
        feePool := 10.0 + draw * 0.005
        supply := 2210 + draw * 1.005 } := by
    constructor
    case moves =>
      have large : tolerance < draw := by
        rw [Number.tolerance_real]
        linarith
      exact .inr (large.trans_le (le_abs_self draw))
    all_goals norm_num [inRecovery_iff, Ledger.readings, Market.slim, Parameters.defaultTerms, new, whale,
      Number.tolerance_real]
    all_goals linarith
  refine ⟨_, _, rfl, ?_, adjustment.accepted⟩
  norm_num [Ledger.readings, Market.slim, Parameters.defaultTerms, new]

/-- Where every account borrows, the whale draws the shortfall. -/
theorem draws (slim : Slim context market) (nobody : market.roster.idleBorrowers = []) {demand draw : ℝ}
    (demand_eq : demand = 1.005 * (2210 + draw * 1.005)) (one_le : 1 ≤ draw) (few : draw ≤ 50000) :
    ∃ left issuance, left.redemptionRate = 0.005 ∧ issuance.tally.accepted = 1 ∧
      capped context market demand =
        (⟨left, market.roster⟩, ⟨demand / (2210 + draw * 1.005), demand, 0, 0, [], {}, issuance⟩) := by
  obtain ⟨_, _, borrowing, _⟩ := slim.readings
  have short : market.shortfall context demand = draw * 1.005 := by
    rw [slim.shortfall_eq, demand_eq, mul_div_cancel_left₀ _ (by norm_num)]
    ring
  have posted : context.parameters.liquidity.arbitrageCr * market.shortfall context demand / context.collateralPrice =
      1.2 * (draw * 1.005) / 2000 := by
    rw [short, slim.liquidity_eq, slim.price]
    norm_num
  have owed : market.shortfall context demand / (1 + market.ledger.borrowingRate) = draw := by
    rw [short, borrowing]
    norm_num
  obtain ⟨change, left, supply, redemption, drawn⟩ := slim.adjusts one_le few
  rw [← posted, ← owed] at drawn
  have above : 1.005 * 2210 < demand := by linarith
  obtain ⟨issuance, accepted, issued⟩ := capped_drawn (slim.high above) nobody (by rwa [slim.cleared_eq])
  rw [slim.cleared_eq] at issued
  dsimp only at issued
  rw [supply, slim.clearingPrice_eq (by linarith)] at issued
  exact ⟨left, issuance, redemption, accepted, issued⟩

end Slim

end Market
end Stablecoin
