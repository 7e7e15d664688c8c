import Stablecoin.Proofs.Ledger.RedemptionOrder
import Stablecoin.Proofs.Market.Floor

namespace Stablecoin
open Ledger
open Number (tolerance tolerance_pos)

namespace Market
variable {context : Context ℝ} {market mid left : Market ℝ} {outcome last : PegOutcome ℝ} {amount demand : ℝ}
  {terms : Terms ℝ}

/-- A redemption at the floor takes no more than the excess and what the whale holds. What
    circulates then is what is in demand at the floor and what is left of the excess, less the
    gas reserves of the troves that were closed. -/
structure MeetsFloor (context : Context ℝ) (market : Market ℝ) (outcome : PegOutcome ℝ) (left : Ledger ℝ) : Prop where
  held : outcome.redeemed ≤ market.ledger.balance whale
  within : outcome.redeemed ≤ market.excess context outcome.liquidityDemand market.ledger.supply
  circulating : left.circulating =
    outcome.liquidityDemand * Number.pow market.floor context.parameters.liquidity.elasticity +
      (market.excess context outcome.liquidityDemand market.ledger.supply - outcome.redeemed) -
      context.parameters.terms.gasCompensation * outcome.redeemedOut.length

/-- A redemption that was not accepted leaves the ledger alone. -/
theorem Offers.unredeemed (offers : Offers context market outcome amount last left)
    (wellFormed : market.ledger.WellFormed) (none : last.redemptionTally.accepted = 0) :
    left.ledger = market.ledger := by
  cases offers with
  | small => rfl
  | refused some redeems => exact redeems_refused wellFormed redeems
  | accepted => exact absurd none (Nat.succ_ne_zero _)

/-- An accepted redemption of what the supply exceeds the demand by meets the floor. -/
theorem Offers.meets
    (offers :
      Offers context market outcome (market.offer context outcome.liquidityDemand market.ledger.supply) last left)
    (secured : market.ledger.Secured context.parameters.terms) (fresh : outcome.redemptionTally = {})
    (redeemed : last.redemptionTally.accepted ≠ 0) : MeetsFloor context market last left.ledger := by
  cases offers with
  | small => exact absurd (congrArg Tally.accepted fresh) redeemed
  | refused => exact absurd (congrArg Tally.accepted fresh) redeemed
  | @accepted redemption after some redeems =>
    obtain ⟨within, -, -, -, supply⟩ := secured.redeems_amounts redeems
    rw [offer, Number.min_real] at within
    refine ⟨within.trans (min_le_right _ _), within.trans (min_le_left _ _), ?_⟩
    rw [circulating, redeems_totalDeposits redeems, supply, excess]
    ring

/-- An issuance above the ceiling meets it. -/
theorem Caps.meets (caps : Caps context market outcome last mid)
    (secured : market.ledger.Secured context.parameters.terms) (calm : ¬ market.ledger.InRecovery)
    (price : context.collateralPrice = market.ledger.price) (positive : 0 < market.ledger.price)
    (ceiling : 0 < context.parameters.liquidity.ceiling) (elastic : context.parameters.liquidity.elasticity < 0)
    (clears : outcome.stablePrice =
      market.ledger.marketPrice outcome.liquidityDemand context.parameters.liquidity.elasticity)
    (fresh : outcome.issuance.tally.accepted = 0) (demand : 0 < outcome.liquidityDemand)
    (issued : last.issuance.tally.accepted ≠ 0) :
    MeetsCeiling context market outcome.liquidityDemand last.issuance mid.ledger := by
  cases caps with
  | within => exact absurd fresh issued
  | attempted high raises =>
    rw [clears] at high
    have above : 0 < market.ceiling context := add_pos_of_pos_of_nonneg ceiling secured.borrowingRate_nonneg
    have accepted := mt raises.accepted_iff.mpr issued
    rw [Bool.not_eq_false] at accepted
    subst accepted
    exact raises.meets secured calm price positive (shortfall_pos demand above elastic high)

/-- After any calls out of recovery, with the price of the collateral as the ledger has it and
    a positive demand: an issuance without a redemption after it meets the ceiling, and a
    redemption without an issuance before it meets the floor. -/
theorem stabilizePrice_meets {p : Parameters ℝ} (valid : p.Valid) (conventional : p.terms.Conventional)
    (ceiling : 0 < p.liquidity.ceiling) (price : ℝ) (calls : List (Call ℝ)) (roster : Roster ℝ) (context : Context ℝ)
    (parameters : context.parameters = p) (previousDemand : ℝ) :
    let market : Market ℝ := ⟨(new p.terms price).after calls, roster⟩
    let left := stabilizePrice context market previousDemand
    ¬ market.ledger.InRecovery → context.collateralPrice = market.ledger.price → 0 < market.ledger.price →
      0 < left.2.liquidityDemand →
        (left.2.issuance.tally.accepted ≠ 0 → left.2.redemptionTally.accepted = 0 →
            MeetsCeiling context market left.2.liquidityDemand left.2.issuance left.1.ledger) ∧
          (left.2.issuance.tally.accepted = 0 → left.2.redemptionTally.accepted ≠ 0 →
            MeetsFloor context market left.2 left.1.ledger) := by
  intro market left calm collateralPrice positive demand
  subst parameters
  have admissible := valid.admissible conventional
  have wellFormed : market.ledger.WellFormed := after_wellFormed admissible price calls
  have secured : market.ledger.Secured context.parameters.terms := after_secured admissible.secure price calls
  have elastic : context.parameters.liquidity.elasticity < 0 := not_le.mp valid.elasticity
  have caps := capped_caps context market previousDemand
  have ended := stabilizePrice_cases context market previousDemand
  obtain ⟨sameDemand, fresh⟩ := caps.kept
  obtain ⟨issuance, demanded⟩ := stabilizePrice_kept context market previousDemand
  dsimp only [left] at demand ⊢
  rw [demanded] at demand ⊢
  rw [issuance]
  constructor
  · intro issued unredeemed
    have kept : left.1.ledger = (capped context market previousDemand).1.ledger := by
      rcases ended with ⟨_, offers⟩ | ⟨_, same⟩
      · have raised := (capped_defends context market previousDemand).wellFormed wellFormed
        exact offers.unredeemed raised unredeemed
      · exact congrArg (·.1.ledger) same
    rw [sameDemand] at demand ⊢
    rw [kept]
    exact caps.meets secured calm collateralPrice positive ceiling elastic rfl rfl demand issued
  · intro unissued redeemed
    have same := caps.unissued unissued
    rcases ended with ⟨_, offers⟩ | ⟨_, ended⟩
    · rw [same] at offers
      exact offers.meets secured fresh redeemed
    · rw [ended, fresh] at redeemed
      exact absurd rfl redeemed

/-- Every account borrows: there is only the whale. -/
noncomputable def fullRoster : Roster ℝ := (Roster.ofSize 1).activate whale 9.0 1.0 0

/-- A slim market at four demands. A little above the ceiling a trove needs the minimum debt and
    takes the market beyond it, and far above it lands there, as the whale's draw does. Below the
    floor the whale redeems the excess. -/
theorem slim_meets :
    let market (roster : Roster ℝ) : Market ℝ :=
      ⟨(new slimParameters.terms 2000.0).after [.openTrove whale 10.0 2000.0], roster⟩
    let left (roster : Roster ℝ) (demand : ℝ) := stabilizePrice slimPeriod (market roster) demand
    (slimParameters.Valid ∧ slimParameters.terms.Conventional ∧ 0 < slimParameters.liquidity.ceiling ∧
        ∀ roster, ¬ (market roster).ledger.InRecovery) ∧
      ((left slimRoster 2225).2.issuance.tally.accepted = 1 ∧
        MeetsCeiling slimPeriod (market slimRoster) 2225 (left slimRoster 2225).2.issuance
          (left slimRoster 2225).1.ledger ∧
        2225 / 1.005 < (left slimRoster 2225).1.ledger.circulating) ∧
      ((left slimRoster 4442.1).2.issuance.accounts = [1] ∧
        (left slimRoster 4442.1).1.ledger.circulating = 4442.1 / 1.005 ∧
        (left slimRoster 4442.1).1.ledger.icr? 1 = some (.of 1.2)) ∧
      ((left fullRoster 3231.075).2.issuance.tally.accepted = 1 ∧
        (left fullRoster 3231.075).1.ledger.circulating = 3231.075 / 1.005) ∧
      ((left slimRoster 1999.95).2.redeemed = 200 ∧
        MeetsFloor slimPeriod (market slimRoster) (left slimRoster 1999.95).2 (left slimRoster 1999.95).1.ledger ∧
        (left slimRoster 1999.95).1.ledger.circulating = 1999.95 / 0.995) := by
  intro market left
  have ceiling : 0 < slimParameters.liquidity.ceiling := by norm_num [slimParameters]
  have calm (roster : Roster ℝ) : ¬ (market roster).ledger.InRecovery := by
    dsimp only [market]
    rw [slim_reached]
    norm_num [inRecovery_iff, readings, slim, Parameters.defaultTerms, new]
  have slim (roster : Roster ℝ) : Slim slimPeriod (market roster) := slim_slim roster
  have price (roster : Roster ℝ) : slimPeriod.collateralPrice = (market roster).ledger.price := by
    dsimp only [market]
    rw [slim_reached]
    rfl
  have meets (roster : Roster ℝ) (demand : ℝ) := stabilizePrice_meets slimParameters_valid slimParameters_conventional
    ceiling 2000.0 [.openTrove whale 10.0 2000.0] roster slimPeriod rfl demand (calm roster) (price roster)
    (by rw [← price roster]; norm_num [slimPeriod])
  have raised (roster : Roster ℝ) {demand : ℝ} {last : Market ℝ} {outcome : PegOutcome ℝ}
      (ended : left roster demand = (last, outcome)) (positive : 0 < outcome.liquidityDemand)
      (accepted : outcome.issuance.tally.accepted = 1) (unredeemed : outcome.redemptionTally.accepted = 0) :
      MeetsCeiling slimPeriod (market roster) outcome.liquidityDemand outcome.issuance last.ledger := by
    have met := meets roster demand
    rw [show stabilizePrice slimPeriod (market roster) demand = _ from ended] at met
    exact (met positive).1 (by simp [accepted]) unredeemed
  refine ⟨⟨slimParameters_valid, slimParameters_conventional, ceiling, calm⟩, ?_, ?_, ?_, ?_⟩
  · -- Less is short than the minimum debt.
    obtain ⟨ledger, roster, issuance, joined, accepted, -, -, ended⟩ := (slim slimRoster).issued rfl
      (by norm_num : (1.005 : ℝ) * 2210 < 2225) (by norm_num : 1800 = max (((2225 : ℝ) / 1.005 - 2410) / 1.005) 1800)
      (by norm_num)
    have meets := raised slimRoster ended (by norm_num) accepted rfl
    rw [show left slimRoster 2225 = _ from ended]
    refine ⟨accepted, meets, ?_⟩
    norm_num [circulating, joined.supply, joined.pool]
  · obtain ⟨ledger, roster, issuance, joined, accepted, accounts, -, ended⟩ := (slim slimRoster).issued rfl
      (by norm_num : (1.005 : ℝ) * 2210 < 4442.1) (by norm_num : 2000 = max (((4442.1 : ℝ) / 1.005 - 2410) / 1.005) 1800)
      (by norm_num)
    have solvable : Solvable slimPeriod (market slimRoster) ((market slimRoster).shortfall slimPeriod 4442.1) := by
      refine .inr ?_
      rw [(slim slimRoster).shortfall_eq, (slim slimRoster).readings.2.2.1, (slim slimRoster).terms]
      norm_num [Parameters.defaultTerms]
    have meets := raised slimRoster ended (by norm_num) accepted rfl
    rw [show left slimRoster 4442.1 = _ from ended]
    refine ⟨accounts, (meets.circulating solvable).trans ((slim slimRoster).demand_eq _), ?_⟩
    rw [meets.icr 1 (by simp [accounts]), (slim slimRoster).liquidity_eq]
  · have nobody : fullRoster.idleBorrowers = [] := by decide
    obtain ⟨ledger, issuance, accepted, ended⟩ := (slim fullRoster).drawn nobody
      (by norm_num : (3231.075 : ℝ) = 1.005 * (2210 + 1000 * 1.005)) (by norm_num) (by norm_num)
    have meets := raised fullRoster ended (by norm_num) accepted rfl
    rw [show left fullRoster 3231.075 = _ from ended]
    exact ⟨accepted, (meets.circulating (.inl nobody)).trans ((slim fullRoster).demand_eq _)⟩
  · obtain ⟨after, outcome, ended, demand, amount, closed, tally, unissued⟩ := (slim slimRoster).redeemed
    have met := meets slimRoster 1999.95
    rw [ended] at met
    dsimp only at met
    rw [demand] at met
    have meets := (met (by norm_num)).2 unissued (by simp [tally])
    rw [show left slimRoster 1999.95 = _ from ended]
    refine ⟨amount, meets, ?_⟩
    rw [meets.circulating, demand, (slim slimRoster).demand_floor, (slim slimRoster).excess_eq, amount, closed]
    norm_num

end Market
end Stablecoin
