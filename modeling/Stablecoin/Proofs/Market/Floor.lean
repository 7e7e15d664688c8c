import Stablecoin.Proofs.Market.Ceiling

/-!
What the defence of the floor offers to redeem. It offers what the supply exceeds the demand
at the floor by, up to what the whale holds (`Market.offer`), and the supply that it goes by
is the one from before the defence of the ceiling (`stabilizePrice_offers`). That is the
supply of the market as it is if nothing was issued in between. A trove that had to reach the
minimum debt can take the price from above the ceiling to below the floor, and then the offer
misses all of what was issued: nothing is redeemed, and the price stays below the floor
(`slim_undefended`).
-/
namespace Stablecoin
open Ledger
open Number (tolerance)

namespace Market
section
variable {α : Type} [Number α]

/-- The price below which stablecoin is redeemed. -/
def floor (market : Market α) : α := 1 - market.ledger.redemptionRate

/-- What a supply exceeds the pool and the demand at the floor by. -/
def excess (context : Context α) (market : Market α) (demand supply : α) : α :=
  supply - (market.ledger.totalDeposits + demand * Number.pow market.floor context.parameters.liquidity.elasticity)

/-- The part of the excess that the whale holds. -/
def offer (context : Context α) (market : Market α) (demand supply : α) : α :=
  Number.min (market.excess context demand supply) (market.ledger.balance whale)

/-- How an offer to redeem the amount ends: left alone as too small, refused, or accepted,
    and then the accounts whose troves it closed are deactivated. -/
inductive Offers (context : Context α) (market : Market α) (outcome : PegOutcome α) (amount : α) :
    PegOutcome α → Market α → Prop
  | small (dust : ¬ tolerance < amount) : Offers context market outcome amount outcome market
  | refused {refusal : Refusal α} {left : Ledger α} (some : tolerance < amount)
      (redeems : Redeems market.ledger whale amount (.error refusal) left) :
      Offers context market outcome amount { outcome with redemptionTally := outcome.redemptionTally.reject }
        { market with ledger := left }
  | accepted {redemption : Redemption α} {left : Ledger α} (some : tolerance < amount)
      (redeems : Redeems market.ledger whale amount (.ok redemption) left) :
      Offers context market outcome amount
        { outcome with
          redeemed := redemption.redeemed
          redemptionFee := redemption.fee * context.collateralPrice
          redeemedOut := redemption.closed
          redemptionTally := outcome.redemptionTally.accept
          stablePrice := clearingPrice (left.supply - market.ledger.totalDeposits) outcome.liquidityDemand
            context.parameters.liquidity.elasticity }
        ⟨left, redemption.closed.foldl (fun roster account => roster.deactivate account context.period) market.roster⟩

/-- The defence goes by the supply of the market as it is: below the floor it offers what that
    supply exceeds the demand by, and it never leaves the price below the floor, and the
    redemptions untouched, while there is both an excess and stablecoin of the whale. -/
structure FollowsSupply (context : Context α) (start : α) (market : Market α) (outcome last : PegOutcome α)
    (left : Market α) : Prop where
  offered : outcome.stablePrice < market.floor →
    market.offer context outcome.liquidityDemand start =
      market.offer context outcome.liquidityDemand market.ledger.supply
  defended : last.stablePrice < left.floor → last.redemptionTally = {} →
    tolerance < left.excess context last.liquidityDemand left.ledger.supply → ¬ tolerance < left.ledger.balance whale

variable {context : Context α} {market left : Market α} {outcome last : PegOutcome α} {start amount demand : α}

theorem defendFloor_offers (context : Context α) (start : α) (outcome : PegOutcome α)
    (below : outcome.stablePrice < market.floor) :
    Offers context market outcome (market.offer context outcome.liquidityDemand start)
      (defendFloor context market market.ledger.totalDeposits start outcome).2
      (defendFloor context market market.ledger.totalDeposits start outcome).1 := by
  unfold defendFloor
  dsimp only
  rw [if_pos (by exact below)]
  split
  · rename_i some
    split
    · exact .refused some (redeems_of_redeem (by assumption))
    · exact .accepted some (redeems_of_redeem (by assumption))
  · rename_i dust
    exact .small dust

theorem min_eq_or (a b : α) : Number.min a b = a ∨ Number.min a b = b := by
  unfold Number.min
  split
  · exact .inr rfl
  · split
    · exact .inl rfl
    · exact .inr rfl

/-- The offer at two supplies is the same if the excess is, or if what the whale holds is the
    offer at both. -/
theorem offer_eq_iff (context : Context α) (market : Market α) (demand first second : α) :
    market.offer context demand first = market.offer context demand second ↔
      market.excess context demand first = market.excess context demand second ∨
        market.offer context demand first = market.ledger.balance whale ∧
          market.offer context demand second = market.ledger.balance whale := by
  constructor
  · intro same
    rcases min_eq_or (market.excess context demand first) (market.ledger.balance whale) with part | whole
    · rcases min_eq_or (market.excess context demand second) (market.ledger.balance whale) with other | held
      · exact .inl (part.symm.trans (same.trans other))
      · exact .inr ⟨same.trans held, held⟩
    · exact .inr ⟨whole, same.symm.trans whole⟩
  · rintro (same | ⟨first, second⟩)
    · rw [offer, same, offer]
    · rw [first, second]

theorem Offers.kept (offers : Offers context market outcome amount last left) :
    last.issuance = outcome.issuance ∧ last.liquidityDemand = outcome.liquidityDemand := by
  cases offers <;> exact ⟨rfl, rfl⟩

theorem Offers.of_dust (offers : Offers context market outcome amount last left) (dust : ¬ tolerance < amount) :
    (left, last) = (market, outcome) := by
  cases offers with
  | small => rfl
  | refused some => exact absurd some dust
  | accepted some => exact absurd some dust

/-- An offer that leaves the redemptions untouched was too small to be made. -/
theorem Offers.untouched (offers : Offers context market outcome amount last left)
    (untouched : last.redemptionTally = {}) : ¬ tolerance < amount ∧ last = outcome ∧ left = market := by
  cases offers with
  | small dust => exact ⟨dust, rfl, rfl⟩
  | refused => exact absurd (congrArg Tally.rejected untouched) (Nat.succ_ne_zero _)
  | accepted => exact absurd (congrArg Tally.accepted untouched) (Nat.succ_ne_zero _)

/-- Where the offer is the one of the current supply, the floor is defended. -/
theorem Offers.defends (offers : Offers context market outcome amount last left)
    (offered : amount = market.offer context outcome.liquidityDemand market.ledger.supply)
    (untouched : last.redemptionTally = {})
    (some : tolerance < left.excess context last.liquidityDemand left.ledger.supply) :
    ¬ tolerance < left.ledger.balance whale := by
  obtain ⟨dust, rfl, rfl⟩ := offers.untouched untouched
  intro held
  refine dust ?_
  rw [offered, offer]
  rcases min_eq_or (left.excess context last.liquidityDemand left.ledger.supply) (left.ledger.balance whale) with
    part | whole
  · rwa [part]
  · rwa [whole]

/-- Below the floor the step ends as an offer does, and otherwise with the defence of the
    ceiling. -/
theorem stabilizePrice_cases (context : Context α) (market : Market α) (previousDemand : α) :
    let mid := capped context market previousDemand
    let left := stabilizePrice context market previousDemand
    mid.2.stablePrice < mid.1.floor ∧ Offers context mid.1 mid.2
        (mid.1.offer context mid.2.liquidityDemand market.ledger.supply) left.2 left.1 ∨
      ¬ mid.2.stablePrice < mid.1.floor ∧ left = mid := by
  intro mid left
  have left_eq : left = defendFloor context mid.1 mid.1.ledger.totalDeposits market.ledger.supply mid.2 := by
    rw [(capped_caps context market previousDemand).totalDeposits]
    rfl
  rw [left_eq]
  by_cases below : mid.2.stablePrice < mid.1.floor
  · exact .inl ⟨below, defendFloor_offers context market.ledger.supply mid.2 below⟩
  · exact .inr ⟨below, if_neg below⟩

/-- Below the ceiling and the floor the whale redeems what is offered, if the ledger accepts it. -/
theorem stabilizePrice_redeems {previousDemand : α} {redemption : Redemption α} {ledger : Ledger α}
    (low : ¬ market.ceiling context < (cleared context market previousDemand).stablePrice)
    (below : (cleared context market previousDemand).stablePrice < market.floor)
    (some : tolerance < market.offer context (cleared context market previousDemand).liquidityDemand
      market.ledger.supply)
    (redeemed : market.ledger.redeem whale (market.offer context
      (cleared context market previousDemand).liquidityDemand market.ledger.supply) = (.ok redemption, ledger)) :
    stabilizePrice context market previousDemand =
      (⟨ledger, redemption.closed.foldl (fun roster account => roster.deactivate account context.period)
          market.roster⟩,
        { cleared context market previousDemand with
          redeemed := redemption.redeemed
          redemptionFee := redemption.fee * context.collateralPrice
          redeemedOut := redemption.closed
          redemptionTally := ({} : Tally).accept
          stablePrice := clearingPrice (ledger.supply - market.ledger.totalDeposits)
            (cleared context market previousDemand).liquidityDemand context.parameters.liquidity.elasticity }) := by
  have unissued : capped context market previousDemand = (market, cleared context market previousDemand) := if_neg low
  have floored : stabilizePrice context market previousDemand = defendFloor context
      (capped context market previousDemand).1 market.ledger.totalDeposits market.ledger.supply
      (capped context market previousDemand).2 := rfl
  unfold offer excess floor at some redeemed
  rw [floored, unissued, defendFloor]
  dsimp only
  rw [if_pos (by exact below), if_pos (by exact some)]
  simp only [redeemed]
  rfl

theorem stabilizePrice_kept (context : Context α) (market : Market α) (previousDemand : α) :
    (stabilizePrice context market previousDemand).2.issuance = (capped context market previousDemand).2.issuance ∧
      (stabilizePrice context market previousDemand).2.liquidityDemand =
        (capped context market previousDemand).2.liquidityDemand := by
  rcases stabilizePrice_cases context market previousDemand with ⟨_, offers⟩ | ⟨_, same⟩
  · exact offers.kept
  · rw [same]
    exact ⟨rfl, rfl⟩

/-- Below the floor the step offers the excess of the supply that it started with, up to what
    the whale holds. It follows the supply of the market as it is exactly if both supplies
    give the same excess, or the whale holds less than either, and always if nothing was
    issued. -/
theorem stabilizePrice_offers (context : Context α) (market : Market α) (previousDemand : α) :
    let mid := capped context market previousDemand
    let left := stabilizePrice context market previousDemand
    let demand := mid.2.liquidityDemand
    (mid.2.stablePrice < mid.1.floor →
        Offers context mid.1 mid.2 (mid.1.offer context demand market.ledger.supply) left.2 left.1) ∧
      (¬ mid.2.stablePrice < mid.1.floor → left = mid) ∧
      (FollowsSupply context market.ledger.supply mid.1 mid.2 left.2 left.1 ↔
        (mid.2.stablePrice < mid.1.floor →
          mid.1.excess context demand market.ledger.supply = mid.1.excess context demand mid.1.ledger.supply ∨
            mid.1.offer context demand market.ledger.supply = mid.1.ledger.balance whale ∧
              mid.1.offer context demand mid.1.ledger.supply = mid.1.ledger.balance whale)) ∧
      (left.2.issuance.tally.accepted = 0 → FollowsSupply context market.ledger.supply mid.1 mid.2 left.2 left.1) := by
  intro mid left demand
  have ended := stabilizePrice_cases context market previousDemand
  have below (under : mid.2.stablePrice < mid.1.floor) :
      Offers context mid.1 mid.2 (mid.1.offer context demand market.ledger.supply) left.2 left.1 :=
    (ended.resolve_right fun fine => fine.1 under).2
  have above (fine : ¬ mid.2.stablePrice < mid.1.floor) : left = mid :=
    (ended.resolve_left fun under => fine under.1).2
  have follows (offered : mid.2.stablePrice < mid.1.floor →
      mid.1.offer context demand market.ledger.supply = mid.1.offer context demand mid.1.ledger.supply) :
      FollowsSupply context market.ledger.supply mid.1 mid.2 left.2 left.1 := by
    refine ⟨offered, fun low untouched some => ?_⟩
    by_cases under : mid.2.stablePrice < mid.1.floor
    · exact (below under).defends (offered under) untouched some
    · rw [above under] at low
      exact absurd low under
  refine ⟨below, above, ⟨fun both under => ?_, fun same => follows fun under => ?_⟩,
    fun unissued => follows fun _ => ?_⟩
  · exact (offer_eq_iff context mid.1 demand _ _).mp (both.offered under)
  · exact (offer_eq_iff context mid.1 demand _ _).mpr (same under)
  · rw [(stabilizePrice_kept context market previousDemand).1] at unissued
    rw [(capped_caps context market previousDemand).unissued unissued]

end

/-- After an issuance above the ceiling nothing is offered: the supply from before it is less
    than what is in demand. -/
theorem Slim.stabilizePrice_eq {context : Context ℝ} {market : Market ℝ} (slim : Slim context market) {demand : ℝ}
    (above : 1.005 * 2210 < demand)
    (redemption : (capped context market demand).1.ledger.redemptionRate = 0.005) :
    stabilizePrice context market demand = capped context market demand := by
  have caps := capped_caps context market demand
  rcases stabilizePrice_cases context market demand with ⟨_, offers⟩ | ⟨_, same⟩
  · refine offers.of_dust (not_lt.mpr ?_)
    have less : (capped context market demand).1.excess context demand market.ledger.supply ≤ tolerance := by
      obtain ⟨supply, pool, _⟩ := slim.readings
      rw [excess, floor, redemption, caps.totalDeposits, supply, pool, slim.liquidity_eq, Number.pow_real,
        Real.rpow_neg_one, Number.tolerance_real]
      norm_num
      linarith
    rw [caps.kept.1, slim.cleared_eq, offer, Number.min_real]
    exact (min_le_left _ _).trans less
  · exact same

/-- So the step ends with the trove of the other account. -/
theorem Slim.issued {context : Context ℝ} {market : Market ℝ} (slim : Slim context market)
    (first : market.roster.idleBorrowers.head? = some 1) {demand netDebt : ℝ} (above : 1.005 * 2210 < demand)
    (debt : netDebt = max ((demand / 1.005 - 2410) / 1.005) 1800) (few : netDebt ≤ 50000) :
    ∃ left inattention issuance, Slim.Joined netDebt left ∧ issuance.tally.accepted = 1 ∧ issuance.accounts = [1] ∧
      0 ≤ issuance.collateralAdded ∧
      stabilizePrice context market demand =
        (⟨left, market.roster.activate 1 context.parameters.liquidity.arbitrageCr inattention context.period⟩,
          ⟨demand / (2410 + netDebt * 1.005), demand, 0, 0, [], {}, issuance⟩) := by
  obtain ⟨left, inattention, issuance, joined, accepted, accounts, added, issued⟩ := slim.issues first above debt few
  have ended := slim.stabilizePrice_eq above (by rw [issued]; exact joined.redemptionRate)
  exact ⟨left, inattention, issuance, joined, accepted, accounts, added, ended.trans issued⟩

/-- Or with the draw of the whale. -/
theorem Slim.drawn {context : Context ℝ} {market : Market ℝ} (slim : Slim context market)
    (nobody : market.roster.idleBorrowers = []) {demand draw : ℝ} (demand_eq : demand = 1.005 * (2210 + draw * 1.005))
    (one_le : 1 ≤ draw) (few : draw ≤ 50000) :
    ∃ left issuance, issuance.tally.accepted = 1 ∧
      stabilizePrice context market demand =
        (⟨left, market.roster⟩, ⟨demand / (2210 + draw * 1.005), demand, 0, 0, [], {}, issuance⟩) := by
  obtain ⟨left, issuance, redemption, accepted, issued⟩ := slim.draws nobody demand_eq one_le few
  have above : 1.005 * 2210 < demand := by linarith
  have ended := slim.stabilizePrice_eq above (by rw [issued]; exact redemption)
  exact ⟨left, issuance, accepted, ended.trans issued⟩

theorem Slim.floor_eq {context : Context ℝ} {market : Market ℝ} (slim : Slim context market) : market.floor = 0.995 := by
  obtain ⟨_, _, _, redemption, _⟩ := slim.readings
  norm_num [floor, redemption]

/-- What is in demand at the floor. -/
theorem Slim.demand_floor {context : Context ℝ} {market : Market ℝ} (slim : Slim context market) (demand : ℝ) :
    demand * Number.pow market.floor context.parameters.liquidity.elasticity = demand / 0.995 := by
  rw [slim.floor_eq, slim.liquidity_eq, Number.pow_real, Real.rpow_neg_one, div_eq_mul_inv]

theorem Slim.excess_eq {context : Context ℝ} {market : Market ℝ} (slim : Slim context market) (demand : ℝ) :
    market.excess context demand market.ledger.supply = 2210 - demand / 0.995 := by
  obtain ⟨supply, pool, _⟩ := slim.readings
  rw [excess, slim.demand_floor, supply, pool, zero_add]

theorem Slim.redeem {context : Context ℝ} {market : Market ℝ} (slim : Slim context market) :
    ∃ redemption left, market.ledger.redeem whale 200 = (.ok redemption, left) ∧ redemption.redeemed = 200 ∧
      redemption.closed = [] := by
  obtain ⟨collateralGains, rewardGains, poolCollateral, same⟩ := slim.gains
  have sole : SoleRedemption market.ledger whale 200 whale ⟨10.0, 2210.0⟩ := by
    rw [same]
    constructor <;>
      norm_num [Ledger.readings, Market.slim, new, Parameters.defaultTerms, Number.tolerance_real]
  obtain ⟨redemption, left, accepted, redeemed, closed⟩ := sole.accepted
  refine ⟨redemption, left, accepted, redeemed, closed.trans (if_neg ?_)⟩
  norm_num [same, Market.slim, new, Parameters.defaultTerms, Number.tolerance_real]

/-- Below the floor the whale redeems the excess against its own trove. -/
theorem Slim.redeemed {context : Context ℝ} {market : Market ℝ} (slim : Slim context market) :
    ∃ left outcome, stabilizePrice context market 1999.95 = (left, outcome) ∧ outcome.liquidityDemand = 1999.95 ∧
      outcome.redeemed = 200 ∧ outcome.redeemedOut = [] ∧ outcome.redemptionTally = ⟨1, 0⟩ ∧
      outcome.issuance.tally.accepted = 0 := by
  obtain ⟨_, _, _, _, held⟩ := slim.readings
  have low : ¬ market.ceiling context < (cleared context market 1999.95).stablePrice := by
    norm_num [slim.ceiling_eq, slim.cleared_eq]
  have below : (cleared context market 1999.95).stablePrice < market.floor := by
    norm_num [slim.floor_eq, slim.cleared_eq]
  have offered : market.offer context (cleared context market 1999.95).liquidityDemand market.ledger.supply = 200 := by
    norm_num [offer, slim.cleared_eq, slim.excess_eq, held]
  have some : tolerance < market.offer context (cleared context market 1999.95).liquidityDemand
      market.ledger.supply := by
    rw [offered]
    norm_num [Number.tolerance_real]
  obtain ⟨taken, left, redeemed, amount, closed⟩ := slim.redeem
  rw [← offered] at redeemed
  refine ⟨_, _, stabilizePrice_redeems low below some redeemed, ?_, amount, closed, rfl, ?_⟩ <;> rw [slim.cleared_eq]
  rfl

/-- The trove is issued above the ceiling, and the price ends up below the floor. The excess
    of the supply and the stablecoin of the whale are both above the tolerance, but the step
    redeems nothing. -/
theorem slim_undefended :
    let market : Market ℝ := ⟨(new slimParameters.terms 2000.0).after [.openTrove whale 10.0 2000.0], slimRoster⟩
    let mid := capped slimPeriod market 2225.0
    let left := stabilizePrice slimPeriod market 2225.0
    slimParameters.Valid ∧ slimParameters.terms.Conventional ∧
      ¬ FollowsSupply slimPeriod market.ledger.supply mid.1 mid.2 left.2 left.1 := by
  intro market mid left
  have slim : Slim slimPeriod market := slim_slim slimRoster
  have above : (1.005 : ℝ) * 2210 < 2225.0 := by norm_num
  obtain ⟨ledger, inattention, issuance, ⟨supply, pool, redemption, held⟩, -, -, -, issued⟩ :=
    slim.issued rfl above (by norm_num : 1800 = max (((2225.0 : ℝ) / 1.005 - 2410) / 1.005) 1800) (by norm_num)
  have ended : left = _ := issued
  have elasticity : slimPeriod.parameters.liquidity.elasticity = -1 := rfl
  refine ⟨slimParameters_valid, slimParameters_conventional, fun follows => ?_⟩
  have defended := follows.defended
  simp only [ended, excess, floor, supply, pool, redemption, held, elasticity, Number.pow_real, Real.rpow_neg_one]
    at defended
  refine defended ?_ trivial ?_ ?_ <;> norm_num [Number.tolerance_real]

end Market
end Stablecoin
