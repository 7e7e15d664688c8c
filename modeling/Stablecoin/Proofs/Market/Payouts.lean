import Stablecoin.Proofs.Market.Rest
import Stablecoin.Proofs.Parameters
import Stablecoin.Proofs.Random.Sample

/-!
The gains that leave the pool in a period. Every depositor claims before the pool is resized
(`Claimed`), so a withdrawal finds nothing left to pay out. An account whose deposit was used
up is no depositor and claims nothing, although it may be owed something; where it deposits
again (`Ledger.returned`), it is paid without a claim that would count it. These payments are
all that the counts miss (`updateDeposits_pays`), and so the counts are right exactly where
nobody who returns was owed anything (`updateDeposits_reports_iff`).
-/
namespace Stablecoin
open Ledger
open Number (tolerance tolerance_pos)
variable {ledger mid left : Ledger ℝ} {account : AccountId}

/-- The accounts that had no deposit to speak of, and deposited. -/
def Ledger.returned {α : Type} [Number α] (ledger left : Ledger α) : List AccountId :=
  left.deposits.accounts.filter fun account =>
    decide (ledger.deposit account ≤ tolerance ∧ ledger.deposit account < left.deposit account)

theorem Ledger.nodup_returned (ledger left : Ledger ℝ) : (ledger.returned left).Nodup :=
  left.deposits.nodup_accounts.filter _

theorem Ledger.mem_returned (deposits : ledger.deposits.Each (0 ≤ ·)) :
    account ∈ ledger.returned left ↔
      ledger.deposit account ≤ tolerance ∧ ledger.deposit account < left.deposit account := by
  simp only [returned, List.mem_filter, decide_eq_true_eq, and_iff_right_iff_imp]
  rintro ⟨_, more⟩
  by_contra absent
  have none : left.deposit account = 0 := by
    rw [deposit, (Book.not_has_iff _ _).mp absent, Option.getD_none]
  exact absurd more (not_lt.mpr (none ▸ getD_nonneg deposits account))

/-- Where only gains have moved, nobody has returned. -/
theorem Ledger.returned_of_gains (gains : GainsApart ledger left) : ledger.returned left = [] := by
  obtain ⟨_, _, _, rfl⟩ := gains
  refine List.filter_eq_nil_iff.mpr fun account _ => ?_
  simp [deposit]

theorem Ledger.Funded.provided {amount : ℝ} (funded : ledger.Funded)
    (accepted : ledger.provide account amount = .ok left) : left.Funded := by
  have performed := funded.perform (.provide account amount)
  simpa [Ledger.perform, accepted, settle, Except.map] using performed

theorem Ledger.Funded.withdrew {amount withdrawn : ℝ} (funded : ledger.Funded)
    (accepted : ledger.withdraw account amount = .ok (withdrawn, left)) : left.Funded := by
  have performed := funded.perform (.withdraw account amount)
  simpa [Ledger.perform, accepted, settle] using performed

theorem Ledger.Funded.claimed {gains : Gains ℝ} (funded : ledger.Funded)
    (accepted : ledger.claim account = .ok (gains, left)) : left.Funded := by
  have performed := funded.perform (.claim account)
  simpa [Ledger.perform, accepted, settle] using performed

/-- All of the accounts have been paid what they were owed, and nobody else. The outcome
    counts what was paid. -/
structure Claimed (ledger : Ledger ℝ) (outcome : DepositOutcome ℝ) (accounts : List AccountId)
    (last : Ledger ℝ × DepositOutcome ℝ) : Prop where
  funded : last.1.Funded
  deposits : last.1.deposits = ledger.deposits
  owed : ∀ account, last.1.owed account = if account ∈ accounts then ⟨0, 0⟩ else ledger.owed account
  collateral : last.2.collateralClaimed =
    outcome.collateralClaimed + (accounts.map fun account => (ledger.owed account).collateral).sum
  reward : last.2.rewardClaimed =
    outcome.rewardClaimed + (accounts.map fun account => (ledger.owed account).reward).sum

theorem foldl_claimTurn_claimed (funded : ledger.Funded) {accounts : List AccountId} (nodup : accounts.Nodup)
    (depositors : ∀ account ∈ accounts, tolerance < ledger.deposit account) (outcome : DepositOutcome ℝ) :
    Claimed ledger outcome accounts (accounts.foldl claimTurn (ledger, outcome)) := by
  induction accounts generalizing ledger outcome with
  | nil => exact ⟨funded, rfl, fun _ => by simp, by simp, by simp⟩
  | cons account rest ih =>
    obtain ⟨fresh, nodupRest⟩ := List.nodup_cons.mp nodup
    have some := depositors account List.mem_cons_self
    have accepted : ledger.claim account = .ok (ledger.payOutGains account) :=
      if_neg fun none => not_le.mpr some none.1
    have pays := payOutGains_pays ledger account
    rw [List.foldl_cons, claimTurn_of_depositor some]
    have others (reading : Gains ℝ → ℝ) : rest.map (fun other => reading ((ledger.payOutGains account).2.owed other)) =
        rest.map fun other => reading (ledger.owed other) := by
      refine List.map_congr_left fun other member => ?_
      rw [pays.owed_other fun same => fresh (same ▸ member)]
    have last := @ih (ledger.payOutGains account).2 (funded.claimed accepted) nodupRest
      (fun other member => depositors other (List.mem_cons_of_mem _ member))
      { outcome with
        collateralClaimed := outcome.collateralClaimed + (ledger.owed account).collateral
        rewardClaimed := outcome.rewardClaimed + (ledger.owed account).reward
        tally := outcome.tally.accept }
    refine ⟨last.funded, last.deposits, fun other => ?_, ?_, ?_⟩
    · rw [last.owed]
      by_cases same : other = account
      · simp [same, pays.owed_self]
      · simp [same, pays.owed_other same]
    · rw [last.collateral, others (·.collateral), List.map_cons, List.sum_cons, add_assoc]
    · rw [last.reward, others (·.reward), List.map_cons, List.sum_cons, add_assoc]

theorem Ledger.claims_claimed (funded : ledger.Funded) :
    Claimed ledger ⟨0, 0, 0, 0, 0, 0, {}⟩ ledger.depositors ledger.claims :=
  foldl_claimTurn_claimed funded ledger.nodup_depositors
    (fun account member => (ledger.mem_depositors account).mp member)
    _

/-- Every account keeps its deposit and what it is owed, or has deposited and is owed nothing. -/
def Grows (ledger left : Ledger ℝ) : Prop :=
  ∀ account, left.deposit account = ledger.deposit account ∧ left.owed account = ledger.owed account ∨
    ledger.deposit account < left.deposit account ∧ left.owed account = ⟨0, 0⟩

theorem Grows.refl (ledger : Ledger ℝ) : Grows ledger ledger := fun _ => .inl ⟨rfl, rfl⟩

theorem Grows.trans (first : Grows ledger mid) (second : Grows mid left) : Grows ledger left := by
  intro account
  rcases first account with ⟨deposit, owed⟩ | ⟨more, paid⟩ <;>
    rcases second account with ⟨sameDeposit, sameOwed⟩ | ⟨evenMore, paidAgain⟩
  · exact .inl ⟨sameDeposit.trans deposit, sameOwed.trans owed⟩
  · exact .inr ⟨deposit ▸ evenMore, paidAgain⟩
  · exact .inr ⟨sameDeposit ▸ more, sameOwed.trans paid⟩
  · exact .inr ⟨more.trans evenMore, paidAgain⟩

theorem afterDeposit_grows {amount : ℝ} (positive : 0 < amount) : Grows ledger (ledger.afterDeposit account amount) := by
  intro other
  have pays := ledger.afterDeposit_pays account amount
  rw [deposit_afterDeposit]
  by_cases same : other = account
  · rw [if_pos same, same, pays.owed_self]
    exact .inr ⟨lt_add_of_pos_right _ positive, rfl⟩
  · rw [if_neg same, add_zero, pays.owed_other same]
    exact .inl ⟨rfl, rfl⟩

/-- The counts of the claims stay as they are. -/
def DepositOutcome.SameClaims (outcome other : DepositOutcome ℝ) : Prop :=
  other.collateralClaimed = outcome.collateralClaimed ∧ other.rewardClaimed = outcome.rewardClaimed

theorem provideTurn_grows {state : Ledger ℝ × DepositOutcome ℝ × ℝ} (funded : state.1.Funded) (account : AccountId) :
    (provideTurn state account).1.Funded ∧ Grows state.1 (provideTurn state account).1 ∧
      state.2.1.SameClaims (provideTurn state account).2.1 := by
  obtain ⟨ledger, outcome, need⟩ := state
  rw [provideTurn_eq]
  split
  · exact ⟨funded, .refl ledger, rfl, rfl⟩
  · rename_i some
    have positive := tolerance_pos.trans (not_le.mp some)
    exact ⟨funded.provided (provide_eq positive (min_le_right _ _)), afterDeposit_grows positive, rfl, rfl⟩

theorem foldl_provideTurn_grows (accounts : List AccountId) {state : Ledger ℝ × DepositOutcome ℝ × ℝ}
    (funded : state.1.Funded) :
    let last := accounts.foldl provideTurn state
    last.1.Funded ∧ Grows state.1 last.1 ∧ state.2.1.SameClaims last.2.1 := by
  refine List.foldlRecOn accounts provideTurn
    (motive := fun last => last.1.Funded ∧ Grows state.1 last.1 ∧ state.2.1.SameClaims last.2.1)
    ⟨funded, .refl state.1, rfl, rfl⟩ ?_
  intro last ⟨kept, grows, collateral, reward⟩ account _
  obtain ⟨next, more, collateralKept, rewardKept⟩ := provideTurn_grows kept account
  exact ⟨next, grows.trans more, collateralKept.trans collateral, rewardKept.trans reward⟩

/-- No deposit grows, and everybody is owed what they were. -/
def Shrinks (ledger left : Ledger ℝ) : Prop :=
  ∀ account, left.deposit account ≤ ledger.deposit account ∧ left.owed account = ledger.owed account

theorem Shrinks.refl (ledger : Ledger ℝ) : Shrinks ledger ledger := fun _ => ⟨le_rfl, rfl⟩

theorem Shrinks.trans (first : Shrinks ledger mid) (second : Shrinks mid left) : Shrinks ledger left := fun account =>
  ⟨(second account).1.trans (first account).1, (second account).2.trans (first account).2⟩

/-- A withdrawal pays out nothing to an account that has claimed. -/
theorem Ledger.Withdrawal.shrinks {amount withdrawn : ℝ} (withdrawal : Withdrawal ledger account amount withdrawn left)
    (claimed : ledger.owed account = ⟨0, 0⟩) : Shrinks ledger left := by
  intro other
  have pays := withdrawal.pays
  by_cases same : other = account
  · subst same
    exact ⟨withdrawal.deposit_lt.le, pays.owed_self.trans claimed.symm⟩
  · exact ⟨(withdrawal.deposit_other same).le, pays.owed_other same⟩

theorem withdrawTurn_shrinks (surplus current : ℝ) {state : Ledger ℝ × DepositOutcome ℝ} (funded : state.1.Funded)
    (claimed : state.1.owed account = ⟨0, 0⟩) :
    let next := withdrawTurn surplus current state account
    next.1.Funded ∧ Shrinks state.1 next.1 ∧ state.2.SameClaims next.2 := by
  intro next
  obtain ⟨ledger, outcome⟩ := state
  have withdraws := withdrawTurn_withdraws surplus current ledger outcome account
  change Withdraws _ _ _ _ next at withdraws
  generalize next = next at withdraws ⊢
  cases withdraws with
  | nothing little => exact ⟨funded, .refl ledger, rfl, rfl⟩
  | refused some withheld => exact ⟨funded, .refl ledger, rfl, rfl⟩
  | paid some accepted => exact ⟨funded.withdrew accepted, (withdraw_ok accepted).shrinks claimed, rfl, rfl⟩

theorem foldl_withdrawTurn_shrinks (surplus current : ℝ) {accounts : List AccountId}
    {state : Ledger ℝ × DepositOutcome ℝ} (funded : state.1.Funded)
    (claimed : ∀ account ∈ accounts, state.1.owed account = ⟨0, 0⟩) :
    let last := accounts.foldl (withdrawTurn surplus current) state
    last.1.Funded ∧ Shrinks state.1 last.1 ∧ state.2.SameClaims last.2 := by
  refine List.foldlRecOn accounts (withdrawTurn surplus current)
    (motive := fun last => last.1.Funded ∧ Shrinks state.1 last.1 ∧ state.2.SameClaims last.2)
    ⟨funded, .refl state.1, rfl, rfl⟩ ?_
  intro last ⟨kept, shrinks, collateral, reward⟩ account member
  have none : last.1.owed account = ⟨0, 0⟩ := (shrinks account).2.trans (claimed account member)
  obtain ⟨next, more, collateralKept, rewardKept⟩ := withdrawTurn_shrinks surplus current kept none
  exact ⟨next, shrinks.trans more, collateralKept.trans collateral, rewardKept.trans reward⟩

/-! ### The whole step -/

/-- What a period pays out of the pool: everything that was owed to the depositors, which the
    outcome counts, and to the accounts that have returned to the pool. -/
structure PaysOut (ledger left : Ledger ℝ) (outcome : DepositOutcome ℝ) : Prop where
  funded : left.Funded
  collateral : outcome.collateralClaimed = (ledger.depositors.map fun account => (ledger.owed account).collateral).sum
  reward : outcome.rewardClaimed = (ledger.depositors.map fun account => (ledger.owed account).reward).sum
  owed : ∀ account, left.owed account =
    if account ∈ ledger.depositors ++ ledger.returned left then ⟨0, 0⟩ else ledger.owed account

/-- An account that has deposited since the claims is owed nothing, and any other what it
    was owed then. -/
theorem Claimed.owed_of_resized {outcome : DepositOutcome ℝ} {last : Ledger ℝ × DepositOutcome ℝ}
    (claimed : Claimed ledger outcome ledger.depositors last) (deposits : ledger.deposits.Each (0 ≤ ·))
    (resized : last.1.deposit account < left.deposit account ∧ left.owed account = ⟨0, 0⟩ ∨
      left.deposit account ≤ last.1.deposit account ∧ left.owed account = last.1.owed account) :
    left.owed account = if account ∈ ledger.depositors ++ ledger.returned left then ⟨0, 0⟩ else ledger.owed account := by
  have same : last.1.deposit account = ledger.deposit account := by rw [deposit, claimed.deposits, deposit]
  rw [same, claimed.owed] at resized
  simp only [List.mem_append, ledger.mem_depositors, mem_returned deposits] at resized ⊢
  by_cases some : tolerance < ledger.deposit account
  · simp only [some, if_true, true_or] at resized ⊢
    rcases resized with ⟨_, paid⟩ | ⟨_, paid⟩ <;> exact paid
  · simp only [some, if_false, false_or, not_lt.mp some, true_and] at resized ⊢
    rcases resized with ⟨more, paid⟩ | ⟨fewer, unpaid⟩
    · rw [if_pos more, paid]
    · rw [if_neg (not_lt.mpr fewer), unpaid]

theorem PaysOut.sums {outcome : DepositOutcome ℝ} (paysOut : PaysOut ledger left outcome) (funded : ledger.Funded) :
    ledger.poolCollateral - left.poolCollateral = outcome.collateralClaimed +
        ((ledger.returned left).map fun account => (ledger.owed account).collateral).sum ∧
      ledger.rewardGains.sumOf id - left.rewardGains.sumOf id = outcome.rewardClaimed +
        ((ledger.returned left).map fun account => (ledger.owed account).reward).sum := by
  have nodup : (ledger.depositors ++ ledger.returned left).Nodup := by
    refine List.nodup_append'.mpr ⟨ledger.nodup_depositors, ledger.nodup_returned left, ?_⟩
    intro account deposited back
    exact absurd ((mem_returned funded.deposits).mp back).1 (not_le.mpr ((ledger.mem_depositors account).mp deposited))
  have gone (account : AccountId) (member : account ∈ ledger.depositors ++ ledger.returned left) :
      left.owed account = ⟨0, 0⟩ := (paysOut.owed account).trans (if_pos member)
  have kept (account : AccountId) (absent : account ∉ ledger.depositors ++ ledger.returned left) :
      left.owed account = ledger.owed account := (paysOut.owed account).trans (if_neg absent)
  have collateral := Book.sumOf_of_struck nodup (fun account member => congrArg (·.collateral) (gone account member))
    (fun account absent => congrArg (·.collateral) (kept account absent))
  have reward := Book.sumOf_of_struck nodup (fun account member => congrArg (·.reward) (gone account member))
    (fun account absent => congrArg (·.reward) (kept account absent))
  rw [List.map_append, List.sum_append] at collateral reward
  constructor
  · rw [funded.held, paysOut.funded.held, collateral, paysOut.collateral]
    exact add_sub_cancel_left _ _
  · rw [reward, paysOut.reward]
    exact add_sub_cancel_left _ _

/-- Amounts that are not negative add up to nothing only where each of them is nothing. -/
theorem sum_map_eq_zero_iff {amount : AccountId → ℝ} (nonneg : ∀ account, 0 ≤ amount account)
    {accounts : List AccountId} : (accounts.map amount).sum = 0 ↔ ∀ account ∈ accounts, amount account = 0 := by
  constructor
  · intro none account member
    exact List.all_zero_of_le_zero_le_of_sum_eq_zero (List.forall_mem_map.mpr fun other _ => nonneg other) none
      (List.mem_map_of_mem member)
  · intro none
    exact List.sum_eq_zero (List.forall_mem_map.mpr none)

namespace Market
variable {market : Market ℝ}

theorem updateDeposits_pays (context : Context ℝ) (funded : market.ledger.Funded) (poolReturn : ℝ) :
    PaysOut market.ledger (updateDeposits context market poolReturn).1 (updateDeposits context market poolReturn).2 := by
  have claimed := claims_claimed funded
  have collateral := claimed.collateral.trans (zero_add _)
  have reward := claimed.reward.trans (zero_add _)
  have resizes := updateDeposits_resizes context market poolReturn
  generalize updateDeposits context market poolReturn = left at resizes ⊢
  cases resizes with
  | @grows last short last_eq =>
    obtain ⟨last_funded, grows, sameCollateral, sameReward⟩ := @foldl_provideTurn_grows (depositOrder context market)
      (market.ledger.claims.1, measured context market poolReturn,
        depositTarget context market poolReturn - market.ledger.totalDeposits) claimed.funded
    rw [← last_eq] at last_funded grows sameCollateral sameReward
    refine ⟨last_funded, sameCollateral.trans collateral, sameReward.trans reward, fun account => ?_⟩
    exact claimed.owed_of_resized funded.deposits ((grows account).symm.imp id fun kept => ⟨kept.1.le, kept.2⟩)
  | @shrinks last large last_eq =>
    have none : ∀ account ∈ market.ledger.depositors, market.ledger.claims.1.owed account = ⟨0, 0⟩ := by
      intro account member
      rw [claimed.owed, if_pos member]
    obtain ⟨last_funded, shrinks, sameCollateral, sameReward⟩ := @foldl_withdrawTurn_shrinks
      (market.ledger.totalDeposits - depositTarget context market poolReturn) market.ledger.totalDeposits
      market.ledger.depositors (market.ledger.claims.1, measured context market poolReturn) claimed.funded none
    rw [← last_eq] at last_funded shrinks sameCollateral sameReward
    refine ⟨last_funded, sameCollateral.trans collateral, sameReward.trans reward, fun account => ?_⟩
    exact claimed.owed_of_resized funded.deposits (.inr (shrinks account))
  | rests enough fits =>
    exact ⟨claimed.funded, collateral, reward, fun account =>
      claimed.owed_of_resized funded.deposits (.inr ⟨le_rfl, rfl⟩)⟩

/-- After any calls the claims of a period and the payments to those who return to the pool
    make up what the pool pays out. So the claims tell all of it exactly if nobody who
    returns was owed anything. -/
theorem updateDeposits_reports_iff {p : Parameters ℝ} (valid : p.Valid) (price : ℝ) (calls : List (Call ℝ))
    (roster : Roster ℝ) (context : Context ℝ) (poolReturn : ℝ) :
    let market : Market ℝ := ⟨(new p.terms price).after calls, roster⟩
    let left := updateDeposits context market poolReturn
    let returned := market.ledger.returned left.1
    let collateralPaid := market.ledger.poolCollateral - left.1.poolCollateral
    let rewardPaid := Number.sum market.ledger.rewardGains.values - Number.sum left.1.rewardGains.values
    collateralPaid =
        left.2.collateralClaimed + (returned.map fun account => (market.ledger.owed account).collateral).sum ∧
      rewardPaid = left.2.rewardClaimed + (returned.map fun account => (market.ledger.owed account).reward).sum ∧
      (left.2.collateralClaimed = collateralPaid ∧ left.2.rewardClaimed = rewardPaid ↔
        ∀ account ∈ returned, market.ledger.owed account = ⟨0, 0⟩) := by
  intro market left returned collateralPaid rewardPaid
  have funded : market.ledger.Funded := after_funded (not_le.mp valid.mcr) price calls
  obtain ⟨collateral, reward⟩ := (updateDeposits_pays context funded poolReturn).sums funded
  have rewardSum : rewardPaid = market.ledger.rewardGains.sumOf id - left.1.rewardGains.sumOf id := by
    simp [rewardPaid, Book.sumOf]
  refine ⟨collateral, rewardSum.trans reward, ?_⟩
  rw [rewardSum, reward]
  change _ = market.ledger.poolCollateral - left.1.poolCollateral ∧ _ ↔ _
  rw [collateral, left_eq_add, left_eq_add, sum_map_eq_zero_iff funded.collateral_nonneg,
    sum_map_eq_zero_iff funded.reward_nonneg]
  constructor
  · rintro ⟨noCollateral, noReward⟩ account member
    have both : (market.ledger.owed account).collateral = 0 ∧ (market.ledger.owed account).reward = 0 :=
      ⟨noCollateral account member, noReward account member⟩
    cases owed : market.ledger.owed account
    simpa [owed] using both
  · intro none
    exact ⟨fun account member => by rw [none account member], fun account member => by rw [none account member]⟩

/-! ### A deposit that is used up -/

/-- The ledger after the liquidation that uses up the deposit. -/
noncomputable def drained : Ledger ℝ := ((shallow.seize 8 9 ⟨3.0, 2210.0⟩).settleInFull 8 ⟨3.0, 2210.0⟩).2

theorem drained_reached : (new Parameters.quiet.terms 1000.0).after drainingCalls = drained := by
  rw [drained, ← congrArg Prod.snd shallow_liquidated,
    show (Parameters.quiet.terms : Terms ℝ) = Parameters.defaultTerms from rfl]
  simp only [drainingCalls, after_cons, lone_opened, lone_joined, pair_provided]
  rfl

theorem drained_readings : drained.totalDeposits = 0 ∧ drained.depositors = [] ∧ drained.poolCollateral = 300 / 221 ∧
    (drained.owed 7).collateral = 300 / 221 ∧ drained.balance 7 = 1000 ∧ drained.balance whale = 0 := by
  refine ⟨?_, ?_, ?_, ?_, ?_, ?_⟩ <;>
    norm_num [drained, settleInFull, seize, offset, redistribute, readings, shallow, pair_eq, credit, owed,
      depositors, whale, Number.tolerance_real]

/-- The calls that lead to a deposit that is owed a reward. -/
noncomputable def rewardedCalls : List (Call ℝ) :=
  [.openTrove 7 10.0 2000.0, .openTrove 8 3.0 2000.0, .provide 7 1000.0, .issueRewards 5.0]

theorem shallow_reports :
    let market : Market ℝ := ⟨(new Parameters.quiet.terms 1000.0).after rewardedCalls, couple⟩
    let left := updateDeposits quietPeriod market 1.0
    (Parameters.quiet : Parameters ℝ).Valid ∧
      left.2.collateralClaimed = market.ledger.poolCollateral - left.1.poolCollateral ∧
      left.2.rewardClaimed = Number.sum market.ledger.rewardGains.values - Number.sum left.1.rewardGains.values := by
  intro market left
  have reached : market.ledger = (Ledger.issueRewards { shallow with price := 1000.0 } 5.0).2 := by
    simp only [market, rewardedCalls, after_cons]
    rw [show (Parameters.quiet.terms : Terms ℝ) = Parameters.defaultTerms from rfl, lone_opened]
    simp only [lone_joined, pair_provided]
    rfl
  have pool : market.ledger.totalDeposits = 1000 := by
    obtain ⟨_, _, _, gains⟩ := issueRewards_gains { shallow with price := 1000.0 } 5.0
    rw [reached, gains]
    norm_num [totalDeposits, shallow, Book.values]
  have settled : GainsApart market.ledger left.1 := by
    refine updateDeposits_settled (poolTarget_calm Parameters.quiet_calm ?_ _)
    rw [pool, Number.tolerance_real]
    norm_num
  have nobody : ∀ account ∈ market.ledger.returned left.1, market.ledger.owed account = ⟨0, 0⟩ := by
    rw [returned_of_gains settled]
    exact List.forall_mem_nil _
  exact ⟨quiet_valid,
    (updateDeposits_reports_iff quiet_valid 1000.0 rewardedCalls couple quietPeriod 1.0).2.2.mpr nobody⟩

/-- A roster in which only the drained depositor is active. -/
noncomputable def drainedHolder : Roster ℝ := (Roster.ofSize 9).activate 7 1.5 0.1 1

theorem drainedHolder_active : drainedHolder.activeBorrowers = [7] := by
  have holder : drainedHolder.active = [7] := rfl
  simp [Roster.activeBorrowers, holder, whale]

/-- The drained depositor is asked first, and then the whale. -/
theorem drained_order : depositOrder quietPeriod ⟨drained, drainedHolder⟩ = [7, whale] := by
  obtain ⟨_, _, _, _, held, _⟩ := drained_readings
  have holders : [7].filter (fun account => decide (tolerance < drained.balance account)) = [7] := by
    norm_num [held, Number.tolerance_real]
  have chosen := choose_perm [7] (by decide) quietPeriod.streams .stabilityDepositor quietPeriod.period
  unfold depositOrder
  dsimp only
  rw [drainedHolder_active, holders, List.perm_singleton.mp chosen]
  rfl

theorem drained_target : depositTarget quietPeriod ⟨drained, drainedHolder⟩ 1.0 = 1800 :=
  quietPeriod_target (drained_readings.1 ▸ tolerance_pos.le)

/-- The pool pays out all that it holds, and tells of no claim. -/
theorem drained_unreported :
    let market : Market ℝ := ⟨(new Parameters.quiet.terms 1000.0).after drainingCalls, drainedHolder⟩
    let left := updateDeposits quietPeriod market 1.0
    (Parameters.quiet : Parameters ℝ).Valid ∧ left.2.collateralClaimed = 0 ∧
      market.ledger.poolCollateral - left.1.poolCollateral = 300 / 221 := by
  intro market left
  have reached : market = ⟨drained, drainedHolder⟩ := congrArg (Market.mk · drainedHolder) drained_reached
  obtain ⟨pool, nobody, collateral, owed, held, empty⟩ := drained_readings
  have claims : drained.claims = (drained, ⟨0, 0, 0, 0, 0, 0, {}⟩) := by
    rw [claims, nobody]
    rfl
  have resizes := updateDeposits_resizes quietPeriod market 1.0
  change Resizes _ _ _ left at resizes
  generalize left = left at resizes ⊢
  rw [reached] at resizes ⊢
  refine ⟨quiet_valid, ?_⟩
  cases resizes with
  | @grows last short last_eq =>
    have first (outcome : DepositOutcome ℝ) : provideTurn (drained, outcome, 1800) 7 =
        (drained.afterDeposit 7 1000,
          { outcome with deposited := outcome.deposited + 1000, tally := outcome.tally.accept }, 1800 - 1000) := by
      have all : min (1800 : ℝ) 1000 = 1000 := by norm_num
      have some : ¬ (1000 : ℝ) ≤ tolerance := by norm_num [Number.tolerance_real]
      rw [provideTurn_eq, held, all, if_neg some]
    have second (outcome : DepositOutcome ℝ) (need : ℝ) :
        provideTurn (drained.afterDeposit 7 1000, outcome, need) whale =
        (drained.afterDeposit 7 1000, outcome, need) := by
      have other : whale ≠ 7 := by decide
      rw [provideTurn_eq, balance_afterDeposit, if_neg other, empty, if_pos ((min_le_right _ _).trans tolerance_pos.le)]
    rw [drained_order, drained_target, pool, sub_zero, claims, List.foldl_cons, first, List.foldl_cons, second,
      List.foldl_nil] at last_eq
    rw [last_eq]
    refine ⟨congrArg (·.2.collateralClaimed) claims, ?_⟩
    dsimp only
    rw [(drained.afterDeposit_pays 7 1000).poolCollateral, collateral, owed, sub_self, max_self, sub_zero]
  | shrinks large last_eq =>
    rw [drained_target, pool] at large
    norm_num [Number.tolerance_real] at large
  | rests enough fits =>
    rw [drained_target, pool] at enough
    norm_num [Number.tolerance_real] at enough

end Market
end Stablecoin
