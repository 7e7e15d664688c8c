import Stablecoin.Proofs.Market.Liquidations
import Stablecoin.Proofs.Market.Agreement

namespace Stablecoin
open Ledger
open Number (tolerance tolerance_pos)

section
variable {α : Type} [Number α]

namespace Ledger
variable {ledger funded : Ledger α} {account : AccountId} {need : α}

/-- The whale lends the account what it lacks, which is above the tolerance. -/
structure Lends (ledger : Ledger α) (account : AccountId) (need : α) (funded : Ledger α) : Prop where
  short : tolerance < need - ledger.balance account
  borrower : account ≠ whale
  paid : ledger.transfer whale account (need - ledger.balance account) = .ok funded

/-- A top-up is a loan, or there is nothing to lend. -/
theorem topUp_ok (topped : ledger.topUp account need = .ok funded) :
    Lends ledger account need funded ∨
      ¬ (tolerance < need - ledger.balance account ∧ account ≠ whale) ∧ funded = ledger := by
  unfold topUp at topped
  dsimp only at topped
  split at topped
  · rename_i lacks
    exact .inl ⟨lacks.1, lacks.2, topped⟩
  · rename_i enough
    cases topped
    exact .inr ⟨enough, rfl⟩

/-- A loan that is granted is what the top-up gives. -/
theorem Lends.topUp_eq (lends : Lends ledger account need funded) : ledger.topUp account need = .ok funded := by
  unfold topUp
  dsimp only
  rw [if_pos ⟨lends.short, lends.borrower⟩]
  exact lends.paid

end Ledger

/-- The ledger with the need of the account topped up, if it has one. -/
def Ledger.fund (ledger : Ledger α) (account : AccountId) : Option α → Except (Refusal α) (Ledger α)
  | none => .ok ledger
  | some need => ledger.topUp account need

/-- A top-up changes balances and nothing else. -/
theorem Ledger.fund_ok {ledger funded : Ledger α} {account : AccountId} {need? : Option α}
    (topped : ledger.fund account need? = .ok funded) : ∃ balances, funded = { ledger with balances } := by
  cases need? with
  | none =>
    cases topped
    exact ⟨_, rfl⟩
  | some need =>
    rcases topUp_ok topped with lends | ⟨_, rfl⟩
    · obtain ⟨_, paid, debited, rfl⟩ := transfer_ok lends.paid
      obtain ⟨_, rfl⟩ := debit_ok debited
      exact ⟨_, rfl⟩
    · exact ⟨_, rfl⟩

namespace Rebalance

/-- The collateral that the adjustment adds. -/
def collateralDelta : Rebalance α → α
  | .addCollateral amount => amount
  | .withdrawCollateral amount => -amount
  | _ => 0

/-- The debt that the adjustment draws. -/
def debtDelta : Rebalance α → α
  | .repay amount => -amount
  | .draw amount => amount
  | _ => 0

/-- The amount that the account needs to hold. -/
def need? : Rebalance α → Option α
  | .repay amount => some amount
  | _ => none

/-- What is counted of an accepted adjustment. -/
def book (account : AccountId) (change : TroveChange α) (outcome : Issuance α) : Rebalance α → Issuance α
  | .addCollateral amount =>
    { outcome with
      collateralAdded := outcome.collateralAdded + amount
      accounts := outcome.accounts ++ [account]
      tally := outcome.tally.accept }
  | .draw amount =>
    { outcome with
      stableIssued := outcome.stableIssued + amount
      fee := outcome.fee + change.fee
      accounts := outcome.accounts ++ [account]
      tally := outcome.tally.accept }
  | _ => { outcome with accounts := outcome.accounts ++ [account], tally := outcome.tally.accept }

end Rebalance

theorem Rebalance.apply_eq (rebalance : Rebalance α) (ledger : Ledger α) (account : AccountId) (outcome : Issuance α) :
    rebalance.apply ledger account outcome =
      match ledger.fund account rebalance.need? with
      | .error _ => (ledger, { outcome with tally := outcome.tally.reject })
      | .ok funded =>
        match funded.adjustTrove account rebalance.collateralDelta rebalance.debtDelta with
        | .error _ => (funded, { outcome with tally := outcome.tally.reject })
        | .ok (change, left) => (left, rebalance.book account change outcome) := by
  cases rebalance <;> rfl

namespace Market
variable {context : Context α} {market left : Market α} {account : AccountId}

/-- What the account needs to hold to close its trove. -/
def closingNeed? (context : Context α) (market : Market α) (account : AccountId) : Option α :=
  (market.ledger.troves.get? account).map fun trove =>
    trove.debt - Number.min context.parameters.terms.gasCompensation trove.debt

/-- The adjustment that the account makes in its turn, if it looks at its trove. -/
def rebalance? (context : Context α) (market : Market α) (account : AccountId) : Option (Rebalance α) :=
  if market.isTriggered context account then
    match market.roster.get? account, market.ledger.troves.get? account with
    | some borrower, some trove =>
      some (rebalance trove borrower.targetCr context.collateralPrice market.ledger.borrowingRate
        (decide (borrower.deviation (trove.icr context.collateralPrice).toNumber < 0))
        (coinFlip context.streams context.period account))
    | _, _ => none
  else none

theorem adjustTurn_eq (context : Context α) (market : Market α) (outcome : Issuance α) (account : AccountId) :
    adjustTurn context (market, outcome) account =
      match market.rebalance? context account with
      | none => (market, outcome)
      | some rebalance =>
        ({ market with ledger := (rebalance.apply market.ledger account outcome).1 },
          (rebalance.apply market.ledger account outcome).2) := by
  unfold adjustTurn rebalance?
  dsimp only
  split
  · cases market.roster.get? account with
    | none => rfl
    | some borrower => cases market.ledger.troves.get? account <;> rfl
  · rfl

/-- A turn was skipped, up to a loan for it: a loan that was granted stays, without one
    nothing has changed, and so nothing has changed exactly if no loan changed the ledger. -/
structure Skips (market : Market α) (account : AccountId) (need? : Option α) (left : Market α) : Prop where
  roster : left.roster = market.roster
  lent : ∀ need ∈ need?, ∀ funded, Lends market.ledger account need funded → left.ledger = funded
  unlent : (∀ need ∈ need?, ∀ funded, ¬ Lends market.ledger account need funded) → left = market
  unchanged_iff : left = market ↔
    ∀ need ∈ need?, ∀ funded, Lends market.ledger account need funded → funded = market.ledger

theorem skips_of_funded {need? : Option α} {funded : Ledger α}
    (topped : market.ledger.fund account need? = .ok funded) :
    Skips market account need? { market with ledger := funded } := by
  have lent (need : α) (needed : need ∈ need?) (granted : Ledger α) (lends : Lends market.ledger account need granted) :
      funded = granted := by
    cases needed
    exact Except.ok.inj (topped.symm.trans lends.topUp_eq)
  have unlent (none : ∀ need ∈ need?, ∀ granted, ¬ Lends market.ledger account need granted) :
      funded = market.ledger := by
    cases need? with
    | none => exact (Except.ok.inj topped).symm
    | some need =>
      rcases topUp_ok topped with lends | ⟨_, same⟩
      · exact absurd lends (none need rfl funded)
      · exact same
  refine ⟨rfl, lent, fun none => by rw [unlent none], fun same need needed granted lends => ?_, fun all => ?_⟩
  · rw [← lent need needed granted lends]
    exact congrArg Market.ledger same
  · by_cases none : ∀ need ∈ need?, ∀ granted, ¬ Lends market.ledger account need granted
    · rw [unlent none]
    · push Not at none
      obtain ⟨need, needed, granted, lends⟩ := none
      rw [lent need needed granted lends, all need needed granted lends]

theorem skips_of_unfunded {need? : Option α} {refusal : Refusal α}
    (refused : market.ledger.fund account need? = .error refusal) : Skips market account need? market := by
  have none (need : α) (needed : need ∈ need?) (granted : Ledger α) : ¬ Lends market.ledger account need granted := by
    intro lends
    cases needed
    exact absurd (refused.symm.trans lends.topUp_eq) (by simp)
  exact ⟨rfl, fun need needed granted lends => absurd lends (none need needed granted), fun _ => rfl,
    fun _ need needed granted lends => absurd lends (none need needed granted), fun _ => rfl⟩

theorem closeTurn_skips (context : Context α) (market : Market α) (account : AccountId) (outcome : ClosureOutcome)
    (rejected : (closeTurn context account market outcome).2.2.tally.rejected ≠ outcome.tally.rejected) :
    Skips market account (market.closingNeed? context account) (closeTurn context account market outcome).2.1 := by
  cases found : market.ledger.troves.get? account with
  | none => exact absurd (by simp [closeTurn, found]) rejected
  | some trove =>
    rw [closingNeed?, found, Option.map_some]
    simp only [closeTurn, found] at rejected ⊢
    cases topped : market.ledger.topUp account
        (trove.debt - Number.min context.parameters.terms.gasCompensation trove.debt) with
    | error refusal => exact skips_of_unfunded topped
    | ok funded =>
      simp only [topped] at rejected ⊢
      cases closed : funded.closeTrove account with
      | error refusal => exact skips_of_funded topped
      | ok result => exact absurd (by simp only [closed, Tally.accept]) rejected

theorem book_rejected (rebalance : Rebalance α) (account : AccountId) (change : TroveChange α) (outcome : Issuance α) :
    (rebalance.book account change outcome).tally.rejected = outcome.tally.rejected := by
  cases rebalance <;> rfl

theorem adjustTurn_skips (context : Context α) (market : Market α) (account : AccountId) (outcome : Issuance α)
    (rejected : (adjustTurn context (market, outcome) account).2.tally.rejected ≠ outcome.tally.rejected) :
    Skips market account ((market.rebalance? context account).bind Rebalance.need?)
      (adjustTurn context (market, outcome) account).1 := by
  rw [adjustTurn_eq] at rejected ⊢
  cases chosen : market.rebalance? context account with
  | none => exact absurd (by rw [chosen]) rejected
  | some rebalance =>
    simp only [chosen, rebalance.apply_eq, Option.bind_some] at rejected ⊢
    cases topped : market.ledger.fund account rebalance.need? with
    | error refusal => exact skips_of_unfunded topped
    | ok funded =>
      simp only [topped] at rejected ⊢
      cases adjusted : funded.adjustTrove account rebalance.collateralDelta rebalance.debtDelta with
      | error refusal => exact skips_of_funded topped
      | ok result =>
        simp only [adjusted] at rejected
        exact absurd (book_rejected rebalance account _ outcome) rejected

/-- A turn of a closing or an adjustment that counts a refusal is skipped up to a loan for the
    debt that it was to repay. -/
theorem rejected_turn (context : Context α) (market : Market α) (account : AccountId) :
    (∀ outcome : ClosureOutcome,
        (closeTurn context account market outcome).2.2.tally.rejected ≠ outcome.tally.rejected →
          Skips market account (market.closingNeed? context account) (closeTurn context account market outcome).2.1) ∧
      ∀ outcome : Issuance α,
        (adjustTurn context (market, outcome) account).2.tally.rejected ≠ outcome.tally.rejected →
          Skips market account ((market.rebalance? context account).bind Rebalance.need?)
            (adjustTurn context (market, outcome) account).1 :=
  ⟨closeTurn_skips context market account, adjustTurn_skips context market account⟩

end Market
end

/-- Over exact numbers a loan moves stablecoin. -/
theorem Ledger.Lends.balance_eq {ledger funded : Ledger ℝ} {account : AccountId} {need : ℝ}
    (lends : Lends ledger account need funded) : funded.balance account = need := by
  obtain ⟨_, paid, debited, rfl⟩ := transfer_ok lends.paid
  obtain ⟨_, rfl⟩ := debit_ok debited
  simp [balance, credit, addTo, lends.borrower]

theorem Ledger.Lends.moves {ledger funded : Ledger ℝ} {account : AccountId} {need : ℝ}
    (lends : Lends ledger account need funded) : funded ≠ ledger := by
  intro same
  have short := lends.short
  have held := lends.balance_eq
  rw [same] at held
  rw [held, sub_self] at short
  exact lt_asymm tolerance_pos short

namespace Market

/-- Over exact numbers a skipped turn has changed nothing exactly if nothing was lent. -/
theorem Skips.unchanged_exact {market left : Market ℝ} {account : AccountId} {need? : Option ℝ}
    (skips : Skips market account need? left) :
    left = market ↔ ∀ need ∈ need?, ∀ funded, ¬ Lends market.ledger account need funded := by
  rw [skips.unchanged_iff]
  constructor
  · intro all need needed funded lends
    exact lends.moves (all need needed funded lends)
  · intro none need needed funded lends
    exact absurd lends (none need needed funded)

/-! ### A closure that the system cannot bear -/

/-- Two troves, of which the system needs the better secured one at the fallen price. -/
noncomputable def strained : Ledger ℝ :=
  { new Parameters.defaultTerms 300.0 with
    troves := ⟨[(whale, ⟨10.0, 2210.0⟩), (1, ⟨30.0, 2210.0⟩)], by simp [whale]⟩
    balances := ⟨[(whale, 2000.0), (1, 2000.0)], by simp [whale]⟩
    feePool := 20.0
    gasPool := 400.0
    supply := 4420.0 }

/-- The first of them has been opened. -/
noncomputable def strainedOpened : Ledger ℝ :=
  { lone with
    troves := Book.empty.insert whale ⟨10.0, 2210.0⟩
    balances := Book.empty.insert whale 2000.0 }

theorem strainedOpened_eq : strainedOpened = ⟨Parameters.defaultTerms, 1000.0, ⟨[(whale, ⟨10.0, 2210.0⟩)], by simp⟩,
    ⟨[(whale, 2000.0)], by simp⟩, .empty, .empty, .empty, 0, 200.0, 10.0, 2210.0, 0, 0, 0⟩ := rfl

noncomputable def strainingCalls : List (Call ℝ) :=
  [.openTrove whale 10.0 2000.0, .openTrove 1 30.0 2000.0, .setPrice 300.0]

theorem strained_reached : (new Parameters.defaultTerms 1000.0).after strainingCalls = strained := by
  have first : CalmOpening (new Parameters.defaultTerms 1000.0) whale 10.0 2000.0 ⟨10.0, 2210.0, 10.0⟩
      strainedOpened := by
    constructor
    case calm => exact new_calm _ _
    all_goals norm_num [readings, strainedOpened_eq, new, Parameters.defaultTerms]
  have second : CalmOpening strainedOpened 1 30.0 2000.0 ⟨30.0, 2210.0, 10.0⟩ { strained with price := 1000.0 } := by
    constructor <;>
      norm_num [inRecovery_iff, readings, strained, strainedOpened_eq, new, whale, Parameters.defaultTerms,
        Number.tolerance_real]
  simp only [strainingCalls, after_cons, first.perform, second.perform]
  rfl

/-- The ledger once the whale has lent what is missing. -/
noncomputable def strainedFunded : Ledger ℝ :=
  { strained with balances := ⟨[(whale, 1990.0), (1, 2010.0)], by simp [whale]⟩ }

theorem strained_funded : strained.topUp 1 2010.0 = .ok strainedFunded := by
  norm_num [topUp, transfer_eq, readings, strained, strainedFunded, new, whale, Number.tolerance_real]

theorem strained_refused : ∃ refusal, strainedFunded.closeTrove 1 = .error refusal := by
  norm_num [closeTrove, inRecovery_iff, tcrAfter, ratio_below_iff, readings, strainedFunded, strained, new, whale,
    Parameters.defaultTerms, Number.tolerance_real]

/-- The period in which the price has fallen. -/
noncomputable def strainedPeriod : Context ℝ := { fallenPeriod with collateralPrice := 300.0 }

/-- Both borrowers are active. -/
noncomputable def strainedRoster : Roster ℝ := ((Roster.ofSize 2).activate whale 4.5 1.0 0).activate 1 10.0 0.1 0

/-- The closure is refused, and the loan of the whale stays. -/
theorem strained_turn :
    (closeTurn strainedPeriod 1 ⟨strained, strainedRoster⟩ {}).2.2.tally.rejected = 1 ∧
      (closeTurn strainedPeriod 1 ⟨strained, strainedRoster⟩ {}).2.1.ledger = strainedFunded := by
  obtain ⟨refusal, refused⟩ := strained_refused
  have found : strained.troves.get? 1 = some ⟨30.0, 2210.0⟩ := rfl
  have need : (2210.0 : ℝ) - Number.min strainedPeriod.parameters.terms.gasCompensation 2210.0 = 2010.0 := by
    norm_num [strainedPeriod, fallenPeriod, Parameters.default, Parameters.defaultTerms]
  simp only [closeTurn, found, need, strained_funded, refused, and_true]
  rfl

/-- After three calls the turn of an account that cannot close its trove is counted as refused,
    and yet it has moved stablecoin from the whale to that account. -/
theorem strained_moved :
    let market : Market ℝ := ⟨(new Parameters.defaultTerms 1000.0).after strainingCalls, strainedRoster⟩
    let turn := closeTurn strainedPeriod 1 market {}
    turn.2.2.tally.rejected = 1 ∧ market.ledger.balance 1 = 2000 ∧ turn.2.1.ledger.balance 1 = 2010 ∧
      turn.2.1.ledger ≠ market.ledger := by
  intro market turn
  obtain ⟨rejected, left⟩ := strained_turn
  have before : strained.balance 1 = 2000 := by
    norm_num [readings, strained, whale]
  have after : strainedFunded.balance 1 = 2010 := by
    norm_num [readings, strainedFunded, whale]
  simp only [market, turn, strained_reached, left]
  refine ⟨rejected, before, after, fun same => ?_⟩
  rw [same, before] at after
  norm_num at after

/-- The turn is skipped up to that loan. -/
theorem strained_skips :
    (closeTurn strainedPeriod 1 ⟨strained, strainedRoster⟩ {}).2.2.tally.rejected ≠ 0 ∧
      Skips ⟨strained, strainedRoster⟩ 1 (closingNeed? strainedPeriod ⟨strained, strainedRoster⟩ 1)
        (closeTurn strainedPeriod 1 ⟨strained, strainedRoster⟩ {}).2.1 := by
  have rejected : (closeTurn strainedPeriod 1 ⟨strained, strainedRoster⟩ {}).2.2.tally.rejected ≠ 0 := by
    rw [strained_turn.1]
    exact one_ne_zero
  exact ⟨rejected, (rejected_turn strainedPeriod ⟨strained, strainedRoster⟩ 1).1 {} rejected⟩

end Market
end Stablecoin
