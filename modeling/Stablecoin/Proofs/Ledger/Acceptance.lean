import Stablecoin.Ledger.Call
import Stablecoin.Proofs.Parameters

/-!
What an accepted call has checked and what it changes. One statement for each call
gives every check that the call has passed and the ledger that it leaves, as a change
of the ledger that it was made on; what is not named there stays as it was. Later
proofs read these statements and leave the calls closed. They hold for any numbers.
-/
namespace Stablecoin.Ledger
open Number (tolerance)
variable {α : Type} [Number α] {ledger left : Ledger α}

theorem debit_ok {account : AccountId} {amount : α} (accepted : ledger.debit account amount = .ok left) :
    ¬ ledger.balance account + tolerance < amount ∧
      left = { ledger with
        balances := ledger.balances.insert account (Number.max (ledger.balance account - amount) 0) } := by
  unfold debit at accepted
  obtain ⟨covered, accepted⟩ := ok_of_check accepted
  cases accepted
  exact ⟨covered, rfl⟩

theorem transfer_ok {sender receiver : AccountId} {amount : α}
    (accepted : ledger.transfer sender receiver amount = .ok left) :
    ¬ (amount ≤ 0 ∨ Number.isFinite amount = false) ∧
      ∃ paid, ledger.debit sender amount = .ok paid ∧ left = paid.credit receiver amount := by
  unfold transfer at accepted
  obtain ⟨proper, accepted⟩ := ok_of_check accepted
  obtain ⟨paid, debited, accepted⟩ := bind_eq_ok.mp accepted
  cases accepted
  exact ⟨proper, paid, debited, rfl⟩

/-- An accepted opening. -/
structure Opening (ledger : Ledger α) (account : AccountId) (collateral netDebt : α) (change : TroveChange α)
    (left : Ledger α) : Prop where
  fresh : ¬ ledger.troves.Has account
  collateral_proper : ¬ (collateral ≤ 0 ∨ Number.isFinite collateral = false)
  netDebt_proper : ¬ (Number.isFinite netDebt = false ∨ netDebt + tolerance < ledger.terms.minNetDebt)
  collateral_eq : change.collateral = collateral
  fee_eq : change.fee = if ledger.InRecovery then 0 else netDebt * ledger.borrowingRate
  debt_eq : change.debt = netDebt + change.fee + ledger.terms.gasCompensation
  secured : ¬ (ratio collateral change.debt ledger.price).Below
    (.of (if ledger.InRecovery then ledger.terms.ccr else ledger.terms.mcr))
  systemSecured : ¬ (¬ ledger.InRecovery ∧ (ledger.tcrAfter collateral change.debt).Below (.of ledger.terms.ccr))
  left_eq : left =
    { ledger with
      troves := ledger.troves.insert account ⟨collateral, change.debt⟩
      balances := addTo ledger.balances account netDebt
      feePool := ledger.feePool + change.fee
      gasPool := ledger.gasPool + ledger.terms.gasCompensation
      supply := ledger.supply + change.debt }

theorem openTrove_ok {account : AccountId} {collateral netDebt : α} {change : TroveChange α}
    (accepted : ledger.openTrove account collateral netDebt = .ok (change, left)) :
    Opening ledger account collateral netDebt change left := by
  unfold openTrove at accepted
  obtain ⟨fresh, accepted⟩ := ok_of_check accepted
  obtain ⟨collateralProper, accepted⟩ := ok_of_check accepted
  obtain ⟨netDebtProper, accepted⟩ := ok_of_check accepted
  obtain ⟨secured, accepted⟩ := ok_of_check accepted
  obtain ⟨systemSecured, accepted⟩ := ok_of_check accepted
  cases accepted
  exact ⟨fresh, collateralProper, netDebtProper, rfl, rfl, rfl, secured, systemSecured, rfl⟩

/-- An accepted closure of a trove. -/
structure Closing (ledger : Ledger α) (account : AccountId) (trove : Trove α) (change : TroveChange α)
    (left : Ledger α) : Prop where
  found : ledger.troves.get? account = some trove
  notLast : ¬ ledger.troves.size ≤ 1
  notInRecovery : ¬ ledger.InRecovery
  systemSecured : ¬ (ledger.tcrAfter (-trove.collateral) (-trove.debt)).Below (.of ledger.terms.ccr)
  covered : ¬ ledger.balance account + tolerance <
    trove.debt - Number.min ledger.terms.gasCompensation trove.debt
  change_eq : change = ⟨-trove.collateral, -trove.debt, 0⟩
  left_eq : left =
    { ledger with
      balances := ledger.balances.insert account
        (Number.max (ledger.balance account - (trove.debt - Number.min ledger.terms.gasCompensation trove.debt)) 0)
      gasPool := ledger.gasPool - Number.min ledger.terms.gasCompensation trove.debt
      supply := ledger.supply - trove.debt
      troves := ledger.troves.erase account }

theorem closeTrove_ok {account : AccountId} {change : TroveChange α}
    (accepted : ledger.closeTrove account = .ok (change, left)) :
    ∃ trove, Closing ledger account trove change left := by
  unfold closeTrove at accepted
  cases found : ledger.troves.get? account with
  | none => simp [found] at accepted
  | some trove =>
    simp only [found] at accepted
    obtain ⟨notLast, accepted⟩ := ok_of_check accepted
    obtain ⟨notInRecovery, accepted⟩ := ok_of_check accepted
    obtain ⟨systemSecured, accepted⟩ := ok_of_check accepted
    obtain ⟨paid, debited, accepted⟩ := bind_eq_ok.mp accepted
    obtain ⟨covered, rfl⟩ := debit_ok debited
    cases accepted
    exact ⟨trove, found, notLast, notInRecovery, systemSecured, covered, rfl, rfl⟩

theorem move_ok {account : AccountId} {amount : α} (accepted : ledger.move account amount = .ok left) :
    left =
      { ledger with
        balances :=
          if amount < 0 then ledger.balances.insert account (Number.max (ledger.balance account - -amount) 0)
          else addTo ledger.balances account amount } := by
  unfold move at accepted
  by_cases negative : amount < 0
  · rw [if_pos negative] at accepted ⊢
    exact (debit_ok accepted).2
  · rw [if_neg negative] at accepted ⊢
    cases accepted
    rfl

/-- The ratios that an accepted adjustment leads to. -/
structure AdjustedRatios (ledger : Ledger α) (trove : Trove α) (collateralDelta debtDelta fee : α) : Prop where
  inRecovery : ledger.InRecovery →
    let icr := ratio (trove.collateral + collateralDelta) (trove.debt + debtDelta + fee) ledger.price
    ¬ (0 < debtDelta ∧ icr.Below (.of ledger.terms.ccr)) ∧ ¬ (icr.raise tolerance).Below (trove.icr ledger.price)
  outOfRecovery : ¬ ledger.InRecovery →
    ¬ (ratio (trove.collateral + collateralDelta) (trove.debt + debtDelta + fee) ledger.price).Below
        (.of ledger.terms.mcr) ∧
      ¬ (ledger.tcrAfter collateralDelta (debtDelta + fee)).Below (.of ledger.terms.ccr)

theorem checkAdjusted_ok {trove : Trove α} {collateralDelta debtDelta fee : α}
    (accepted : ledger.checkAdjusted trove collateralDelta debtDelta fee = .ok ()) :
    AdjustedRatios ledger trove collateralDelta debtDelta fee := by
  unfold checkAdjusted at accepted
  by_cases recovery : ledger.InRecovery
  · rw [if_pos recovery] at accepted
    obtain ⟨critical, accepted⟩ := ok_of_check accepted
    obtain ⟨kept, _⟩ := ok_of_check accepted
    exact ⟨fun _ => ⟨critical, kept⟩, fun outside => absurd recovery outside⟩
  · rw [if_neg recovery] at accepted
    obtain ⟨secured, accepted⟩ := ok_of_check accepted
    obtain ⟨systemSecured, _⟩ := ok_of_check accepted
    exact ⟨fun inside => absurd inside recovery, fun _ => ⟨secured, systemSecured⟩⟩

/-- An accepted adjustment of a trove. -/
structure Adjustment (ledger : Ledger α) (account : AccountId) (collateralDelta debtDelta : α) (trove : Trove α)
    (change : TroveChange α) (left : Ledger α) : Prop where
  found : ledger.troves.get? account = some trove
  moves : ¬ (Number.abs collateralDelta ≤ tolerance ∧ Number.abs debtDelta ≤ tolerance)
  finite : ¬ (Number.isFinite collateralDelta = false ∨ Number.isFinite debtDelta = false)
  nothingWithdrawn : ¬ (ledger.InRecovery ∧ collateralDelta < 0)
  collateral_proper : ¬ trove.collateral + collateralDelta ≤ tolerance
  netDebt_proper : ¬ trove.debt + debtDelta + change.fee - ledger.terms.gasCompensation + tolerance <
    ledger.terms.minNetDebt
  covered : ¬ (debtDelta < 0 ∧ ledger.balance account + tolerance < -debtDelta)
  ratios : AdjustedRatios ledger trove collateralDelta debtDelta change.fee
  collateral_eq : change.collateral = collateralDelta
  fee_eq : change.fee = if 0 < debtDelta ∧ ¬ ledger.InRecovery then debtDelta * ledger.borrowingRate else 0
  debt_eq : change.debt = debtDelta + change.fee
  left_eq : left =
    { ledger with
      balances :=
        if debtDelta < 0 then ledger.balances.insert account (Number.max (ledger.balance account - -debtDelta) 0)
        else addTo ledger.balances account debtDelta
      feePool := ledger.feePool + change.fee
      supply := ledger.supply + (debtDelta + change.fee)
      troves := ledger.troves.insert account ⟨trove.collateral + collateralDelta, trove.debt + debtDelta + change.fee⟩ }

theorem adjustTrove_ok {account : AccountId} {collateralDelta debtDelta : α} {change : TroveChange α}
    (accepted : ledger.adjustTrove account collateralDelta debtDelta = .ok (change, left)) :
    ∃ trove, Adjustment ledger account collateralDelta debtDelta trove change left := by
  unfold adjustTrove at accepted
  cases found : ledger.troves.get? account with
  | none => simp [found] at accepted
  | some trove =>
    simp only [found] at accepted
    obtain ⟨moves, accepted⟩ := ok_of_check accepted
    obtain ⟨finite, accepted⟩ := ok_of_check accepted
    obtain ⟨nothingWithdrawn, accepted⟩ := ok_of_check accepted
    obtain ⟨collateralProper, accepted⟩ := ok_of_check accepted
    obtain ⟨netDebtProper, accepted⟩ := ok_of_check accepted
    obtain ⟨covered, accepted⟩ := ok_of_check accepted
    obtain ⟨_, ratios, accepted⟩ := bind_eq_ok.mp accepted
    obtain ⟨moved, moves_ok, accepted⟩ := bind_eq_ok.mp accepted
    cases accepted
    rw [move_ok moves_ok]
    exact ⟨trove, found, moves, finite, nothingWithdrawn, collateralProper, netDebtProper, covered,
      checkAdjusted_ok ratios, rfl, rfl, rfl, rfl⟩

theorem provide_ok {account : AccountId} {amount : α} (accepted : ledger.provide account amount = .ok left) :
    ¬ (amount ≤ 0 ∨ Number.isFinite amount = false) ∧
      ∃ paid, ledger.debit account amount = .ok paid ∧
        left =
          { (paid.payOutGains account).2 with
            deposits := addTo ledger.deposits account amount } := by
  unfold provide at accepted
  obtain ⟨proper, accepted⟩ := ok_of_check accepted
  obtain ⟨paid, debited, accepted⟩ := bind_eq_ok.mp accepted
  obtain ⟨_, rfl⟩ := debit_ok debited
  cases accepted
  exact ⟨proper, _, debited, rfl⟩

/-- An accepted withdrawal. -/
structure Withdrawal (ledger : Ledger α) (account : AccountId) (amount withdrawn : α) (left : Ledger α) : Prop where
  proper : ¬ (amount ≤ 0 ∨ Number.isFinite amount = false)
  deposited : ¬ ledger.deposit account ≤ tolerance
  nonePending : ¬ (1 < ledger.troves.size ∧
    ledger.troves.values.any (fun trove => (trove.icr ledger.price).Below (.of ledger.terms.mcr)) = true)
  withdrawn_eq : withdrawn = Number.min amount (ledger.deposit account)
  left_eq : left =
    { (ledger.payOutGains account).2 with
      deposits :=
        if ledger.deposit account - withdrawn ≤ tolerance then ledger.deposits.erase account
        else ledger.deposits.insert account (ledger.deposit account - withdrawn)
      balances := addTo ledger.balances account withdrawn }

theorem withdraw_ok {account : AccountId} {amount withdrawn : α}
    (accepted : ledger.withdraw account amount = .ok (withdrawn, left)) :
    Withdrawal ledger account amount withdrawn left := by
  unfold withdraw at accepted
  obtain ⟨proper, accepted⟩ := ok_of_check accepted
  obtain ⟨deposited, accepted⟩ := ok_of_check accepted
  obtain ⟨nonePending, accepted⟩ := ok_of_check accepted
  cases accepted
  exact ⟨proper, deposited, nonePending, rfl, rfl⟩

theorem claim_ok {account : AccountId} {gains : Gains α} (accepted : ledger.claim account = .ok (gains, left)) :
    ¬ (ledger.deposit account ≤ tolerance ∧ ¬ ledger.collateralGains.Has account ∧
        ¬ ledger.rewardGains.Has account) ∧
      (gains, left) = ledger.payOutGains account := by
  unfold claim at accepted
  obtain ⟨owed, accepted⟩ := ok_of_check accepted
  cases accepted
  exact ⟨owed, rfl⟩

theorem transfer_troves {sender receiver : AccountId} {amount : α}
    (accepted : ledger.transfer sender receiver amount = .ok left) : left.troves = ledger.troves := by
  obtain ⟨_, paid, debited, rfl⟩ := transfer_ok accepted
  obtain ⟨_, rfl⟩ := debit_ok debited
  rfl

theorem provide_troves {account : AccountId} {amount : α} (accepted : ledger.provide account amount = .ok left) :
    left.troves = ledger.troves := by
  obtain ⟨_, paid, debited, rfl⟩ := provide_ok accepted
  obtain ⟨_, rfl⟩ := debit_ok debited
  rfl

theorem withdraw_troves {account : AccountId} {amount withdrawn : α}
    (accepted : ledger.withdraw account amount = .ok (withdrawn, left)) : left.troves = ledger.troves := by
  rw [(withdraw_ok accepted).left_eq]
  rfl

theorem claim_troves {account : AccountId} {gains : Gains α} (accepted : ledger.claim account = .ok (gains, left)) :
    left.troves = ledger.troves := by
  obtain ⟨_, paidOut⟩ := claim_ok accepted
  obtain rfl : left = (ledger.payOutGains account).2 := congrArg Prod.snd paidOut
  rfl

/-- Issuing rewards changes what is owed of them, and nothing else. -/
theorem issueRewards_eq (ledger : Ledger α) (amount : α) :
    ∃ rewardGains, (ledger.issueRewards amount).2 = { ledger with rewardGains } := by
  unfold issueRewards
  dsimp only
  split
  · exact ⟨ledger.rewardGains, rfl⟩
  · exact ⟨_, rfl⟩

theorem issueRewards_troves (ledger : Ledger α) (amount : α) :
    (ledger.issueRewards amount).2.troves = ledger.troves := by
  obtain ⟨_, issued⟩ := ledger.issueRewards_eq amount
  rw [issued]

end Stablecoin.Ledger
