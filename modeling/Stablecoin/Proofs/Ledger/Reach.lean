import Stablecoin.Proofs.Ledger.Gains

/-!
How far a call reaches. A ledger records five things for an account (`Record`), and a call
can change only some of them, for some accounts (`Call.Reaches`): a call by an owner reaches
the owner, a transfer the two balances that it moves between, and only liquidation,
redemption and the issue of rewards reach accounts that they do not name. What no call of a
run reaches stays as it was, whatever the calls answer and however the numbers round
(`spares_unreached`).

The two loops are followed step by step: one liquidation and one step of a redemption keep
what the whole call does not reach, and so the loops do.
-/
namespace Stablecoin

/-- What a ledger records for an account. -/
inductive Record where
  | trove
  | balance
  | deposit
  | collateralGain
  | rewardGain
deriving Repr, DecidableEq

section AnyNumbers
variable {α : Type}

/-- The call can change this record of the account. -/
def Call.Reaches : Call α → Record → AccountId → Prop
  | .setPrice _, _, _ => False
  | .advancePeriod, _, _ => False
  | .openTrove owner _ _, record, account => account = owner ∧ (record = .trove ∨ record = .balance)
  | .closeTrove owner, record, account => account = owner ∧ (record = .trove ∨ record = .balance)
  | .adjustTrove owner _ _, record, account => account = owner ∧ (record = .trove ∨ record = .balance)
  | .provide owner _, record, account => account = owner ∧ record ≠ .trove
  | .withdraw owner _, record, account => account = owner ∧ record ≠ .trove
  | .claim owner, record, account => account = owner ∧ (record = .collateralGain ∨ record = .rewardGain)
  | .transfer sender receiver _, record, account => record = .balance ∧ (account = sender ∨ account = receiver)
  | .redeem redeemer _, record, account => record = .trove ∨ record = .balance ∧ account = redeemer
  | .liquidateTroves liquidator _, record, account =>
    record ≠ .rewardGain ∧ (record = .balance → account = liquidator)
  | .issueRewards _, record, _ => record = .rewardGain

namespace Ledger
variable {ledger mid left : Ledger α} {record : Record} {account : AccountId}

/-- Both ledgers record the same for the account. -/
def SameAt (record : Record) (account : AccountId) (ledger left : Ledger α) : Prop :=
  match record with
  | .trove => left.troves.get? account = ledger.troves.get? account
  | .balance => left.balances.get? account = ledger.balances.get? account
  | .deposit => left.deposits.get? account = ledger.deposits.get? account
  | .collateralGain => left.collateralGains.get? account = ledger.collateralGains.get? account
  | .rewardGain => left.rewardGains.get? account = ledger.rewardGains.get? account

theorem SameAt.refl (record : Record) (account : AccountId) (ledger : Ledger α) :
    SameAt record account ledger ledger := by
  cases record <;> rfl

theorem SameAt.trans (first : SameAt record account ledger mid) (second : SameAt record account mid left) :
    SameAt record account ledger left := by
  cases record <;> exact Eq.trans second first

variable [Number α]

theorem Opening.sameAt {owner : AccountId} {collateral netDebt : α} {change : TroveChange α}
    (opening : Opening ledger owner collateral netDebt change left)
    (unreached : ¬ (account = owner ∧ (record = .trove ∨ record = .balance))) : SameAt record account ledger left := by
  rw [opening.left_eq]
  cases record <;> simp_all [SameAt, addTo]

theorem Closing.sameAt {owner : AccountId} {trove : Trove α} {change : TroveChange α}
    (closing : Closing ledger owner trove change left)
    (unreached : ¬ (account = owner ∧ (record = .trove ∨ record = .balance))) : SameAt record account ledger left := by
  rw [closing.left_eq]
  cases record <;> simp_all [SameAt]

theorem Adjustment.sameAt {owner : AccountId} {collateralDelta debtDelta : α} {trove : Trove α}
    {change : TroveChange α} (adjustment : Adjustment ledger owner collateralDelta debtDelta trove change left)
    (unreached : ¬ (account = owner ∧ (record = .trove ∨ record = .balance))) : SameAt record account ledger left := by
  rw [adjustment.left_eq]
  cases record with
  | balance =>
    have other : account ≠ owner := by simpa using unreached
    simp only [SameAt]
    split <;> simp [addTo, other]
  | _ => simp_all [SameAt]

theorem payOutGains_sameAt (ledger : Ledger α) {owner : AccountId}
    (unreached : ¬ (account = owner ∧ (record = .collateralGain ∨ record = .rewardGain))) :
    SameAt record account ledger (ledger.payOutGains owner).2 := by
  cases record <;> simp_all [SameAt, payOutGains]

theorem debit_sameAt {owner : AccountId} {amount : α} (accepted : ledger.debit owner amount = .ok left)
    (unreached : ¬ (record = .balance ∧ account = owner)) : SameAt record account ledger left := by
  obtain ⟨_, rfl⟩ := debit_ok accepted
  cases record <;> simp_all [SameAt]

theorem credit_sameAt (ledger : Ledger α) {owner : AccountId} (amount : α)
    (unreached : ¬ (record = .balance ∧ account = owner)) :
    SameAt record account ledger (ledger.credit owner amount) := by
  cases record <;> simp_all [SameAt, credit, addTo]

theorem provide_sameAt {owner : AccountId} {amount : α} (accepted : ledger.provide owner amount = .ok left)
    (unreached : ¬ (account = owner ∧ record ≠ .trove)) : SameAt record account ledger left := by
  obtain ⟨_, paid, debited, rfl⟩ := provide_ok accepted
  obtain ⟨_, rfl⟩ := debit_ok debited
  cases record <;> simp_all [SameAt, payOutGains, addTo]

theorem Withdrawal.sameAt {owner : AccountId} {amount withdrawn : α}
    (withdrawal : Withdrawal ledger owner amount withdrawn left)
    (unreached : ¬ (account = owner ∧ record ≠ .trove)) : SameAt record account ledger left := by
  rw [withdrawal.left_eq]
  cases record with
  | deposit =>
    have other : account ≠ owner := by simpa using unreached
    simp only [SameAt]
    split <;> simp [other]
  | _ => simp_all [SameAt, payOutGains, addTo]

theorem transfer_sameAt {sender receiver : AccountId} {amount : α}
    (accepted : ledger.transfer sender receiver amount = .ok left)
    (unreached : ¬ (record = .balance ∧ (account = sender ∨ account = receiver))) :
    SameAt record account ledger left := by
  obtain ⟨_, paid, debited, rfl⟩ := transfer_ok accepted
  have taken : SameAt record account ledger paid :=
    debit_sameAt debited fun ⟨moved, same⟩ => unreached ⟨moved, .inl same⟩
  exact taken.trans (credit_sameAt paid amount fun ⟨moved, same⟩ => unreached ⟨moved, .inr same⟩)

theorem issueRewards_sameAt (ledger : Ledger α) (amount : α) (unreached : record ≠ .rewardGain) :
    SameAt record account ledger (ledger.issueRewards amount).2 := by
  obtain ⟨_, issued⟩ := ledger.issueRewards_eq amount
  rw [issued]
  cases record <;> simp_all [SameAt]

theorem seize_sameAt (ledger : Ledger α) (owner : AccountId) {liquidator : AccountId} (trove : Trove α)
    (notTrove : record ≠ .trove) (unpaid : record = .balance → account ≠ liquidator) :
    SameAt record account ledger (ledger.seize owner liquidator trove) := by
  cases record <;> simp_all [SameAt, seize, credit, addTo]

theorem offset_sameAt (ledger : Ledger α) (debt collateral : α) (notDeposit : record ≠ .deposit)
    (notGain : record ≠ .collateralGain) : SameAt record account ledger (ledger.offset debt collateral) := by
  unfold offset
  dsimp only
  split
  · exact .refl record account ledger
  · cases record <;> simp_all [SameAt]

theorem redistribute_sameAt (ledger : Ledger α) (debt collateral : α) (notTrove : record ≠ .trove) :
    SameAt record account ledger (ledger.redistribute debt collateral) := by
  unfold redistribute
  dsimp only
  split
  · exact .refl record account ledger
  · cases record <;> simp_all [SameAt]

theorem Liquidates.sameAt {liquidator : AccountId} {liquidation : Liquidation α}
    (liquidates : Liquidates liquidator ledger liquidation left)
    (unreached : ¬ (record ≠ .rewardGain ∧ (record = .balance → account = liquidator))) :
    SameAt record account ledger left := by
  have paidNobody : record = .rewardGain ∨ record = .balance ∧ account ≠ liquidator := by tauto
  have notTrove : record ≠ .trove := by rintro rfl; simp at paidNobody
  have notDeposit : record ≠ .deposit := by rintro rfl; simp at paidNobody
  have notGain : record ≠ .collateralGain := by rintro rfl; simp at paidNobody
  have unpaid : record = .balance → account ≠ liquidator := by rintro rfl; simpa using paidNobody
  cases liquidates with
  | @capped owner icr trove =>
    have settled := (seize_sameAt ledger owner trove notTrove unpaid).trans
      (offset_sameAt _ trove.debt (Number.min (trove.debt * ledger.terms.mcr / ledger.price) trove.collateral)
        notDeposit notGain)
    -- The surplus is all that the settlement adds, and it is no record of an account.
    cases record <;> exact settled
  | inFull =>
    exact ((seize_sameAt ledger _ _ notTrove unpaid).trans (offset_sameAt _ _ _ notDeposit notGain)).trans
      (redistribute_sameAt _ _ _ notTrove)

theorem Liquidations.sameAt {liquidator : AccountId} {liquidations : List (Liquidation α)}
    (chain : Liquidations liquidator ledger liquidations left)
    (unreached : ¬ (record ≠ .rewardGain ∧ (record = .balance → account = liquidator))) :
    SameAt record account ledger left := by
  induction chain with
  | none ledger => exact .refl record account ledger
  | next first later ih => exact (first.sameAt unreached).trans ih

theorem Walk.step_sameAt {walk next : Walk α} (step : Walk.Step walk next) (notTrove : record ≠ .trove) :
    SameAt record account walk.ledger next.ledger := by
  cases step with
  | take wanted found eligible noDust =>
    unfold Walk.take
    dsimp only
    split <;> cases record <;> simp_all [SameAt]

theorem Walked.sameAt {redeemer : AccountId} {amount : α} {walk : Walk α}
    (walked : Walked ledger redeemer amount walk) (notTrove : record ≠ .trove) :
    SameAt record account ledger walk.ledger :=
  walked.keeps (motive := fun walk => SameAt record account ledger walk.ledger) (.refl record account ledger)
    fun _ _ same step => same.trans (Walk.step_sameAt step notTrove)

/-- Also a redemption that is refused on its way has changed nothing but troves. -/
theorem Redeems.sameAt {redeemer : AccountId} {amount : α} {result : Except (Refusal α) (Redemption α)}
    (redeems : Redeems ledger redeemer amount result left)
    (unreached : ¬ (record = .trove ∨ record = .balance ∧ account = redeemer)) : SameAt record account ledger left := by
  obtain ⟨notTrove, unpaid⟩ := not_or.mp unreached
  cases redeems with
  | refused refusal => exact .refl record account ledger
  | nothing walked dust => exact walked.sameAt notTrove
  | short walked something uncovered => exact walked.sameAt notTrove
  | accepted walked something debited baseRate_eq fee_eq =>
    have paid := (walked.sameAt notTrove).trans (debit_sameAt debited unpaid)
    cases record <;> exact paid

theorem perform_sameAt (ledger : Ledger α) {call : Call α} (unreached : ¬ call.Reaches record account) :
    SameAt record account ledger (ledger.perform call).2 := by
  have performs := ledger.perform_performs call
  generalize (ledger.perform call).1 = answer, (ledger.perform call).2 = left at performs ⊢
  cases performs with
  | priceSet price => cases record <;> rfl
  | periodPassed => cases record <;> rfl
  | opened opening => exact opening.sameAt unreached
  | closed closing => exact closing.sameAt unreached
  | adjusted adjustment => exact adjustment.sameAt unreached
  | liquidated something batch => exact (liquidations_of_batch batch).sameAt unreached
  | redeemed redeems => exact redeems.sameAt unreached
  | provided accepted => exact provide_sameAt accepted unreached
  | withdrawn withdrawal => exact withdrawal.sameAt unreached
  | claimed owed => exact ledger.payOutGains_sameAt unreached
  | issued amount => exact ledger.issueRewards_sameAt amount unreached
  | transferred accepted => exact transfer_sameAt accepted unreached
  | refused notRedeem refusal => exact .refl record account ledger

theorem after_sameAt (ledger : Ledger α) {calls : List (Call α)}
    (unreached : ∀ call ∈ calls, ¬ call.Reaches record account) :
    SameAt record account ledger (ledger.after calls) := by
  induction calls generalizing ledger with
  | nil => exact .refl record account ledger
  | cons call calls ih =>
    obtain ⟨first, later⟩ := List.forall_mem_cons.mp unreached
    rw [after_cons]
    exact (ledger.perform_sameAt first).trans (ih _ later)

/-- Of the whole ledger a transfer changes the balances and nothing else. -/
theorem perform_transfer_eq (ledger : Ledger α) (sender receiver : AccountId) (amount : α) :
    ∃ balances, (ledger.perform (.transfer sender receiver amount)).2 = { ledger with balances } := by
  rw [perform]
  cases moved : ledger.transfer sender receiver amount with
  | error refusal => exact ⟨ledger.balances, rfl⟩
  | ok left =>
    obtain ⟨_, _, debited, rfl⟩ := transfer_ok moved
    obtain ⟨_, rfl⟩ := debit_ok debited
    exact ⟨_, rfl⟩

/-- A call leaves what it does not reach as it was, whatever it answers, and a run leaves what
    none of its calls reaches. Of the whole ledger, its totals and reserves included, a
    transfer changes the balances alone, and an issue of rewards what is owed of them. -/
theorem spares_unreached (ledger : Ledger α) (record : Record) (account : AccountId) :
    (∀ call : Call α, ¬ call.Reaches record account → SameAt record account ledger (ledger.perform call).2) ∧
      (∀ calls : List (Call α), (∀ call ∈ calls, ¬ call.Reaches record account) →
        SameAt record account ledger (ledger.after calls)) ∧
      (∀ sender receiver amount, ∃ balances,
        (ledger.perform (.transfer sender receiver amount)).2 = { ledger with balances }) ∧
      ∀ amount, ∃ rewardGains, (ledger.perform (.issueRewards amount)).2 = { ledger with rewardGains } :=
  ⟨fun _ unreached => ledger.perform_sameAt unreached, fun _ unreached => ledger.after_sameAt unreached,
    ledger.perform_transfer_eq, ledger.issueRewards_eq⟩

end Ledger

end AnyNumbers

namespace Ledger

/-- The liquidation of a trove and the calls of others leave what its owner holds. -/
theorem shallow_spares :
    let calls : List (Call ℝ) := [.liquidateTroves 9 1, .claim 7, .redeem 9 100.0, .transfer 7 9 1.0]
    ¬ (Call.liquidateTroves 9 1 : Call ℝ).Reaches .balance 8 ∧
      (shallow.perform (.liquidateTroves 9 1)).2.balances.get? 8 = some 2000.0 ∧
      (∀ call ∈ calls, ¬ call.Reaches .balance 8) ∧ (shallow.after calls).balances.get? 8 = some 2000.0 ∧
      (shallow.perform (.transfer 7 9 1.0)).2.supply = shallow.supply ∧
      (shallow.perform (.issueRewards 5.0)).2.deposits = shallow.deposits := by
  intro calls
  have held : shallow.balances.get? 8 = some 2000.0 := rfl
  have spared : ¬ (Call.liquidateTroves 9 1 : Call ℝ).Reaches .balance 8 := by simp [Call.Reaches]
  have allSpared : ∀ call ∈ calls, ¬ call.Reaches .balance 8 := by simp [calls, Call.Reaches]
  obtain ⟨one, run, moves, issues⟩ := spares_unreached shallow .balance 8
  obtain ⟨_, moved⟩ := moves 7 9 1.0
  obtain ⟨_, issued⟩ := issues 5.0
  exact ⟨spared, Eq.trans (one _ spared) held, allSpared, Eq.trans (run calls allSpared) held, by rw [moved],
    by rw [issued]⟩

end Ledger
end Stablecoin
