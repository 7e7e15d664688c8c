import Stablecoin.Proofs.Ledger.Totals

namespace Stablecoin.Ledger
open Number (tolerance tolerance_pos)
variable {ledger left : Ledger ℝ} {account : AccountId} {collateral netDebt amount : ℝ} {change : TroveChange ℝ}

/-- What is read from a ledger, as its books and terms give it. -/
theorem readings (ledger : Ledger ℝ) :
    (ledger.totalCollateral = (ledger.troves.values.map (·.collateral)).sum ∧
      ledger.totalDebt = (ledger.troves.values.map (·.debt)).sum ∧ ledger.totalDeposits = ledger.deposits.values.sum) ∧
      (ledger.borrowingRate = min (ledger.terms.borrowingFeeFloor + ledger.baseRate) ledger.terms.maxBorrowingFee ∧
        ledger.redemptionRate = min (ledger.terms.redemptionFeeFloor + ledger.baseRate) 1) ∧
      ∀ account, ledger.balance account = (ledger.balances.get? account).getD 0 ∧
        ledger.deposit account = (ledger.deposits.get? account).getD 0 := by
  simp [totalCollateral, totalDebt, totalDeposits, borrowingRate, redemptionRate, balance, deposit]

@[simp] theorem addTo_mk {entries : List (AccountId × ℝ)} {ascending : entries.Pairwise fun a b => a.1 < b.1}
    (account : AccountId) (amount : ℝ) : addTo ⟨entries, ascending⟩ account amount =
      (⟨entries, ascending⟩ : Book ℝ).insert account ((entries.lookup account).getD 0 + amount) := rfl

@[simp] theorem addTo_empty (account : AccountId) (amount : ℝ) :
    addTo Book.empty account amount = ⟨[(account, amount)], by simp⟩ := by
  simp [addTo]

@[simp] theorem settle_ok {β : Type} (value : β) (answer : β → Answer ℝ) :
    ledger.settle (.ok (value, left)) answer = (.ok (answer value), left) := rfl

theorem ratio_below_iff (collateral debt price minimum : ℝ) :
    (ratio collateral debt price).Below (.of minimum) ↔ tolerance < debt ∧ collateral * price < minimum * debt := by
  unfold ratio
  split
  · rename_i small
    simp [not_lt.mpr small]
  · rename_i some
    have positive : 0 < debt := tolerance_pos.trans (not_le.mp some)
    rw [Ratio.below_of_of, div_lt_iff₀ positive, and_iff_right (not_le.mp some)]

theorem inRecovery_iff (ledger : Ledger ℝ) : ledger.InRecovery ↔
    tolerance < ledger.totalDebt ∧ ledger.totalCollateral * ledger.price < ledger.terms.ccr * ledger.totalDebt :=
  ratio_below_iff ..

theorem not_ratio_below {debt price minimum : ℝ} (covered : minimum * debt ≤ collateral * price) :
    ¬ (ratio collateral debt price).Below (.of minimum) :=
  fun below => not_lt.mpr covered ((ratio_below_iff ..).mp below).2

theorem new_calm (terms : Terms ℝ) (price : ℝ) : ¬ (new terms price).InRecovery := by
  simp [inRecovery_iff, readings, new]

/-- An opening that passes every check out of recovery. -/
structure CalmOpening (ledger : Ledger ℝ) (account : AccountId) (collateral netDebt : ℝ) (change : TroveChange ℝ)
    (left : Ledger ℝ) : Prop where
  calm : ¬ ledger.InRecovery
  fresh : ¬ ledger.troves.Has account
  collateral_pos : 0 < collateral
  minNetDebt_le : ledger.terms.minNetDebt ≤ netDebt
  change_eq : change = ⟨collateral, netDebt + netDebt * ledger.borrowingRate + ledger.terms.gasCompensation,
    netDebt * ledger.borrowingRate⟩
  secured : ledger.terms.mcr * change.debt ≤ collateral * ledger.price
  systemSecured : ledger.terms.ccr * (ledger.totalDebt + change.debt) ≤
    (ledger.totalCollateral + collateral) * ledger.price
  left_eq : left =
    { ledger with
      troves := ledger.troves.insert account ⟨collateral, change.debt⟩
      balances := addTo ledger.balances account netDebt
      feePool := ledger.feePool + change.fee
      gasPool := ledger.gasPool + ledger.terms.gasCompensation
      supply := ledger.supply + change.debt }

theorem CalmOpening.accepted (opening : CalmOpening ledger account collateral netDebt change left) :
    ledger.openTrove account collateral netDebt = .ok (change, left) := by
  obtain ⟨calm, fresh, positive, enough, rfl, secured, systemSecured, rfl⟩ := opening
  have large : ¬ netDebt + tolerance < ledger.terms.minNetDebt := by linarith [@tolerance_pos]
  simp only [openTrove, fresh, calm, not_le.mpr positive, large, not_ratio_below secured, tcrAfter,
    not_ratio_below systemSecured, Number.isFinite_real, Bool.true_eq_false, or_false, and_false, if_false]
  rfl

theorem CalmOpening.perform (opening : CalmOpening ledger account collateral netDebt change left) :
    ledger.perform (.openTrove account collateral netDebt) = (.ok (.changed change), left) := by
  rw [Ledger.perform, opening.accepted, settle_ok]

/-- A closure that passes every check. -/
structure CalmClosing (ledger : Ledger ℝ) (account : AccountId) (trove : Trove ℝ) : Prop where
  found : ledger.troves.get? account = some trove
  several : 1 < ledger.troves.size
  calm : ¬ ledger.InRecovery
  systemSecured : ledger.terms.ccr * (ledger.totalDebt + -trove.debt) ≤
    (ledger.totalCollateral + -trove.collateral) * ledger.price
  covered : trove.debt - min ledger.terms.gasCompensation trove.debt ≤ ledger.balance account

theorem debit_eq (covered : amount ≤ ledger.balance account) : ledger.debit account amount =
    .ok { ledger with balances := ledger.balances.insert account (ledger.balance account - amount) } := by
  have enough : ¬ ledger.balance account + tolerance < amount := by linarith [@tolerance_pos]
  simp only [debit, enough, if_false, Number.max_real, max_eq_left (sub_nonneg.mpr covered), pure_eq_ok]

theorem CalmClosing.accepted {trove : Trove ℝ} (closing : CalmClosing ledger account trove) :
    ∃ left, ledger.closeTrove account = .ok (⟨-trove.collateral, -trove.debt, 0⟩, left) := by
  have covered := closing.covered
  rw [← Number.min_real] at covered
  simp only [closeTrove, closing.found, not_le.mpr closing.several, closing.calm, tcrAfter,
    not_ratio_below closing.systemSecured, if_false, debit_eq covered, ok_bind]
  exact ⟨_, rfl⟩

/-- An adjustment that draws or leaves the debt as it is, and passes every check out of
    recovery. -/
structure CalmAdjustment (ledger : Ledger ℝ) (account : AccountId) (collateralDelta debtDelta fee : ℝ)
    (trove : Trove ℝ) (left : Ledger ℝ) : Prop where
  found : ledger.troves.get? account = some trove
  calm : ¬ ledger.InRecovery
  moves : tolerance < |collateralDelta| ∨ tolerance < |debtDelta|
  debtDelta_nonneg : 0 ≤ debtDelta
  fee_eq : fee = debtDelta * ledger.borrowingRate
  collateral_pos : tolerance < trove.collateral + collateralDelta
  minNetDebt_le : ledger.terms.minNetDebt ≤ trove.debt + debtDelta + fee - ledger.terms.gasCompensation
  secured : ledger.terms.mcr * (trove.debt + debtDelta + fee) ≤ (trove.collateral + collateralDelta) * ledger.price
  systemSecured : ledger.terms.ccr * (ledger.totalDebt + (debtDelta + fee)) ≤
    (ledger.totalCollateral + collateralDelta) * ledger.price
  left_eq : left =
    { ledger with
      balances := addTo ledger.balances account debtDelta
      feePool := ledger.feePool + fee
      supply := ledger.supply + (debtDelta + fee)
      troves := ledger.troves.insert account ⟨trove.collateral + collateralDelta, trove.debt + debtDelta + fee⟩ }

theorem CalmAdjustment.accepted {collateralDelta debtDelta fee : ℝ} {trove : Trove ℝ}
    (adjustment : CalmAdjustment ledger account collateralDelta debtDelta fee trove left) :
    ledger.adjustTrove account collateralDelta debtDelta = .ok (⟨collateralDelta, debtDelta + fee, fee⟩, left) := by
  obtain ⟨found, calm, moves, nonneg, rfl, positive, enough, secured, systemSecured, rfl⟩ := adjustment
  have fee : (if 0 < debtDelta ∧ True then debtDelta * ledger.borrowingRate else 0) =
      debtDelta * ledger.borrowingRate := by
    rcases nonneg.lt_or_eq with some | rfl
    · rw [if_pos ⟨some, trivial⟩]
    · simp
  have large : ¬ trove.debt + debtDelta + debtDelta * ledger.borrowingRate - ledger.terms.gasCompensation + tolerance <
      ledger.terms.minNetDebt := by
    linarith [@tolerance_pos]
  have still : ¬ (|collateralDelta| ≤ tolerance ∧ |debtDelta| ≤ tolerance) := by
    rwa [not_and_or, not_le, not_le]
  simp only [adjustTrove, checkAdjusted, found, calm, not_false_eq_true, fee, large, Number.abs_real, still,
    Number.isFinite_real, Bool.true_eq_false, or_false, false_and, not_le.mpr positive, not_lt.mpr nonneg,
    not_ratio_below secured, tcrAfter, not_ratio_below systemSecured, if_false, move, ok_bind, pure_eq_ok]
  rfl

theorem transfer_eq {receiver : AccountId} (positive : 0 < amount) (covered : amount ≤ ledger.balance account) :
    ledger.transfer account receiver amount = .ok { ledger with
      balances := addTo (ledger.balances.insert account (ledger.balance account - amount)) receiver amount } := by
  simp only [transfer, not_le.mpr positive, Number.isFinite_real, Bool.true_eq_false, or_false, if_false,
    debit_eq covered, ok_bind]
  rfl

theorem perform_transfer {receiver : AccountId} (positive : 0 < amount) (covered : amount ≤ ledger.balance account)
    (left_eq : left = { ledger with
      balances := addTo (ledger.balances.insert account (ledger.balance account - amount)) receiver amount }) :
    ledger.perform (.transfer account receiver amount) = (.ok .done, left) := by
  rw [perform, transfer_eq positive covered, left_eq]
  rfl

/-- The ledger once the account has moved an amount of its balance into its deposit. -/
noncomputable def afterDeposit (ledger : Ledger ℝ) (account : AccountId) (amount : ℝ) : Ledger ℝ :=
  { (ledger.payOutGains account).2 with
    balances := ledger.balances.insert account (ledger.balance account - amount)
    deposits := addTo ledger.deposits account amount }

/-- What an account holds it can deposit. -/
theorem provide_eq (positive : 0 < amount) (covered : amount ≤ ledger.balance account) :
    ledger.provide account amount = .ok (ledger.afterDeposit account amount) := by
  simp only [provide, not_le.mpr positive, Number.isFinite_real, Bool.true_eq_false, or_false, if_false,
    debit_eq covered, ok_bind]
  rfl

theorem perform_provide (positive : 0 < amount) (covered : amount ≤ ledger.balance account)
    (left_eq : left = ledger.afterDeposit account amount) :
    ledger.perform (.provide account amount) = (.ok .done, left) := by
  rw [perform, provide_eq positive covered, left_eq]
  rfl

/-- A redemption against the only trove takes all of the amount, if what is left of the trove
    is nothing or the minimum. -/
structure SoleRedemption (ledger : Ledger ℝ) (redeemer : AccountId) (amount : ℝ) (account : AccountId)
    (trove : Trove ℝ) : Prop where
  alone : ledger.troves.entries = [(account, trove)]
  large : tolerance < amount
  held : amount ≤ ledger.balance redeemer
  indebted : 0 < trove.debt
  secured : ledger.terms.mcr * trove.debt ≤ trove.collateral * ledger.price
  net : amount ≤ trove.debt - ledger.terms.gasCompensation
  rest : trove.debt - ledger.terms.gasCompensation - amount ≤ tolerance ∨
    ledger.terms.minNetDebt ≤ trove.debt - ledger.terms.gasCompensation - amount + tolerance

theorem SoleRedemption.walked {redeemer : AccountId} {trove : Trove ℝ}
    (sole : SoleRedemption ledger redeemer amount account trove) :
    Walk.along ⟨ledger, amount, ⟨0, 0, 0, []⟩⟩ ledger.sortedTroves =
      Walk.take ⟨ledger, amount, ⟨0, 0, 0, []⟩⟩ account trove amount
        (trove.debt - ledger.terms.gasCompensation - amount) := by
  have sorted : ledger.sortedTroves = [(account, trove.icr ledger.price)] := by
    simp [sortedTroves, sole.alone, place]
  have found : ledger.troves.get? account = some trove := by
    simp [Book.get?, sole.alone]
  have healthy : ¬ (trove.icr ledger.price).Below (.of ledger.terms.mcr) := by
    rw [Trove.icr, if_neg (not_le.mpr sole.indebted), Ratio.below_of_of, not_lt, le_div_iff₀ sole.indebted]
    exact sole.secured
  have take : Number.min amount (trove.debt - ledger.terms.gasCompensation) = amount := by
    rw [Number.min_real, min_eq_left sole.net]
  have whole : ¬ (tolerance < trove.debt - ledger.terms.gasCompensation - amount ∧
      trove.debt - ledger.terms.gasCompensation - amount + tolerance < ledger.terms.minNetDebt) := by
    rintro ⟨left, short⟩
    rcases sole.rest with none | enough
    · exact not_lt.mpr none left
    · exact not_lt.mpr enough short
  rw [sorted]
  simp only [Walk.along, not_le.mpr sole.large, healthy, found, take, whole, if_false]

theorem SoleRedemption.accepted {redeemer : AccountId} {trove : Trove ℝ}
    (sole : SoleRedemption ledger redeemer amount account trove) :
    ∃ redemption left, ledger.redeem redeemer amount = (.ok redemption, left) ∧ redemption.redeemed = amount ∧
      redemption.closed = if trove.debt - ledger.terms.gasCompensation - amount ≤ tolerance then [account] else [] := by
  have system : ¬ ledger.tcr.Below (.of ledger.terms.mcr) := by
    refine not_ratio_below ?_
    simpa [totalDebt, totalCollateral, Book.values, sole.alone] using sole.secured
  have positive : ¬ amount ≤ 0 := not_le.mpr (tolerance_pos.trans sole.large)
  have covered : ¬ ledger.balance redeemer + tolerance < amount := by linarith [sole.held, @tolerance_pos]
  have walked := sole.walked
  generalize walk_eq : Walk.take ⟨ledger, amount, ⟨0, 0, 0, []⟩⟩ account trove amount
    (trove.debt - ledger.terms.gasCompensation - amount) = walk at walked
  have taken : walk.taken.redeemed = amount := by
    rw [← walk_eq]
    exact zero_add amount
  have closed : walk.taken.closed =
      if trove.debt - ledger.terms.gasCompensation - amount ≤ tolerance then [account] else [] := by
    rw [← walk_eq]
    rfl
  have held : walk.ledger.balance redeemer = ledger.balance redeemer := by
    rw [← walk_eq]
    unfold Walk.take
    dsimp only
    split <;> rfl
  have paid := debit_eq (held ▸ sole.held)
  simp only [redeem, positive, Number.isFinite_real, covered, system, walked, taken, not_le.mpr sole.large, paid,
    Bool.true_eq_false, or_false, if_false]
  exact ⟨_, _, rfl, rfl, closed⟩

end Stablecoin.Ledger
