import Stablecoin.Proofs.Exact
import Stablecoin.Proofs.Ledger.Steps

/-!
Runs of calls. `Performs` says of one call what it answers and which ledger it leaves;
a proof about any call goes through its cases. A property that every call keeps holds
after every run (`after_keeps`), and a reading of the ledger that every call moves by
no more than its answer accounts for moves along a run by no more than all answers do
(`after_moves`).
-/
namespace Stablecoin.Ledger
variable {α : Type} [Number α]

/-- What a call answers and the ledger that it leaves. A refused redemption is among
    the redemptions, for it answers with a ledger too. -/
inductive Performs (ledger : Ledger α) : Call α → Except (Refusal α) (Answer α) → Ledger α → Prop
  | priceSet (price : α) : Performs ledger (.setPrice price) (.ok .done) (ledger.setPrice price)
  | periodPassed : Performs ledger .advancePeriod (.ok .done) ledger.advancePeriod
  | opened {account : AccountId} {collateral netDebt : α} {change : TroveChange α} {left : Ledger α}
      (opening : Opening ledger account collateral netDebt change left) :
      Performs ledger (.openTrove account collateral netDebt) (.ok (.changed change)) left
  | closed {account : AccountId} {trove : Trove α} {change : TroveChange α} {left : Ledger α}
      (closing : Closing ledger account trove change left) :
      Performs ledger (.closeTrove account) (.ok (.changed change)) left
  | adjusted {account : AccountId} {collateralDelta debtDelta : α} {trove : Trove α} {change : TroveChange α}
      {left : Ledger α} (adjustment : Adjustment ledger account collateralDelta debtDelta trove change left) :
      Performs ledger (.adjustTrove account collateralDelta debtDelta) (.ok (.changed change)) left
  | liquidated {liquidator : AccountId} {count : Nat} {liquidations : List (Liquidation α)} {left : Ledger α}
      (something : liquidations ≠ [])
      (batch : ledger.liquidateUpTo liquidator count = (liquidations, left)) :
      Performs ledger (.liquidateTroves liquidator count) (.ok (.liquidated liquidations)) left
  | redeemed {redeemer : AccountId} {amount : α} {result : Except (Refusal α) (Redemption α)} {left : Ledger α}
      (redeems : Redeems ledger redeemer amount result left) :
      Performs ledger (.redeem redeemer amount) (result.map .redeemed) left
  | provided {account : AccountId} {amount : α} {left : Ledger α}
      (accepted : ledger.provide account amount = .ok left) :
      Performs ledger (.provide account amount) (.ok .done) left
  | withdrawn {account : AccountId} {amount withdrawn : α} {left : Ledger α}
      (withdrawal : Withdrawal ledger account amount withdrawn left) :
      Performs ledger (.withdraw account amount) (.ok (.amount withdrawn)) left
  | claimed {account : AccountId} (owed : ¬ (ledger.deposit account ≤ Number.tolerance ∧
        ¬ ledger.collateralGains.Has account ∧ ¬ ledger.rewardGains.Has account)) :
      Performs ledger (.claim account) (.ok (.claimed (ledger.payOutGains account).1)) (ledger.payOutGains account).2
  | issued (amount : α) :
      Performs ledger (.issueRewards amount) (.ok (.amount (ledger.issueRewards amount).1))
        (ledger.issueRewards amount).2
  | transferred {sender receiver : AccountId} {amount : α} {left : Ledger α}
      (accepted : ledger.transfer sender receiver amount = .ok left) :
      Performs ledger (.transfer sender receiver amount) (.ok .done) left
  | refused {call : Call α} (notRedeem : ∀ redeemer amount, call ≠ .redeem redeemer amount) (refusal : Refusal α) :
      Performs ledger call (.error refusal) ledger

/-- A call whose refusals come without a ledger performs as its accepted result does. -/
theorem settle_performs {ledger : Ledger α} {call : Call α} {β : Type}
    {result : Except (Refusal α) (β × Ledger α)} {answer : β → Answer α}
    (notRedeem : ∀ redeemer amount, call ≠ .redeem redeemer amount)
    (accepted : ∀ value left, result = .ok (value, left) → Performs ledger call (.ok (answer value)) left) :
    Performs ledger call (ledger.settle result answer).1 (ledger.settle result answer).2 := by
  cases result with
  | error refusal => exact .refused notRedeem refusal
  | ok done => exact accepted done.1 done.2 rfl

omit [Number α] in
theorem ok_of_map_unit {result : Except (Refusal α) (Ledger α)} {left : Ledger α}
    (accepted : result.map ((), ·) = .ok ((), left)) : result = .ok left := by
  cases result with
  | error refusal => cases accepted
  | ok value =>
    cases accepted
    rfl

theorem perform_performs (ledger : Ledger α) (call : Call α) :
    Performs ledger call (ledger.perform call).1 (ledger.perform call).2 := by
  cases call with
  | setPrice price => exact .priceSet price
  | advancePeriod => exact .periodPassed
  | openTrove account collateral netDebt =>
    exact settle_performs (by simp) fun _ _ accepted => .opened (openTrove_ok accepted)
  | closeTrove account =>
    refine settle_performs (by simp) fun _ _ accepted => ?_
    obtain ⟨trove, closing⟩ := closeTrove_ok accepted
    exact .closed closing
  | adjustTrove account collateralDelta debtDelta =>
    refine settle_performs (by simp) fun _ _ accepted => ?_
    obtain ⟨trove, adjustment⟩ := adjustTrove_ok accepted
    exact .adjusted adjustment
  | liquidateTroves liquidator count =>
    refine settle_performs (by simp) fun _ _ accepted => ?_
    obtain ⟨something, batch⟩ := liquidateTroves_ok accepted
    exact .liquidated something batch
  | redeem redeemer amount => exact .redeemed (ledger.redeem_redeems redeemer amount)
  | provide account amount =>
    exact settle_performs (by simp) fun _ _ accepted => .provided (ok_of_map_unit accepted)
  | withdraw account amount =>
    exact settle_performs (by simp) fun _ _ accepted => .withdrawn (withdraw_ok accepted)
  | claim account =>
    refine settle_performs (by simp) fun gains left accepted => ?_
    obtain ⟨owed, paidOut⟩ := claim_ok accepted
    rw [← (Prod.mk.inj paidOut.symm).1, ← (Prod.mk.inj paidOut.symm).2]
    exact .claimed owed
  | issueRewards amount => exact .issued amount
  | transfer sender receiver amount =>
    exact settle_performs (by simp) fun _ _ accepted => .transferred (ok_of_map_unit accepted)

/-- What the calls answer, each on the ledger that the calls before it left. -/
def answers (ledger : Ledger α) : List (Call α) → List (Except (Refusal α) (Answer α))
  | [] => []
  | call :: calls => (ledger.perform call).1 :: (ledger.perform call).2.answers calls

/-- Every call of the run meets the condition on the ledger that it is made on. -/
def Along (condition : Ledger α → Call α → Prop) (ledger : Ledger α) : List (Call α) → Prop
  | [] => True
  | call :: calls => condition ledger call ∧ (ledger.perform call).2.Along condition calls

theorem along_of_all {condition : Ledger α → Call α → Prop} (all : ∀ ledger call, condition ledger call)
    (ledger : Ledger α) (calls : List (Call α)) : ledger.Along condition calls := by
  induction calls generalizing ledger with
  | nil => trivial
  | cons call calls ih => exact ⟨all ledger call, ih _⟩

theorem after_cons (ledger : Ledger α) (call : Call α) (calls : List (Call α)) :
    ledger.after (call :: calls) = (ledger.perform call).2.after calls := rfl

/-- What every call keeps holds after every run. -/
theorem after_keeps {kept : Ledger α → Prop}
    (keeps : ∀ {ledger : Ledger α} (call : Call α), kept ledger → kept (ledger.perform call).2)
    {ledger : Ledger α} (start : kept ledger) (calls : List (Call α)) : kept (ledger.after calls) := by
  induction calls generalizing ledger with
  | nil => exact start
  | cons call calls ih => exact ih (keeps call start)

/-- A reading that every call moves by at most `bound` for each time its answer counts
    moves along a run by at most `bound` for each time the answers of the run count. -/
theorem after_moves {kept : Ledger ℝ → Prop} {condition : Ledger ℝ → Call ℝ → Prop} {reading : Ledger ℝ → ℝ}
    {bound : ℝ} {count : Except (Refusal ℝ) (Answer ℝ) → Nat}
    (keeps : ∀ {ledger : Ledger ℝ} (call : Call ℝ), kept ledger → kept (ledger.perform call).2)
    (moves : ∀ {ledger : Ledger ℝ} {call : Call ℝ}, kept ledger → condition ledger call →
      |reading (ledger.perform call).2 - reading ledger| ≤ bound * count (ledger.perform call).1)
    {ledger : Ledger ℝ} (start : kept ledger) {calls : List (Call ℝ)} (along : ledger.Along condition calls) :
    |reading (ledger.after calls) - reading ledger| ≤ bound * ((ledger.answers calls).map count).sum := by
  induction calls generalizing ledger with
  | nil => simp [after, answers]
  | cons call calls ih =>
    have first := moves start along.1
    have later := ih (keeps call start) along.2
    have apart := abs_sub_le (reading (ledger.after (call :: calls))) (reading (ledger.perform call).2) (reading ledger)
    rw [after_cons] at apart ⊢
    simp only [answers, List.map_cons, List.sum_cons, Nat.cast_add, mul_add]
    linarith

end Stablecoin.Ledger
