import Stablecoin.Proofs.Ledger.Runs
import Stablecoin.Proofs.Ledger.Totals

/-!
Conservation of stablecoin. What has been issued lies in the balances, in the stability
pool, in the gas pool or in the fee pool. The two sides part only where a call forgives
a shortfall within the tolerance: a payment that the balance does not quite cover, a
deposit entry struck with a remainder, a debt that the pool does not quite cover. Every
accepted call forgives at most one tolerance, every liquidated trove counting as a call
(`perform_unaccounted`), and so along every run (`supply_conserved`).
-/
namespace Stablecoin.Ledger
open Number (tolerance tolerance_pos)
variable {ledger left : Ledger ℝ}

/-- The stablecoin that accounts hold or have deposited and that the protocol holds. -/
noncomputable def holdings (ledger : Ledger ℝ) : ℝ :=
  Number.sum ledger.balances.values + ledger.totalDeposits + ledger.gasPool + ledger.feePool

/-- The stablecoin in supply that nobody holds. -/
noncomputable def unaccounted (ledger : Ledger ℝ) : ℝ := ledger.supply - ledger.holdings

/-- How many calls an answer counts for: none if it is a refusal, and one for each
    trove that was liquidated. -/
def acceptedCalls {α : Type} : Except (Refusal α) (Answer α) → Nat
  | .error _ => 0
  | .ok (.liquidated liquidations) => liquidations.length
  | .ok _ => 1

theorem unaccounted_eq (ledger : Ledger ℝ) :
    ledger.unaccounted = ledger.supply -
      (ledger.balances.sumOf id + ledger.deposits.sumOf id + ledger.gasPool + ledger.feePool) := by
  rw [unaccounted, holdings, totalDeposits_eq, Number.sum_real, Book.sumOf, Book.sumOf, List.map_id, List.map_id]

/-- A reading that falls by a forgiven amount moves by at most the tolerance. -/
theorem moves_of_forgiven {before now amount : ℝ} (falls : now = before - amount) (nonneg : 0 ≤ amount)
    (small : amount ≤ tolerance) : |now - before| ≤ tolerance := by
  rw [falls, sub_sub_cancel_left, abs_neg, abs_of_nonneg nonneg]
  exact small

theorem debit_unaccounted {account : AccountId} {amount : ℝ} (accepted : ledger.debit account amount = .ok left) :
    left.unaccounted = ledger.unaccounted + amount - ledger.forgiven account amount := by
  obtain ⟨_, rfl⟩ := debit_ok accepted
  simp only [unaccounted_eq, sumOf_debited]
  ring

theorem credit_unaccounted (ledger : Ledger ℝ) (account : AccountId) (amount : ℝ) :
    (ledger.credit account amount).unaccounted = ledger.unaccounted - amount := by
  simp only [unaccounted_eq, credit, sumOf_addTo]
  ring

theorem seize_unaccounted (ledger : Ledger ℝ) (account liquidator : AccountId) (trove : Trove ℝ) :
    (ledger.seize account liquidator trove).unaccounted = ledger.unaccounted := by
  rw [seize, credit_unaccounted]
  simp only [unaccounted_eq]
  ring

theorem offset_unaccounted (ledger : Ledger ℝ) (debt collateral : ℝ) :
    (ledger.offset debt collateral).unaccounted = ledger.unaccounted -
      (if tolerance < ledger.totalDeposits then max (debt - ledger.totalDeposits) 0 else 0) := by
  have supply := @offset_supply ledger debt collateral
  obtain ⟨_, _, _, _, changed⟩ := ledger.offset_eq debt collateral
  rw [changed] at supply ⊢
  simp only [unaccounted, holdings]
  linarith

theorem redistribute_unaccounted (ledger : Ledger ℝ) (debt collateral : ℝ) :
    (ledger.redistribute debt collateral).unaccounted = ledger.unaccounted := by
  obtain ⟨troves, changed⟩ := ledger.redistribute_eq debt collateral
  rw [changed]
  rfl

theorem settleInFull_unaccounted (seized : Ledger ℝ) (account : AccountId) (trove : Trove ℝ) :
    (seized.settleInFull account trove).2.unaccounted = seized.unaccounted := by
  simp only [settleInFull, redistribute_unaccounted, offset_unaccounted, Number.min_real]
  rw [max_eq_right (sub_nonpos.mpr (min_le_right _ _)), ite_self, sub_zero]

theorem settleCapped_unaccounted {seized : Ledger ℝ} {account : AccountId} {trove : Trove ℝ}
    (covered : trove.debt ≤ seized.totalDeposits + tolerance) :
    |(seized.settleCapped account trove).2.unaccounted - seized.unaccounted| ≤ tolerance := by
  refine moves_of_forgiven (offset_unaccounted seized trove.debt _) ?_ ?_
  · split
    · exact le_max_right _ _
    · exact le_rfl
  · split
    · exact max_le (by linarith) tolerance_pos.le
    · exact tolerance_pos.le

theorem liquidates_unaccounted {liquidator : AccountId} {liquidation : Liquidation ℝ}
    (liquidates : Liquidates liquidator ledger liquidation left) :
    |left.unaccounted - ledger.unaccounted| ≤ tolerance := by
  cases liquidates with
  | @capped account _ trove _ _ _ eligible _ secured =>
    rw [← ledger.seize_unaccounted account liquidator trove]
    exact settleCapped_unaccounted (eligible.covered secured)
  | inFull =>
    rw [settleInFull_unaccounted, seize_unaccounted, sub_self, abs_zero]
    exact tolerance_pos.le

theorem liquidations_unaccounted {liquidator : AccountId} {liquidations : List (Liquidation ℝ)}
    (chain : Liquidations liquidator ledger liquidations left) :
    |left.unaccounted - ledger.unaccounted| ≤ tolerance * liquidations.length := by
  induction chain with
  | none ledger => simp
  | @next ledger mid left liquidation rest first _ ih =>
    have moved := liquidates_unaccounted first
    have apart := abs_sub_le left.unaccounted mid.unaccounted ledger.unaccounted
    rw [List.length_cons, Nat.cast_succ, mul_add, mul_one]
    linarith

/-- A trove that a redemption closes burns its gas reserve from the gas pool. -/
theorem Walk.step_unaccounted {walk next : Walk ℝ} (step : Walk.Step walk next) :
    next.ledger.unaccounted = walk.ledger.unaccounted := by
  cases step with
  | take wanted found eligible noDust =>
    unfold Walk.take
    dsimp only
    split
    · simp only [unaccounted_eq]
      ring
    · rfl

theorem Walked.unaccounted_eq {redeemer : AccountId} {amount : ℝ} {walk : Walk ℝ}
    (walked : Walked ledger redeemer amount walk) : walk.ledger.unaccounted = ledger.unaccounted :=
  walked.keeps (motive := fun walk => walk.ledger.unaccounted = ledger.unaccounted) rfl
    fun _ _ same step => (Walk.step_unaccounted step).trans same

theorem redeems_unaccounted {redeemer : AccountId} {amount : ℝ} {result : Except (Refusal ℝ) (Redemption ℝ)}
    (redeems : Redeems ledger redeemer amount result left) :
    |left.unaccounted - ledger.unaccounted| ≤ tolerance * acceptedCalls (result.map Answer.redeemed) := by
  cases redeems with
  | refused refusal => simp [Except.map, acceptedCalls]
  | nothing walked dust => simp [walked.unaccounted_eq, Except.map, acceptedCalls]
  | short walked something uncovered => simp [walked.unaccounted_eq, Except.map, acceptedCalls]
  | @accepted walk paid baseRate fee walked something debited =>
    have covered := (debit_ok debited).1
    have moved := debit_unaccounted debited
    rw [walked.unaccounted_eq] at moved
    have burned : paid.unaccounted - walk.taken.redeemed =
        ledger.unaccounted - walk.ledger.forgiven redeemer walk.taken.redeemed := by
      rw [moved]
      ring
    simp only [Except.map, acceptedCalls, Nat.cast_one, mul_one]
    refine moves_of_forgiven ?_ (forgiven_nonneg walk.ledger redeemer walk.taken.redeemed) (forgiven_le covered)
    rw [← burned]
    simp only [unaccounted_eq]
    ring

theorem Opening.unaccounted_eq {account : AccountId} {collateral netDebt : ℝ} {change : TroveChange ℝ}
    (opening : Opening ledger account collateral netDebt change left) : left.unaccounted = ledger.unaccounted := by
  rw [opening.left_eq, opening.debt_eq]
  simp only [Ledger.unaccounted_eq, sumOf_addTo]
  ring

theorem Closing.unaccounted_le {account : AccountId} {trove : Trove ℝ} {change : TroveChange ℝ}
    (closing : Closing ledger account trove change left) : |left.unaccounted - ledger.unaccounted| ≤ tolerance := by
  refine moves_of_forgiven ?_ (forgiven_nonneg ledger account _) (forgiven_le closing.covered)
  rw [closing.left_eq]
  simp only [Ledger.unaccounted_eq, sumOf_debited]
  ring

theorem Adjustment.unaccounted_le {account : AccountId} {collateralDelta debtDelta : ℝ} {trove : Trove ℝ}
    {change : TroveChange ℝ} (adjustment : Adjustment ledger account collateralDelta debtDelta trove change left) :
    |left.unaccounted - ledger.unaccounted| ≤ tolerance := by
  rw [adjustment.left_eq]
  by_cases repays : debtDelta < 0
  · have covered : ¬ ledger.balance account + tolerance < -debtDelta := fun short => adjustment.covered ⟨repays, short⟩
    refine moves_of_forgiven ?_ (forgiven_nonneg ledger account _) (forgiven_le covered)
    simp only [Ledger.unaccounted_eq, if_pos repays, sumOf_debited]
    ring
  · refine moves_of_forgiven ?_ le_rfl tolerance_pos.le
    simp only [Ledger.unaccounted_eq, if_neg repays, sumOf_addTo]
    ring

theorem provide_unaccounted {account : AccountId} {amount : ℝ} (accepted : ledger.provide account amount = .ok left) :
    |left.unaccounted - ledger.unaccounted| ≤ tolerance := by
  obtain ⟨_, paid, debited, rfl⟩ := provide_ok accepted
  have moved := debit_unaccounted debited
  obtain ⟨covered, rfl⟩ := debit_ok debited
  refine moves_of_forgiven ?_ (forgiven_nonneg ledger account amount) (forgiven_le covered)
  rw [unaccounted_eq, unaccounted_eq ledger] at moved
  simp only [unaccounted_eq, payOutGains, sumOf_addTo]
  linarith

theorem Withdrawal.unaccounted_le {account : AccountId} {amount withdrawn : ℝ}
    (withdrawal : Withdrawal ledger account amount withdrawn left) :
    |left.unaccounted - ledger.unaccounted| ≤ tolerance := by
  have within : withdrawn ≤ ledger.deposit account := by
    rw [withdrawal.withdrawn_eq, Number.min_real]
    exact min_le_right _ _
  rw [withdrawal.left_eq]
  by_cases struck : ledger.deposit account - withdrawn ≤ tolerance
  · -- What is left of a struck entry is lost to its owner.
    have kept : ledger.deposits.sumOf id - (ledger.deposits.erase account).sumOf id = ledger.deposit account := by
      rw [Book.sumOf_erase, Option.map_id, deposit, id_eq]
      ring
    rw [abs_of_nonneg]
    all_goals simp only [Ledger.unaccounted_eq, payOutGains, if_pos struck, sumOf_addTo]; linarith
  · have kept : (ledger.deposits.insert account (ledger.deposit account - withdrawn)).sumOf id =
        ledger.deposits.sumOf id - withdrawn := by
      rw [Book.sumOf_insert, Option.map_id, deposit]
      simp only [id_eq]
      ring
    refine moves_of_forgiven ?_ le_rfl tolerance_pos.le
    simp only [Ledger.unaccounted_eq, payOutGains, if_neg struck, sumOf_addTo, kept]
    ring

theorem issueRewards_unaccounted (ledger : Ledger ℝ) (amount : ℝ) :
    (ledger.issueRewards amount).2.unaccounted = ledger.unaccounted := by
  unfold issueRewards
  dsimp only
  split <;> rfl

theorem transfer_unaccounted {sender receiver : AccountId} {amount : ℝ}
    (accepted : ledger.transfer sender receiver amount = .ok left) :
    |left.unaccounted - ledger.unaccounted| ≤ tolerance := by
  obtain ⟨_, paid, debited, rfl⟩ := transfer_ok accepted
  refine moves_of_forgiven ?_ (forgiven_nonneg ledger sender amount) (forgiven_le (debit_ok debited).1)
  rw [credit_unaccounted, debit_unaccounted debited]
  ring

/-- An accepted call loses or creates at most one tolerance of stablecoin, and a
    refused one none. -/
theorem perform_unaccounted (ledger : Ledger ℝ) (call : Call ℝ) :
    |(ledger.perform call).2.unaccounted - ledger.unaccounted| ≤
      tolerance * acceptedCalls (ledger.perform call).1 := by
  have performs := ledger.perform_performs call
  generalize (ledger.perform call).1 = answer at performs ⊢
  generalize (ledger.perform call).2 = left at performs ⊢
  have same {now : Ledger ℝ} (kept : now.unaccounted = ledger.unaccounted) :
      |now.unaccounted - ledger.unaccounted| ≤ tolerance * (1 : ℕ) := by
    rw [kept, sub_self, abs_zero]
    exact mul_nonneg tolerance_pos.le (Nat.cast_nonneg 1)
  have within {now : Ledger ℝ} (close : |now.unaccounted - ledger.unaccounted| ≤ tolerance) :
      |now.unaccounted - ledger.unaccounted| ≤ tolerance * (1 : ℕ) := by
    rwa [Nat.cast_one, mul_one]
  cases performs with
  | priceSet price => exact same rfl
  | periodPassed => exact same rfl
  | opened opening => exact same opening.unaccounted_eq
  | closed closing => exact within closing.unaccounted_le
  | adjusted adjustment => exact within adjustment.unaccounted_le
  | liquidated something batch => exact liquidations_unaccounted (liquidations_of_batch batch)
  | redeemed redeems => exact redeems_unaccounted redeems
  | provided accepted => exact within (provide_unaccounted accepted)
  | withdrawn withdrawal => exact within withdrawal.unaccounted_le
  | claimed owed => exact same rfl
  | issued amount => exact same (ledger.issueRewards_unaccounted amount)
  | transferred accepted => exact within (transfer_unaccounted accepted)
  | refused notRedeem refusal => simp [acceptedCalls]

theorem new_unaccounted (terms : Terms ℝ) (price : ℝ) : (new terms price).unaccounted = 0 := by
  simp [unaccounted_eq, new]

/-- After any calls the supply differs from what is held by at most one tolerance for
    each accepted call, and no call adds more to the difference than it counts for. -/
theorem supply_conserved (terms : Terms ℝ) (price : ℝ) (calls : List (Call ℝ)) :
    |((new terms price).after calls).supply - ((new terms price).after calls).holdings| ≤
        tolerance * (((new terms price).answers calls).map acceptedCalls).sum ∧
      ∀ call, |(((new terms price).after calls).perform call).2.unaccounted -
          ((new terms price).after calls).unaccounted| ≤
        tolerance * acceptedCalls (((new terms price).after calls).perform call).1 := by
  refine ⟨?_, perform_unaccounted _⟩
  have along : (new terms price).Along (fun _ _ => True) calls := along_of_all (fun _ _ => trivial) _ calls
  have moved := @after_moves (fun _ => True) (fun _ _ => True) unaccounted tolerance acceptedCalls
    (fun _ _ => trivial) (fun {ledger call} _ _ => perform_unaccounted ledger call) _ trivial calls along
  rw [new_unaccounted, sub_zero] at moved
  exact moved

end Stablecoin.Ledger
