import Stablecoin.Proofs.Ledger.Atomicity
import Stablecoin.Proofs.Market.Turns

/-!
A borrower who has been topped up can pay. The amount is worked out three times: by the
step that tops the account up, by the call that takes the debt back and by the payment in
it, and each compares with a tolerance of its own. A gap that is left open because it is
within the tolerance is one that the payment forgives, and a gap above it is closed exactly
(`ToppedUp`). So neither the closing of a trove nor the repayment that follows a top-up is
refused for want of stablecoin (`topUp_suffices`), whatever else may refuse it.
-/
namespace Stablecoin
open Ledger
open Number (tolerance tolerance_pos)

namespace Ledger
variable {ledger left funded : Ledger ℝ} {account : AccountId} {need : ℝ} {β : Type}

/-- The answer does not refuse for want of stablecoin. -/
def NotShort (result : Except (Refusal ℝ) β) : Prop :=
  ∀ held needed, result ≠ .error (.insufficientBalance held needed)

theorem notShort_ok (value : β) : NotShort (.ok value) := nofun

/-- A check that refuses for another reason leaves it to what follows. -/
theorem NotShort.check {fault : Prop} [Decidable fault] {refusal : Refusal ℝ} {result : Except (Refusal ℝ) β}
    (other : ∀ held needed, refusal ≠ .insufficientBalance held needed) (rest : NotShort result) :
    NotShort (if fault then .error refusal else result) := by
  intro held needed
  split
  · exact fun same => other held needed (Except.error.inj same)
  · exact rest held needed

theorem debit_notShort {amount : ℝ} (covered : amount ≤ ledger.balance account + tolerance) :
    NotShort (ledger.debit account amount) := by
  intro held needed refused
  exact absurd (debit_error refused) (not_lt.mpr covered)

theorem checkAdjusted_notShort (ledger : Ledger ℝ) (trove : Trove ℝ) (collateralDelta debtDelta fee : ℝ) :
    NotShort (ledger.checkAdjusted trove collateralDelta debtDelta fee) := by
  unfold checkAdjusted
  split
  · exact .check nofun (.check nofun (notShort_ok _))
  · exact .check nofun (.check nofun (notShort_ok _))

/-- What follows an answer is made on what it gives. -/
theorem NotShort.bind {γ : Type} {result : Except (Refusal ℝ) β} {next : β → Except (Refusal ℝ) γ}
    (first : NotShort result) (rest : ∀ value, NotShort (next value)) : NotShort (result >>= next) := by
  intro held needed
  cases result with
  | error refusal => exact fun same => first held needed (congrArg Except.error (Except.error.inj same))
  | ok value => exact rest value held needed

/-- A trove can be closed with what the debt without the gas reserve takes. -/
theorem closeTrove_notShort {trove : Trove ℝ} (found : ledger.troves.get? account = some trove)
    (covered : trove.debt - Number.min ledger.terms.gasCompensation trove.debt ≤ ledger.balance account + tolerance) :
    NotShort (ledger.closeTrove account) := by
  unfold closeTrove
  simp only [found]
  exact .check nofun (.check nofun (.check nofun (.bind (debit_notShort covered) fun _ => notShort_ok _)))

/-- A repayment can be made with what it takes. -/
theorem adjustTrove_notShort {trove : Trove ℝ} (found : ledger.troves.get? account = some trove)
    {collateralDelta debtDelta : ℝ} (covered : -debtDelta ≤ ledger.balance account + tolerance) :
    NotShort (ledger.adjustTrove account collateralDelta debtDelta) := by
  unfold adjustTrove
  simp only [found]
  refine .check nofun (.check nofun (.check nofun (.check nofun (.check nofun ?_))))
  have moved : NotShort (ledger.move account debtDelta) := by
    unfold move
    split
    · exact debit_notShort covered
    · exact notShort_ok _
  rw [if_neg fun short => absurd short.2 (not_lt.mpr covered)]
  exact .bind (checkAdjusted_notShort _ _ _ _ _) fun _ => .bind moved fun _ => notShort_ok _

/-- What a top-up does: it pays what the account lacks if that is above the tolerance, and
    nothing otherwise. The whale is left without a debt where it was short within the
    tolerance. -/
structure ToppedUp (ledger : Ledger ℝ) (account : AccountId) (need : ℝ) (funded : Ledger ℝ) : Prop where
  paid : tolerance < max 0 (need - ledger.balance account) →
    ledger.transfer whale account (max 0 (need - ledger.balance account)) = .ok funded ∧
      funded.balance account = ledger.balance account + max 0 (need - ledger.balance account) ∧
      funded.balance whale = max (ledger.balance whale - max 0 (need - ledger.balance account)) 0 ∧
      ∀ other, other ≠ account → other ≠ whale → funded.balance other = ledger.balance other
  unpaid : max 0 (need - ledger.balance account) ≤ tolerance → funded = ledger
  covers : need ≤ funded.balance account + tolerance

theorem transfer_balance {amount : ℝ} (borrower : account ≠ whale)
    (paid : ledger.transfer whale account amount = .ok funded) :
    funded.balance account = ledger.balance account + amount ∧
      funded.balance whale = max (ledger.balance whale - amount) 0 ∧
      ∀ other, other ≠ account → other ≠ whale → funded.balance other = ledger.balance other := by
  obtain ⟨_, _, debited, rfl⟩ := transfer_ok paid
  obtain ⟨_, rfl⟩ := debit_ok debited
  refine ⟨by simp [balance, credit, addTo, borrower], by simp [balance, credit, addTo, Ne.symm borrower], ?_⟩
  intro other notAccount notWhale
  simp [balance, credit, addTo, notAccount, notWhale]

theorem toppedUp (borrower : account ≠ whale) (topped : ledger.topUp account need = .ok funded) :
    ToppedUp ledger account need funded := by
  have lacks : tolerance < max 0 (need - ledger.balance account) ↔ tolerance < need - ledger.balance account := by
    simp [not_lt.mpr tolerance_pos.le]
  rcases topUp_ok topped with lends | ⟨enough, rfl⟩
  · have whole : max 0 (need - ledger.balance account) = need - ledger.balance account :=
      max_eq_right (tolerance_pos.trans lends.short).le
    refine ⟨fun _ => ?_, fun closed => absurd (lacks.mpr lends.short) (not_lt.mpr closed), ?_⟩
    · rw [whole]
      exact ⟨lends.paid, transfer_balance borrower lends.paid⟩
    · rw [lends.balance_eq]
      exact le_add_of_nonneg_right tolerance_pos.le
  · have within : ¬ tolerance < need - funded.balance account := fun short => enough ⟨short, borrower⟩
    refine ⟨fun short => absurd (lacks.mp short) within, fun _ => rfl, ?_⟩
    linarith [not_lt.mp within]

/-- The account holds the greater of what it held and what it needs, but for a gap within
    the tolerance. -/
theorem ToppedUp.excess (topped : ToppedUp ledger account need funded) :
    max (funded.balance account - need) 0 = max 0 (ledger.balance account - need) := by
  by_cases short : tolerance < max 0 (need - ledger.balance account)
  · obtain ⟨-, held, -⟩ := topped.paid short
    have lacking : 0 < need - ledger.balance account := by
      simpa using tolerance_pos.trans short
    rw [max_eq_right lacking.le] at held
    rw [held, max_eq_left (by linarith : ledger.balance account - need ≤ 0)]
    simp
  · rw [topped.unpaid (not_lt.mp short), max_comm]

end Ledger

namespace Market

/-- How the turn of an account that was topped up to close its trove goes on. -/
structure ClosesFunded (context : Context ℝ) (market : Market ℝ) (account : AccountId) (need : ℝ)
    (funded : Ledger ℝ) : Prop where
  turn : ∀ outcome, (closeTurn context account market outcome).2.1.ledger =
    match funded.closeTrove account with
    | .ok (_, left) => left
    | .error _ => funded
  notShort : NotShort (funded.closeTrove account)
  accepted : ∀ change left, funded.closeTrove account = .ok (change, left) →
    left.balance account = max 0 (market.ledger.balance account - need)

/-- How the turn of an account that was topped up to repay goes on. -/
structure RepaysFunded (market : Market ℝ) (account : AccountId) (need : ℝ) (funded : Ledger ℝ) : Prop where
  turn : ∀ outcome, ((Rebalance.repay need).apply market.ledger account outcome).1 =
    match funded.adjustTrove account 0 (-need) with
    | .ok (_, left) => left
    | .error _ => funded
  notShort : NotShort (funded.adjustTrove account 0 (-need))

variable {context : Context ℝ} {market : Market ℝ} {account : AccountId} {trove : Trove ℝ} {need : ℝ}
  {funded : Ledger ℝ}

theorem closesFunded (borrower : account ≠ whale) (found : market.ledger.troves.get? account = some trove)
    (same : context.parameters.terms.gasCompensation = market.ledger.terms.gasCompensation)
    (needs : need = trove.debt - Number.min context.parameters.terms.gasCompensation trove.debt)
    (topped : market.ledger.topUp account need = .ok funded) : ClosesFunded context market account need funded := by
  have sufficient := toppedUp borrower topped
  obtain ⟨balances, moved⟩ := fund_ok (show market.ledger.fund account (some need) = .ok funded from topped)
  have kept : funded.troves.get? account = some trove := by rw [moved, found]
  have demand : trove.debt - Number.min funded.terms.gasCompensation trove.debt = need := by rw [moved, needs, same]
  refine ⟨fun outcome => ?_, closeTrove_notShort kept (demand.trans_le sufficient.covers), ?_⟩
  · simp only [closeTurn, found, ← needs, topped]
    cases funded.closeTrove account <;> rfl
  · intro change left accepted
    obtain ⟨closed, closing⟩ := closeTrove_ok accepted
    have one : closed = trove := Option.some.inj (closing.found.symm.trans kept)
    subst one
    rw [closing.left_eq, ← sufficient.excess, ← demand]
    simp [Ledger.balance]

theorem repaysFunded (borrower : account ≠ whale) (found : market.ledger.troves.get? account = some trove)
    (topped : market.ledger.topUp account need = .ok funded) : RepaysFunded market account need funded := by
  have sufficient := toppedUp borrower topped
  obtain ⟨balances, moved⟩ := fund_ok (show market.ledger.fund account (some need) = .ok funded from topped)
  have kept : funded.troves.get? account = some trove := by rw [moved, found]
  refine ⟨fun outcome => ?_, adjustTrove_notShort kept (by simpa using sufficient.covers)⟩
  simp only [Rebalance.apply, topped]
  cases funded.adjustTrove account 0 (-need) <;> rfl

/-- Once an account has been topped up, neither closing its trove nor repaying that much is
    refused for want of stablecoin. The top-up pays what is lacking and no more, and an
    account that has closed its trove keeps what it held above the need. -/
theorem topUp_suffices (context : Context ℝ) (market : Market ℝ) (account : AccountId) (borrower : account ≠ whale)
    (trove : Trove ℝ) (found : market.ledger.troves.get? account = some trove)
    (same : context.parameters.terms.gasCompensation = market.ledger.terms.gasCompensation) (need : ℝ)
    (funded : Ledger ℝ) (topped : market.ledger.topUp account need = .ok funded) :
    ToppedUp market.ledger account need funded ∧ RepaysFunded market account need funded ∧
      (need = trove.debt - min context.parameters.terms.gasCompensation trove.debt →
        ClosesFunded context market account need funded) := by
  refine ⟨toppedUp borrower topped, repaysFunded borrower found topped, fun needs => ?_⟩
  exact closesFunded borrower found same (by rw [needs, Number.min_real]) topped

/-- Two troves at a price that the system can bear, reached after the price had fallen. -/
noncomputable def recovered : Market ℝ :=
  ⟨(new Parameters.defaultTerms 1000.0).after (strainingCalls ++ [.setPrice 1000.0]), strainedRoster⟩

theorem recovered_ledger : recovered.ledger = strained.setPrice 1000.0 := by
  have reached := strained_reached
  simp only [recovered, after, List.foldl_append] at reached ⊢
  rw [reached]
  rfl

theorem recovered_funded : recovered.ledger.topUp 1 2010.0 = .ok (strainedFunded.setPrice 1000.0) := by
  rw [recovered_ledger]
  norm_num [topUp, transfer_eq, readings, strained, strainedFunded, new, whale, setPrice, Number.tolerance_real]

theorem recovered_closed : ∃ change left, (strainedFunded.setPrice 1000.0).closeTrove 1 = .ok (change, left) := by
  have closing : CalmClosing (strainedFunded.setPrice 1000.0) 1 ⟨30.0, 2210.0⟩ := by
    constructor <;>
      norm_num [inRecovery_iff, readings, strainedFunded, strained, new, setPrice, whale, Parameters.defaultTerms,
        Number.tolerance_real]
  obtain ⟨left, closed⟩ := closing.accepted
  exact ⟨_, left, closed⟩

/-- A borrower whom the whale lends ten for the last of its debt closes its trove and keeps
    nothing. -/
theorem recovered_suffices :
    ∃ funded change left, recovered.ledger.topUp 1 2010.0 = .ok funded ∧
      recovered.ledger.balance 1 = 2000 ∧ funded.balance 1 = 2000 + 10 ∧ funded.balance whale = 1990 ∧
      funded.closeTrove 1 = .ok (change, left) ∧ left.balance 1 = 0 ∧
      (closeTurn strainedPeriod 1 recovered {}).2.1.ledger = left := by
  have found : recovered.ledger.troves.get? 1 = some ⟨30.0, 2210.0⟩ := by
    rw [recovered_ledger]
    rfl
  have same : strainedPeriod.parameters.terms.gasCompensation = recovered.ledger.terms.gasCompensation := by
    rw [recovered_ledger]
    rfl
  have needs : (2010.0 : ℝ) = 2210.0 - min strainedPeriod.parameters.terms.gasCompensation 2210.0 := by
    norm_num [strainedPeriod, fallenPeriod, Parameters.default, Parameters.defaultTerms]
  obtain ⟨toppedUp, -, closes⟩ :=
    topUp_suffices strainedPeriod recovered 1 (by decide) _ found same _ _ recovered_funded
  have closing := closes needs
  have held : recovered.ledger.balance 1 = 2000 := by
    rw [recovered_ledger]
    norm_num [readings, strained, whale, setPrice]
  have lent : recovered.ledger.balance whale = 2000 := by
    rw [recovered_ledger]
    norm_num [readings, strained, whale, setPrice]
  obtain ⟨-, raised, lowered, -⟩ := toppedUp.paid (by norm_num [held, Number.tolerance_real])
  obtain ⟨change, left, closed⟩ := recovered_closed
  refine ⟨_, change, left, recovered_funded, held, ?_, ?_, closed, ?_, ?_⟩
  · rw [raised, held]
    norm_num
  · rw [lowered, held, lent]
    norm_num
  · rw [closing.accepted change left closed, held]
    norm_num
  · rw [closing.turn, closed]

end Market
end Stablecoin
