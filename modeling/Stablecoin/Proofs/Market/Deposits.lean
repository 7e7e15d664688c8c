import Stablecoin.Proofs.Ledger.Gains
import Stablecoin.Market.Deposits

namespace Stablecoin
open Number (tolerance tolerance_pos)
variable {ledger left : Ledger ℝ} {account : AccountId} {amount withdrawn : ℝ}

namespace Ledger

theorem mem_depositors (ledger : Ledger ℝ) (account : AccountId) :
    account ∈ ledger.depositors ↔ tolerance < ledger.deposit account := by
  simp only [depositors, List.mem_map, List.mem_filter, decide_eq_true_eq, Prod.exists, exists_and_right,
    exists_eq_right, ← Book.get?_eq_some_iff, deposit]
  constructor
  · rintro ⟨value, found, some⟩
    rwa [found]
  · intro some
    cases found : ledger.deposits.get? account with
    | none =>
      rw [found] at some
      exact absurd some (not_lt.mpr tolerance_pos.le)
    | some value =>
      rw [found] at some
      exact ⟨value, rfl, some⟩

theorem nodup_depositors (ledger : Ledger ℝ) : ledger.depositors.Nodup :=
  ledger.deposits.nodup_accounts.sublist (List.filter_sublist.map _)

/-- Two or more troves are open, and one of them is below the minimum ratio. -/
def Withholds (ledger : Ledger ℝ) : Prop :=
  1 < ledger.troves.size ∧
    ∃ account trove, ledger.troves.get? account = some trove ∧ (trove.icr ledger.price).Below (.of ledger.terms.mcr)

theorem withholds_iff (ledger : Ledger ℝ) : ledger.Withholds ↔ 1 < ledger.troves.size ∧
    ledger.troves.values.any (fun trove => (trove.icr ledger.price).Below (.of ledger.terms.mcr)) = true := by
  simp only [Withholds, List.any_eq_true, decide_eq_true_eq, Book.mem_values]
  refine and_congr_right fun _ => ⟨?_, ?_⟩
  · rintro ⟨account, trove, found, below⟩
    exact ⟨trove, ⟨account, found⟩, below⟩
  · rintro ⟨trove, ⟨account, found⟩, below⟩
    exact ⟨account, trove, found, below⟩

theorem Withdrawal.not_withholds (withdrawal : Withdrawal ledger account amount withdrawn left) :
    ¬ ledger.Withholds :=
  (withholds_iff ledger).not.mpr withdrawal.nonePending

/-- A withdrawal is refused without a deposit, or while the ledger withholds deposits. -/
theorem withdraw_refused {refusal : Refusal ℝ} (positive : 0 < amount)
    (refused : ledger.withdraw account amount = .error refusal) :
    ledger.deposit account ≤ tolerance ∨ ledger.Withholds := by
  by_contra accepted
  obtain ⟨some, free⟩ := not_or.mp accepted
  rw [withholds_iff] at free
  unfold withdraw at refused
  simp only [not_le.mpr positive, Number.isFinite_real, reduceCtorEq, or_self, if_false, if_neg some, if_neg free]
    at refused
  cases refused

theorem deposit_afterDeposit (ledger : Ledger ℝ) (account other : AccountId) (amount : ℝ) :
    (ledger.afterDeposit account amount).deposit other =
      ledger.deposit other + if other = account then amount else 0 :=
  getD_addTo ledger.deposits account other amount

theorem balance_afterDeposit (ledger : Ledger ℝ) (account other : AccountId) (amount : ℝ) :
    (ledger.afterDeposit account amount).balance other =
      if other = account then ledger.balance account - amount else ledger.balance other := by
  by_cases same : other = account <;> simp [balance, afterDeposit, same]

theorem totalDeposits_afterDeposit (ledger : Ledger ℝ) (account : AccountId) (amount : ℝ) :
    (ledger.afterDeposit account amount).totalDeposits = ledger.totalDeposits + amount := by
  rw [totalDeposits_eq, totalDeposits_eq]
  exact sumOf_addTo ledger.deposits account amount

theorem afterDeposit_pays (ledger : Ledger ℝ) (account : AccountId) (amount : ℝ) :
    Pays ledger account (ledger.afterDeposit account amount) :=
  { payOutGains_pays ledger account with }

/-- What a withdrawal leaves of the deposit; next to nothing is struck. -/
theorem Withdrawal.deposit_self (withdrawal : Withdrawal ledger account amount withdrawn left) :
    left.deposit account =
      if ledger.deposit account - withdrawn ≤ tolerance then 0 else ledger.deposit account - withdrawn := by
  rw [withdrawal.left_eq]
  unfold deposit
  dsimp only
  split <;> simp

theorem Withdrawal.deposit_other (withdrawal : Withdrawal ledger account amount withdrawn left)
    {other : AccountId} (different : other ≠ account) : left.deposit other = ledger.deposit other := by
  rw [withdrawal.left_eq]
  unfold deposit
  dsimp only
  split <;> simp [different]

theorem Withdrawal.withdrawn_pos (withdrawal : Withdrawal ledger account amount withdrawn left) :
    0 < withdrawn := by
  rw [withdrawal.withdrawn_eq, Number.min_real]
  exact lt_min (not_le.mp (not_or.mp withdrawal.proper).1) (tolerance_pos.trans (not_le.mp withdrawal.deposited))

theorem Withdrawal.withdrawn_le (withdrawal : Withdrawal ledger account amount withdrawn left) :
    withdrawn ≤ ledger.deposit account := by
  rw [withdrawal.withdrawn_eq, Number.min_real]
  exact min_le_right _ _

theorem Withdrawal.deposit_lt (withdrawal : Withdrawal ledger account amount withdrawn left) :
    left.deposit account < ledger.deposit account := by
  rw [withdrawal.deposit_self]
  split
  · exact tolerance_pos.trans (not_le.mp withdrawal.deposited)
  · exact sub_lt_self _ withdrawal.withdrawn_pos

/-- What is struck is less than the tolerance. -/
theorem Withdrawal.deposit_near (withdrawal : Withdrawal ledger account amount withdrawn left) :
    |left.deposit account - (ledger.deposit account - withdrawn)| ≤ tolerance := by
  rw [withdrawal.deposit_self]
  split
  · rename_i struck
    rw [zero_sub, abs_neg, abs_of_nonneg (sub_nonneg.mpr withdrawal.withdrawn_le)]
    exact struck
  · rw [sub_self, abs_zero]
    exact tolerance_pos.le

/-- A withdrawal takes from the pool what the deposit falls by. -/
theorem Withdrawal.totalDeposits_eq (withdrawal : Withdrawal ledger account amount withdrawn left) :
    left.totalDeposits = ledger.totalDeposits - ledger.deposit account + left.deposit account := by
  rw [withdrawal.deposit_self, Ledger.totalDeposits_eq, Ledger.totalDeposits_eq, withdrawal.left_eq]
  dsimp only
  split
  · rw [Book.sumOf_erase, Option.map_id]
    exact (add_zero _).symm
  · rw [Book.sumOf_insert, Option.map_id]
    simp only [id_eq, deposit]
    ring

theorem Withdrawal.pays (withdrawal : Withdrawal ledger account amount withdrawn left) :
    Pays ledger account left := by
  rw [withdrawal.left_eq]
  exact { payOutGains_pays ledger account with }

end Ledger
open Ledger

/-- The ledgers differ in nothing but the gains of depositors. -/
def GainsApart (ledger left : Ledger ℝ) : Prop :=
  ∃ collateralGains rewardGains poolCollateral,
    left = { ledger with collateralGains, rewardGains, poolCollateral }

theorem GainsApart.refl (ledger : Ledger ℝ) : GainsApart ledger ledger := ⟨_, _, _, rfl⟩

theorem GainsApart.trans {ledger mid left : Ledger ℝ} (first : GainsApart ledger mid) (second : GainsApart mid left) :
    GainsApart ledger left := by
  obtain ⟨_, _, _, rfl⟩ := first
  obtain ⟨_, _, _, rfl⟩ := second
  exact ⟨_, _, _, rfl⟩

theorem GainsApart.deposits (gains : GainsApart ledger left) : left.deposits = ledger.deposits := by
  obtain ⟨_, _, _, rfl⟩ := gains
  rfl

theorem GainsApart.depositors (gains : GainsApart ledger left) : left.depositors = ledger.depositors := by
  obtain ⟨_, _, _, rfl⟩ := gains
  rfl

theorem GainsApart.totalDeposits (gains : GainsApart ledger left) : left.totalDeposits = ledger.totalDeposits := by
  obtain ⟨_, _, _, rfl⟩ := gains
  rfl

theorem GainsApart.deposit (gains : GainsApart ledger left) (account : AccountId) :
    left.deposit account = ledger.deposit account := by
  obtain ⟨_, _, _, rfl⟩ := gains
  rfl

theorem GainsApart.balance (gains : GainsApart ledger left) (account : AccountId) :
    left.balance account = ledger.balance account := by
  obtain ⟨_, _, _, rfl⟩ := gains
  rfl

/-- A depositor is paid what it is owed. -/
theorem claimTurn_of_depositor (some : tolerance < ledger.deposit account) (outcome : DepositOutcome ℝ) :
    claimTurn (ledger, outcome) account =
      ((ledger.payOutGains account).2,
        { outcome with
          collateralClaimed := outcome.collateralClaimed + (ledger.owed account).collateral
          rewardClaimed := outcome.rewardClaimed + (ledger.owed account).reward
          tally := outcome.tally.accept }) := by
  have owed : ledger.claim account = .ok (ledger.payOutGains account) :=
    if_neg fun none => not_le.mpr some none.1
  simp only [claimTurn, owed]
  rfl

/-- A holder deposits what is needed or all that it has, unless that is next to nothing. -/
theorem provideTurn_eq (ledger : Ledger ℝ) (outcome : DepositOutcome ℝ) (need : ℝ) (account : AccountId) :
    provideTurn (ledger, outcome, need) account =
      if min need (ledger.balance account) ≤ tolerance then (ledger, outcome, need)
      else
        (ledger.afterDeposit account (min need (ledger.balance account)),
          { outcome with
            deposited := outcome.deposited + min need (ledger.balance account)
            tally := outcome.tally.accept },
          need - min need (ledger.balance account)) := by
  unfold provideTurn
  simp only [Number.min_real]
  by_cases little : min need (ledger.balance account) ≤ tolerance
  · simp only [if_pos little, ite_self]
  · have some := not_le.mp little
    have wanted : ¬ need ≤ tolerance := not_le.mpr (some.trans_le (min_le_left _ _))
    simp only [if_neg little, if_neg wanted, provide_eq (tolerance_pos.trans some) (min_le_right _ _)]

/-- The withdrawal of a depositor from a ledger: next to nothing, refused or paid. -/
inductive Withdraws (account : AccountId) (amount : ℝ) (ledger : Ledger ℝ) (outcome : DepositOutcome ℝ) :
    Ledger ℝ × DepositOutcome ℝ → Prop
  | nothing (little : amount ≤ tolerance) : Withdraws account amount ledger outcome (ledger, outcome)
  | refused (some : tolerance < amount) (withheld : ledger.deposit account ≤ tolerance ∨ ledger.Withholds) :
      Withdraws account amount ledger outcome (ledger, { outcome with tally := outcome.tally.reject })
  | paid {withdrawn : ℝ} {left : Ledger ℝ} (some : tolerance < amount)
      (accepted : ledger.withdraw account amount = .ok (withdrawn, left)) :
      Withdraws account amount ledger outcome
        (left, { outcome with withdrawn := outcome.withdrawn + withdrawn, tally := outcome.tally.accept })

theorem withdrawTurn_withdraws (surplus current : ℝ) (ledger : Ledger ℝ) (outcome : DepositOutcome ℝ)
    (account : AccountId) :
    Withdraws account (surplus * (ledger.deposit account / current)) ledger outcome
      (withdrawTurn surplus current (ledger, outcome) account) := by
  unfold withdrawTurn
  dsimp only
  split
  · rename_i little
    exact .nothing little
  · rename_i some
    have positive := tolerance_pos.trans (not_le.mp some)
    split
    · rename_i refused
      exact .refused (not_le.mp some) (withdraw_refused positive refused)
    · rename_i accepted
      exact .paid (not_le.mp some) accepted

theorem claimTurn_gains (state : Ledger ℝ × DepositOutcome ℝ) (account : AccountId) :
    GainsApart state.1 (claimTurn state account).1 := by
  unfold claimTurn
  dsimp only
  split
  · exact .refl _
  · rename_i claimed
    obtain ⟨_, paidOut⟩ := claim_ok claimed
    cases paidOut
    exact ⟨_, _, _, rfl⟩

theorem foldl_claimTurn_gains (accounts : List AccountId) (state : Ledger ℝ × DepositOutcome ℝ) :
    GainsApart state.1 (accounts.foldl claimTurn state).1 := by
  induction accounts generalizing state with
  | nil => exact .refl _
  | cons account rest ih => exact (claimTurn_gains state account).trans (ih _)

theorem foldl_claimTurn_outcome {accounts : List AccountId}
    (depositors : ∀ account ∈ accounts, tolerance < ledger.deposit account) (outcome : DepositOutcome ℝ) :
    let last := (accounts.foldl claimTurn (ledger, outcome)).2
    last.deposited = outcome.deposited ∧ last.withdrawn = outcome.withdrawn ∧
      last.tally = { outcome.tally with accepted := outcome.tally.accepted + accounts.length } := by
  induction accounts generalizing ledger outcome with
  | nil => exact ⟨rfl, rfl, rfl⟩
  | cons account rest ih =>
    rw [List.foldl_cons, claimTurn_of_depositor (depositors account List.mem_cons_self)]
    obtain ⟨deposited, withdrawn, tally⟩ := @ih (ledger.payOutGains account).2
      (fun other member => depositors other (List.mem_cons_of_mem _ member)) _
    refine ⟨deposited, withdrawn, tally.trans ?_⟩
    simp only [Tally.accept, List.length_cons, Nat.add_assoc, Nat.add_comm 1]

/-! ### The whole step -/

/-- The claims of all depositors, which come before the pool is resized. -/
noncomputable def Ledger.claims (ledger : Ledger ℝ) : Ledger ℝ × DepositOutcome ℝ :=
  ledger.depositors.foldl claimTurn (ledger, ⟨0, 0, 0, 0, 0, 0, {}⟩)

theorem Ledger.claims_gains (ledger : Ledger ℝ) : GainsApart ledger ledger.claims.1 :=
  foldl_claimTurn_gains ledger.depositors _

/-- The claims are all accepted, and move no deposit. -/
theorem Ledger.claims_outcome (ledger : Ledger ℝ) :
    ledger.claims.2.deposited = 0 ∧ ledger.claims.2.withdrawn = 0 ∧
      ledger.claims.2.tally = ⟨ledger.depositors.length, 0⟩ := by
  have outcome := foldl_claimTurn_outcome (fun account member => (ledger.mem_depositors account).mp member)
    ⟨0, 0, 0, 0, 0, 0, {}⟩
  simpa [claims] using outcome

namespace Market
variable {context : Context ℝ} {market : Market ℝ} {poolReturn : ℝ}

/-- The accounts that are asked for deposits, in this order. -/
noncomputable def depositOrder (context : Context ℝ) (market : Market ℝ) : List AccountId :=
  let holders := market.roster.activeBorrowers.filter fun account => decide (tolerance < market.ledger.balance account)
  choose holders holders.length context.streams .stabilityDepositor context.period ++ [whale]

/-- The size that the pool is drawn to in the period. -/
noncomputable def depositTarget (context : Context ℝ) (market : Market ℝ) (poolReturn : ℝ) : ℝ :=
  poolTarget context market.ledger.totalDeposits poolReturn

theorem depositTarget_nonneg (context : Context ℝ) (market : Market ℝ) (poolReturn : ℝ) :
    0 ≤ depositTarget context market poolReturn := by
  unfold depositTarget poolTarget
  rw [Number.max_real]
  exact le_max_right _ _

/-- What the outcome says once all have claimed and the target is known. -/
noncomputable def measured (context : Context ℝ) (market : Market ℝ) (poolReturn : ℝ) : DepositOutcome ℝ :=
  { market.ledger.claims.2 with
    previous := market.ledger.totalDeposits
    target := depositTarget context market poolReturn }

/-- The pool grows to its target, shrinks to it, or stays as it is. -/
inductive Resizes (context : Context ℝ) (market : Market ℝ) (poolReturn : ℝ) : Ledger ℝ × DepositOutcome ℝ → Prop
  | grows {last : Ledger ℝ × DepositOutcome ℝ × ℝ}
      (short : market.ledger.totalDeposits + tolerance < depositTarget context market poolReturn)
      (last_eq : last = (depositOrder context market).foldl provideTurn
        (market.ledger.claims.1, measured context market poolReturn,
          depositTarget context market poolReturn - market.ledger.totalDeposits)) :
      Resizes context market poolReturn (last.1, last.2.1)
  | shrinks {last : Ledger ℝ × DepositOutcome ℝ}
      (large : depositTarget context market poolReturn + tolerance < market.ledger.totalDeposits)
      (last_eq : last = market.ledger.depositors.foldl
        (withdrawTurn (market.ledger.totalDeposits - depositTarget context market poolReturn)
          market.ledger.totalDeposits)
        (market.ledger.claims.1, measured context market poolReturn)) :
      Resizes context market poolReturn last
  | rests
      (enough : ¬ market.ledger.totalDeposits + tolerance < depositTarget context market poolReturn)
      (fits : ¬ depositTarget context market poolReturn + tolerance < market.ledger.totalDeposits) :
      Resizes context market poolReturn (market.ledger.claims.1, measured context market poolReturn)

theorem updateDeposits_resizes (context : Context ℝ) (market : Market ℝ) (poolReturn : ℝ) :
    Resizes context market poolReturn (updateDeposits context market poolReturn) := by
  have claimed := market.ledger.claims_gains
  unfold updateDeposits
  dsimp only
  rw [← Ledger.claims]
  simp only [claimed.totalDeposits, claimed.depositors, claimed.balance]
  rw [← depositTarget, ← measured]
  split
  · rename_i short
    exact .grows short rfl
  · rename_i enough
    split
    · rename_i large
      exact .shrinks large rfl
    · rename_i fits
      exact .rests enough fits

end Market
end Stablecoin
