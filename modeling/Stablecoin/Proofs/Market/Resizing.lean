import Stablecoin.Proofs.Market.Rest
import Stablecoin.Proofs.Parameters
import Stablecoin.Proofs.Random.Sample

/-!
How the stability pool meets its target. A pool that grows takes from each holder what is
still needed, or all that it has: what is deposited and what is still needed make up what
was lacking, and as long as something is needed, nobody who was asked has anything left
(`Grown`). A pool that shrinks lets every depositor withdraw its share of the surplus, so
each keeps the same part of its deposit up to a tolerance (`Shrunk`, `Shared`). Only a
trove below the minimum ratio stands against that, and then every withdrawal is refused
(`foldl_withdrawTurn_withheld`). Together this is what a period makes of the pool
(`MeetsTarget`), in whatever order the holders are asked.
-/
namespace Stablecoin
open Ledger
open Number (tolerance tolerance_pos)
variable {ledger mid left : Ledger ℝ} {account : AccountId}

/-- The ledgers have the same troves under the same terms, at the same price, and the same
    supply. -/
structure SameDebts (ledger left : Ledger ℝ) : Prop where
  terms : left.terms = ledger.terms
  price : left.price = ledger.price
  troves : left.troves = ledger.troves
  supply : left.supply = ledger.supply

theorem SameDebts.refl (ledger : Ledger ℝ) : SameDebts ledger ledger := ⟨rfl, rfl, rfl, rfl⟩

theorem SameDebts.trans (first : SameDebts ledger mid) (second : SameDebts mid left) : SameDebts ledger left :=
  ⟨second.terms.trans first.terms, second.price.trans first.price, second.troves.trans first.troves,
    second.supply.trans first.supply⟩

theorem SameDebts.withholds_iff (same : SameDebts ledger left) : left.Withholds ↔ ledger.Withholds := by
  unfold Withholds
  rw [same.terms, same.price, same.troves]

theorem GainsApart.sameDebts (gains : GainsApart ledger left) : SameDebts ledger left := by
  obtain ⟨_, _, _, rfl⟩ := gains
  exact ⟨rfl, rfl, rfl, rfl⟩

/-- Holders have been asked for deposits. What was deposited is no longer needed, and while
    something is needed none of the holders has anything left. -/
structure Grown (state : Ledger ℝ × DepositOutcome ℝ × ℝ) (holders : List AccountId)
    (last : Ledger ℝ × DepositOutcome ℝ × ℝ) : Prop where
  debts : SameDebts state.1 last.1
  readings : last.2.1.previous = state.2.1.previous ∧ last.2.1.target = state.2.1.target
  withdrawn : last.2.1.withdrawn = state.2.1.withdrawn
  total : last.1.totalDeposits + last.2.2 = state.1.totalDeposits + state.2.2
  deposited : last.2.1.deposited + last.2.2 = state.2.1.deposited + state.2.2
  need_le : last.2.2 ≤ state.2.2
  need_nonneg : 0 ≤ state.2.2 → 0 ≤ last.2.2
  balance_le : ∀ account, last.1.balance account ≤ state.1.balance account
  deposit_le : ∀ account, state.1.deposit account ≤ last.1.deposit account
  spent : tolerance < last.2.2 → ∀ account ∈ holders, last.1.balance account ≤ tolerance

theorem Grown.refl (state : Ledger ℝ × DepositOutcome ℝ × ℝ) : Grown state [] state where
  debts := .refl state.1
  readings := ⟨rfl, rfl⟩
  withdrawn := rfl
  total := rfl
  deposited := rfl
  need_le := le_rfl
  need_nonneg := id
  balance_le _ := le_rfl
  deposit_le _ := le_rfl
  spent _ _ member := absurd member List.not_mem_nil

theorem Grown.trans {state mid last : Ledger ℝ × DepositOutcome ℝ × ℝ} {holders others : List AccountId}
    (first : Grown state holders mid) (second : Grown mid others last) : Grown state (holders ++ others) last where
  debts := first.debts.trans second.debts
  readings := ⟨second.readings.1.trans first.readings.1, second.readings.2.trans first.readings.2⟩
  withdrawn := second.withdrawn.trans first.withdrawn
  total := second.total.trans first.total
  deposited := second.deposited.trans first.deposited
  need_le := second.need_le.trans first.need_le
  need_nonneg nonneg := second.need_nonneg (first.need_nonneg nonneg)
  balance_le account := (second.balance_le account).trans (first.balance_le account)
  deposit_le account := (first.deposit_le account).trans (second.deposit_le account)
  spent needed account member := by
    rcases List.mem_append.mp member with early | late
    · exact (second.balance_le account).trans (first.spent (needed.trans_le second.need_le) account early)
    · exact second.spent needed account late

/-- One holder deposits what is needed, or all that it has. -/
theorem provideTurn_grown (state : Ledger ℝ × DepositOutcome ℝ × ℝ) (account : AccountId) :
    Grown state [account] (provideTurn state account) := by
  obtain ⟨ledger, outcome, need⟩ := state
  rw [provideTurn_eq]
  split
  · rename_i little
    refine { Grown.refl (ledger, outcome, need) with spent := fun needed other member => ?_ }
    rw [List.mem_singleton.mp member]
    exact (min_le_iff.mp little).resolve_left (not_le.mpr needed)
  · rename_i some
    have positive := tolerance_pos.trans (not_le.mp some)
    have balance (other : AccountId) := balance_afterDeposit ledger account other (min need (ledger.balance account))
    refine
      { debts := ⟨rfl, rfl, rfl, rfl⟩
        readings := ⟨rfl, rfl⟩
        withdrawn := rfl
        total := ?_
        deposited := add_add_sub_cancel _ _ _
        need_le := sub_le_self _ positive.le
        need_nonneg := fun _ => sub_nonneg.mpr (min_le_left _ _)
        balance_le := fun other => ?_
        deposit_le := fun other => ?_
        spent := fun needed other member => ?_ }
    · rw [totalDeposits_afterDeposit]
      exact add_add_sub_cancel _ _ _
    · rw [balance]
      split
      · rename_i same
        rw [same]
        exact sub_le_self _ positive.le
      · exact le_rfl
    · rw [deposit_afterDeposit]
      refine le_add_of_nonneg_right ?_
      split
      · exact positive.le
      · exact le_rfl
    · -- What is still needed is more than the holder had.
      have all : min need (ledger.balance account) = ledger.balance account := by
        refine min_eq_right ?_
        by_contra more
        rw [min_eq_left (not_le.mp more).le, sub_self] at needed
        exact lt_asymm tolerance_pos needed
      rw [balance, if_pos (List.mem_singleton.mp member), all, sub_self]
      exact tolerance_pos.le

theorem foldl_provideTurn_grown (state : Ledger ℝ × DepositOutcome ℝ × ℝ) (holders : List AccountId) :
    Grown state holders (holders.foldl provideTurn state) := by
  induction holders generalizing state with
  | nil => exact .refl state
  | cons account rest ih => exact (provideTurn_grown state account).trans (ih _)

/-- The depositors whose deposit has fallen. -/
def Ledger.drawn {α : Type} [Number α] (ledger left : Ledger α) (depositors : List AccountId) : List AccountId :=
  depositors.filter fun account => decide (left.deposit account < ledger.deposit account)

theorem GainsApart.drawn (gains : GainsApart ledger mid) (left : Ledger ℝ) : mid.drawn left = ledger.drawn left := by
  obtain ⟨_, _, _, rfl⟩ := gains
  rfl

/-- Depositors have withdrawn their share of a surplus. Each keeps the rest of its deposit,
    and each withdrawal moves its amount into a balance, up to a tolerance. -/
structure Shrunk (surplus current : ℝ) (state : Ledger ℝ × DepositOutcome ℝ) (depositors : List AccountId)
    (last : Ledger ℝ × DepositOutcome ℝ) : Prop where
  debts : SameDebts state.1 last.1
  readings : last.2.previous = state.2.previous ∧ last.2.target = state.2.target
  deposited : last.2.deposited = state.2.deposited
  others : ∀ account ∉ depositors, last.1.deposit account = state.1.deposit account
  kept : ∀ account ∈ depositors,
    |last.1.deposit account - (state.1.deposit account - surplus * (state.1.deposit account / current))| ≤ tolerance
  moved : |last.1.totalDeposits + last.2.withdrawn - (state.1.totalDeposits + state.2.withdrawn)| ≤
    tolerance * (state.1.drawn last.1 depositors).length
  tally : last.2.tally =
    { state.2.tally with accepted := state.2.tally.accepted + (state.1.drawn last.1 depositors).length }

theorem Shrunk.refl (surplus current : ℝ) (state : Ledger ℝ × DepositOutcome ℝ) :
    Shrunk surplus current state [] state where
  debts := .refl state.1
  readings := ⟨rfl, rfl⟩
  deposited := rfl
  others _ _ := rfl
  kept _ member := absurd member List.not_mem_nil
  moved := by simp [drawn]
  tally := by simp [drawn]

theorem Shrunk.trans {surplus current : ℝ} {state mid last : Ledger ℝ × DepositOutcome ℝ}
    {depositors others : List AccountId} (first : Shrunk surplus current state depositors mid)
    (second : Shrunk surplus current mid others last) (disjoint : depositors.Disjoint others) :
    Shrunk surplus current state (depositors ++ others) last := by
  have early (account : AccountId) (member : account ∈ depositors) :
      last.1.deposit account = mid.1.deposit account := second.others account (disjoint member)
  have late (account : AccountId) (member : account ∈ others) : mid.1.deposit account = state.1.deposit account :=
    first.others account fun before => disjoint before member
  have drawn_eq : state.1.drawn last.1 (depositors ++ others) =
      state.1.drawn mid.1 depositors ++ mid.1.drawn last.1 others := by
    unfold drawn
    rw [List.filter_append]
    congr 1
    · exact List.filter_congr fun account member => by rw [early account member]
    · exact List.filter_congr fun account member => by rw [late account member]
  refine
    { debts := first.debts.trans second.debts
      readings := ⟨second.readings.1.trans first.readings.1, second.readings.2.trans first.readings.2⟩
      deposited := second.deposited.trans first.deposited
      others := fun account absent => ?_
      kept := fun account member => ?_
      moved := ?_
      tally := ?_ }
  · obtain ⟨notEarly, notLate⟩ := not_or.mp (mt List.mem_append.mpr absent)
    exact (second.others account notLate).trans (first.others account notEarly)
  · rcases List.mem_append.mp member with before | after
    · rw [early account before]
      exact first.kept account before
    · rw [← late account after]
      exact second.kept account after
  · rw [drawn_eq, List.length_append, Nat.cast_add, mul_add]
    refine (abs_sub_le _ (mid.1.totalDeposits + mid.2.withdrawn) _).trans ?_
    rw [add_comm]
    exact add_le_add first.moved second.moved
  · rw [drawn_eq, List.length_append, second.tally, first.tally, Nat.add_assoc]

theorem withdrawTurn_shrunk {surplus current : ℝ} (surplus_nonneg : 0 ≤ surplus) (positive : 0 < current)
    (part : surplus ≤ current) {state : Ledger ℝ × DepositOutcome ℝ} (free : ¬ state.1.Withholds)
    (some : tolerance < state.1.deposit account) :
    Shrunk surplus current state [account] (withdrawTurn surplus current state account) := by
  obtain ⟨ledger, outcome⟩ := state
  have withdraws := withdrawTurn_withdraws surplus current ledger outcome account
  have held := tolerance_pos.trans some
  -- The share of the surplus is a part of the deposit.
  have share : surplus * (ledger.deposit account / current) ≤ ledger.deposit account := by
    rw [← mul_div_assoc, div_le_iff₀ positive, mul_comm]
    exact mul_le_mul_of_nonneg_left part held.le
  have share_nonneg : 0 ≤ surplus * (ledger.deposit account / current) :=
    mul_nonneg surplus_nonneg (div_nonneg held.le positive.le)
  generalize amount_eq : surplus * (ledger.deposit account / current) = amount at withdraws share share_nonneg
  generalize withdrawTurn surplus current (ledger, outcome) account = next at withdraws ⊢
  cases withdraws with
  | nothing little =>
    have none : ledger.drawn ledger [account] = [] := by simp [drawn]
    refine
      { debts := .refl ledger
        readings := ⟨rfl, rfl⟩
        deposited := rfl
        others := fun _ _ => rfl
        kept := fun other member => ?_
        moved := ?_
        tally := ?_ }
    · rw [List.mem_singleton.mp member, amount_eq, sub_sub_cancel, abs_of_nonneg share_nonneg]
      exact little
    · rw [sub_self, abs_zero]
      exact mul_nonneg tolerance_pos.le (Nat.cast_nonneg _)
    · rw [none, List.length_nil, Nat.add_zero]
  | refused more withheld => exact absurd (withheld.resolve_left (not_le.mpr some)) free
  | @paid withdrawn left more accepted =>
    have withdrawal := withdraw_ok accepted
    have withdrawn_eq : withdrawn = amount := by
      rw [withdrawal.withdrawn_eq, Number.min_real, min_eq_left share]
    have rest := withdrawal.deposit_near
    rw [withdrawn_eq] at rest
    have one : ledger.drawn left [account] = [account] := by simp [drawn, withdrawal.deposit_lt]
    refine
      { debts := ?_
        readings := ⟨rfl, rfl⟩
        deposited := rfl
        others := fun other absent => withdrawal.deposit_other (mt List.mem_singleton.mpr absent)
        kept := fun other member => ?_
        moved := ?_
        tally := ?_ }
    · rw [withdrawal.left_eq]
      exact ⟨rfl, rfl, rfl, rfl⟩
    · rw [List.mem_singleton.mp member, amount_eq]
      exact rest
    · rw [one, List.length_singleton, Nat.cast_one, mul_one]
      convert rest using 2
      dsimp only
      rw [withdrawal.totalDeposits_eq, withdrawn_eq]
      ring
    · rw [one, List.length_singleton]
      rfl

/-- Every depositor can withdraw, whoever comes first. -/
theorem foldl_withdrawTurn_shrunk {surplus current : ℝ} (surplus_nonneg : 0 ≤ surplus) (positive : 0 < current)
    (part : surplus ≤ current) {depositors : List AccountId} (nodup : depositors.Nodup)
    {state : Ledger ℝ × DepositOutcome ℝ} (some : ∀ account ∈ depositors, tolerance < state.1.deposit account)
    (free : ¬ state.1.Withholds) :
    Shrunk surplus current state depositors (depositors.foldl (withdrawTurn surplus current) state) := by
  induction depositors generalizing state with
  | nil => exact .refl surplus current state
  | cons account rest ih =>
    obtain ⟨fresh, nodupRest⟩ := List.nodup_cons.mp nodup
    have first := withdrawTurn_shrunk surplus_nonneg positive part free (some account List.mem_cons_self)
    have alone (other : AccountId) (member : other ∈ rest) : other ∉ [account] := fun same =>
      fresh (List.mem_singleton.mp same ▸ member)
    have others (other : AccountId) (member : other ∈ rest) :
        tolerance < (withdrawTurn surplus current state account).1.deposit other := by
      rw [first.others other (alone other member)]
      exact some other (List.mem_cons_of_mem _ member)
    have later := ih nodupRest others (mt first.debts.withholds_iff.mp free)
    exact first.trans later fun other member after => alone other after member

/-- The depositors whose part of a surplus is worth a withdrawal. -/
def Ledger.withdrawers {α : Type} [Number α] (ledger : Ledger α) (surplus current : α) (depositors : List AccountId) :
    List AccountId :=
  depositors.filter fun account => decide (tolerance < surplus * (ledger.deposit account / current))

theorem GainsApart.withdrawers (gains : GainsApart ledger mid) : mid.withdrawers = ledger.withdrawers := by
  obtain ⟨_, _, _, rfl⟩ := gains
  rfl

/-- A ledger that withholds the deposits refuses every withdrawal. -/
theorem foldl_withdrawTurn_withheld (surplus current : ℝ) (withholds : ledger.Withholds) (depositors : List AccountId)
    (outcome : DepositOutcome ℝ) :
    depositors.foldl (withdrawTurn surplus current) (ledger, outcome) =
      (ledger, { outcome with
        tally.rejected := outcome.tally.rejected + (ledger.withdrawers surplus current depositors).length }) := by
  induction depositors generalizing outcome with
  | nil => rfl
  | cons account rest ih =>
    have withdraws := withdrawTurn_withdraws surplus current ledger outcome account
    rw [List.foldl_cons]
    generalize withdrawTurn surplus current (ledger, outcome) account = next at withdraws ⊢
    cases withdraws with
    | nothing little => simp [ih, withdrawers, not_lt.mpr little]
    | refused more withheld =>
      simp only [ih, withdrawers, List.filter_cons, more, decide_true, if_true, List.length_cons, Tally.reject]
      rw [Nat.add_assoc, Nat.add_comm 1]
    | paid more accepted => exact absurd withholds (withdraw_ok accepted).not_withholds

/-- Every deposit has kept the same part of itself, up to a tolerance, and together they
    make up the target. -/
structure Shared (target : ℝ) (ledger left : Ledger ℝ) : Prop where
  total : |left.totalDeposits - target| ≤ tolerance * ledger.deposits.size
  kept : ∀ account, |left.deposit account - ledger.deposit account * (target / ledger.totalDeposits)| ≤ tolerance

/-- Whoever withdraws its part of the surplus keeps its part of the target. -/
theorem Shrunk.shared {target : ℝ} {outcome : DepositOutcome ℝ} {last : Ledger ℝ × DepositOutcome ℝ}
    (nonneg : 0 ≤ target) (deposits : ledger.deposits.Each (0 ≤ ·)) (large : target + tolerance < ledger.totalDeposits)
    (gains : GainsApart ledger mid)
    (shrunk : Shrunk (ledger.totalDeposits - target) ledger.totalDeposits (mid, outcome) ledger.depositors last) :
    Shared target ledger last.1 := by
  have positive : 0 < ledger.totalDeposits := (add_nonneg nonneg tolerance_pos.le).trans_lt large
  have part_nonneg : 0 ≤ target / ledger.totalDeposits := div_nonneg nonneg positive.le
  have part_le_one : target / ledger.totalDeposits ≤ 1 :=
    (div_le_one positive).mpr ((le_add_of_nonneg_right tolerance_pos.le).trans large.le)
  have others (account : AccountId) (absent : account ∉ ledger.depositors) :
      last.1.deposit account = ledger.deposit account :=
    (shrunk.others account absent).trans (gains.deposit account)
  have kept (account : AccountId) :
      |last.1.deposit account - ledger.deposit account * (target / ledger.totalDeposits)| ≤ tolerance := by
    by_cases member : account ∈ ledger.depositors
    · have rest := shrunk.kept account member
      dsimp only at rest
      rw [gains.deposit] at rest
      convert rest using 3
      field_simp
      ring
    · -- What is no deposit to speak of stays, and its part is less than it.
      have little := not_lt.mp (mt (ledger.mem_depositors account).mpr member)
      have held : 0 ≤ ledger.deposit account := getD_nonneg deposits account
      rw [others account member, ← mul_one_sub, abs_of_nonneg (mul_nonneg held (sub_nonneg.mpr part_le_one))]
      exact (mul_le_of_le_one_right held (sub_le_self 1 part_nonneg)).trans little
  refine ⟨?_, kept⟩
  have parts : ledger.totalDeposits * (target / ledger.totalDeposits) = target := mul_div_cancel₀ target positive.ne'
  have near := Book.abs_sumOf_sub_le kept fun account unrecorded => ?_
  · rwa [← Ledger.totalDeposits_eq, ← Ledger.totalDeposits_eq, parts] at near
  · have none : ledger.deposit account = 0 := by rw [deposit, (Book.not_has_iff _ _).mp unrecorded, Option.getD_none]
    refine (others account fun member => ?_).trans none
    exact absurd ((ledger.mem_depositors account).mp member) (not_lt.mpr (none ▸ tolerance_pos.le))

/-! ### The whole step -/

variable {context : Context ℝ} {market : Market ℝ} {poolReturn : ℝ}
open Market (depositOrder depositTarget measured quietPeriod quietPeriod_target)

/-- The whale and the active borrowers hold next to nothing. -/
def Ledger.Exhausted (ledger : Ledger ℝ) (roster : Roster ℝ) : Prop :=
  ledger.balance whale ≤ tolerance ∧ ∀ account ∈ roster.activeBorrowers, ledger.balance account ≤ tolerance

/-- What a period makes of the stability pool. It grows to the target, unless nobody has
    anything left; it shrinks to the target, unless the ledger withholds the deposits; and
    it stays as it is where it has that size already. -/
structure Market.MeetsTarget (context : Context ℝ) (market : Market ℝ) (poolReturn : ℝ) (left : Ledger ℝ)
    (outcome : DepositOutcome ℝ) : Prop where
  previous : outcome.previous = market.ledger.totalDeposits
  target : outcome.target = depositTarget context market poolReturn
  supply : left.supply = market.ledger.supply
  troves : left.troves = market.ledger.troves
  moved : |left.totalDeposits - (outcome.previous + outcome.deposited - outcome.withdrawn)| ≤
    tolerance * (market.ledger.drawn left market.ledger.depositors).length
  grows : outcome.previous + tolerance < outcome.target →
    outcome.withdrawn = 0 ∧ market.ledger.drawn left market.ledger.depositors = [] ∧
      left.totalDeposits ≤ outcome.target ∧
      (outcome.target - tolerance ≤ left.totalDeposits ∨ left.Exhausted market.roster)
  shrinks : outcome.target + tolerance < outcome.previous →
    outcome.deposited = 0 ∧
      (market.ledger.Withholds ∧ left.deposits = market.ledger.deposits ∧ outcome.withdrawn = 0 ∧
          outcome.tally = ⟨market.ledger.depositors.length,
            (market.ledger.withdrawers (outcome.previous - outcome.target) outcome.previous
              market.ledger.depositors).length⟩ ∨
        Shared outcome.target market.ledger left ∧
          outcome.tally = ⟨market.ledger.depositors.length +
            (market.ledger.drawn left market.ledger.depositors).length, 0⟩)
  rests : ¬ outcome.previous + tolerance < outcome.target → ¬ outcome.target + tolerance < outcome.previous →
    left.totalDeposits = outcome.previous

/-- Whoever holds something is asked, and the whale. -/
theorem Market.mem_depositOrder (few : market.roster.active.length < UInt32.size) (account : AccountId) :
    account ∈ depositOrder context market ↔
      account ∈ market.roster.activeBorrowers ∧ tolerance < market.ledger.balance account ∨ account = whale := by
  let holders := market.roster.activeBorrowers.filter fun account => decide (tolerance < market.ledger.balance account)
  have fewer : holders.length < UInt32.size :=
    ((List.length_filter_le _ _).trans (List.length_filter_le _ _)).trans_lt few
  have chosen := choose_perm holders fewer context.streams .stabilityDepositor context.period
  unfold depositOrder
  dsimp only
  rw [List.mem_append, chosen.mem_iff, List.mem_filter, decide_eq_true_eq, List.mem_singleton]

/-- Where the pool moves by what was deposited and withdrawn, it does so within any tolerance. -/
theorem moves_exactly {outcome : DepositOutcome ℝ}
    (moved : left.totalDeposits = outcome.previous + outcome.deposited - outcome.withdrawn) (count : Nat) :
    |left.totalDeposits - (outcome.previous + outcome.deposited - outcome.withdrawn)| ≤ tolerance * count := by
  rw [moved, sub_self, abs_zero]
  exact mul_nonneg tolerance_pos.le (Nat.cast_nonneg count)

/-- Growth takes the pool to its target, or everything there is. -/
theorem Grown.meets_target (few : market.roster.active.length < UInt32.size)
    (short : market.ledger.totalDeposits + tolerance < depositTarget context market poolReturn)
    {last : Ledger ℝ × DepositOutcome ℝ × ℝ}
    (grown : Grown (market.ledger.claims.1, measured context market poolReturn,
      depositTarget context market poolReturn - market.ledger.totalDeposits) (depositOrder context market) last) :
    Market.MeetsTarget context market poolReturn last.1 last.2.1 := by
  have small := tolerance_pos
  obtain ⟨noDeposit, noWithdrawal, _⟩ := market.ledger.claims_outcome
  have claimed := market.ledger.claims_gains
  have pool : market.ledger.claims.1.totalDeposits = market.ledger.totalDeposits := claimed.totalDeposits
  have previous : last.2.1.previous = market.ledger.totalDeposits := grown.readings.1
  have target : last.2.1.target = depositTarget context market poolReturn := grown.readings.2
  have withdrawn : last.2.1.withdrawn = 0 := grown.withdrawn.trans noWithdrawal
  have total : last.1.totalDeposits + last.2.2 = depositTarget context market poolReturn := by
    rw [grown.total, pool, add_sub_cancel]
  have deposited : last.2.1.deposited + last.2.2 =
      depositTarget context market poolReturn - market.ledger.totalDeposits := by
    rw [grown.deposited]
    exact (congrArg (· + _) noDeposit).trans (zero_add _)
  have need : 0 ≤ last.2.2 := grown.need_nonneg (by dsimp only; linarith)
  have none : market.ledger.drawn last.1 market.ledger.depositors = [] := by
    refine List.filter_eq_nil_iff.mpr fun account _ => ?_
    rw [decide_eq_true_eq, not_lt, ← claimed.deposit]
    exact grown.deposit_le account
  refine
    { previous, target
      supply := grown.debts.supply.trans claimed.sameDebts.supply
      troves := grown.debts.troves.trans claimed.sameDebts.troves
      moved := ?_
      grows := fun _ => ⟨withdrawn, none, ?_, ?_⟩
      shrinks := fun large => ?_
      rests := fun enough => ?_ }
  · exact moves_exactly (by linarith) _
  · rw [target]
    linarith
  · rw [target]
    by_cases met : last.2.2 ≤ tolerance
    · left
      linarith
    · have spent := grown.spent (not_le.mp met)
      refine .inr ⟨spent whale ((Market.mem_depositOrder few whale).mpr (.inr rfl)), fun account active => ?_⟩
      by_cases some : tolerance < market.ledger.balance account
      · exact spent account ((Market.mem_depositOrder few account).mpr (.inl ⟨active, some⟩))
      · exact (grown.balance_le account).trans (claimed.balance account ▸ not_lt.mp some)
  · rw [previous, target] at large
    linarith
  · rw [previous, target] at enough
    exact absurd short enough

theorem Shrunk.meets_target (deposits : market.ledger.deposits.Each (0 ≤ ·))
    (large : depositTarget context market poolReturn + tolerance < market.ledger.totalDeposits)
    {last : Ledger ℝ × DepositOutcome ℝ}
    (shrunk : Shrunk (market.ledger.totalDeposits - depositTarget context market poolReturn)
      market.ledger.totalDeposits (market.ledger.claims.1, measured context market poolReturn)
      market.ledger.depositors last) :
    Market.MeetsTarget context market poolReturn last.1 last.2 := by
  have small := tolerance_pos
  obtain ⟨noDeposit, noWithdrawal, tally⟩ := market.ledger.claims_outcome
  have claimed := market.ledger.claims_gains
  have previous : last.2.previous = market.ledger.totalDeposits := shrunk.readings.1
  have target : last.2.target = depositTarget context market poolReturn := shrunk.readings.2
  have deposited : last.2.deposited = 0 := shrunk.deposited.trans noDeposit
  have moved := shrunk.moved
  have accepted : last.2.tally = ⟨market.ledger.depositors.length +
      (market.ledger.claims.1.drawn last.1 market.ledger.depositors).length, 0⟩ := by
    rw [shrunk.tally]
    simp only [measured, tally]
  rw [claimed.drawn] at moved accepted
  have shared : Shared last.2.target market.ledger last.1 := by
    rw [target]
    exact shrunk.shared (Market.depositTarget_nonneg context market poolReturn) deposits large claimed
  refine
    { previous, target
      supply := shrunk.debts.supply.trans claimed.sameDebts.supply
      troves := shrunk.debts.troves.trans claimed.sameDebts.troves
      moved := ?_
      grows := fun short => ?_
      shrinks := fun _ => ⟨deposited, .inr ⟨shared, accepted⟩⟩
      rests := fun _ fits => ?_ }
  · rw [previous, deposited]
    convert moved using 2
    dsimp only [measured]
    rw [claimed.totalDeposits, noWithdrawal]
    ring
  · rw [previous, target] at short
    linarith
  · rw [previous, target] at fits
    exact absurd large fits

/-- Where the ledger withholds the deposits, none of them moves. -/
theorem Ledger.Withholds.meets_target (withholds : market.ledger.Withholds)
    (large : depositTarget context market poolReturn + tolerance < market.ledger.totalDeposits)
    {last : Ledger ℝ × DepositOutcome ℝ}
    (last_eq : last = market.ledger.depositors.foldl
      (withdrawTurn (market.ledger.totalDeposits - depositTarget context market poolReturn) market.ledger.totalDeposits)
      (market.ledger.claims.1, measured context market poolReturn)) :
    Market.MeetsTarget context market poolReturn last.1 last.2 := by
  have small := tolerance_pos
  obtain ⟨noDeposit, noWithdrawal, tally⟩ := market.ledger.claims_outcome
  have claimed := market.ledger.claims_gains
  rw [foldl_withdrawTurn_withheld _ _ (claimed.sameDebts.withholds_iff.mpr withholds), claimed.withdrawers] at last_eq
  subst last_eq
  refine
    { previous := rfl
      target := rfl
      supply := claimed.sameDebts.supply
      troves := claimed.sameDebts.troves
      moved := ?_
      grows := fun short => ?_
      shrinks := fun _ => ⟨noDeposit, .inl ⟨withholds, claimed.deposits, noWithdrawal, ?_⟩⟩
      rests := fun _ fits => absurd large fits }
  · refine moves_exactly ?_ _
    dsimp only [measured]
    rw [noDeposit, noWithdrawal, claimed.totalDeposits, add_zero, sub_zero]
  · dsimp only [measured] at short
    linarith
  · simp only [measured, tally, Nat.zero_add]

/-- A pool that has the size of its target stays as it is. -/
theorem Market.meets_target_of_rest
    (enough : ¬ market.ledger.totalDeposits + tolerance < depositTarget context market poolReturn)
    (fits : ¬ depositTarget context market poolReturn + tolerance < market.ledger.totalDeposits) :
    Market.MeetsTarget context market poolReturn market.ledger.claims.1 (measured context market poolReturn) := by
  obtain ⟨noDeposit, noWithdrawal, _⟩ := market.ledger.claims_outcome
  have claimed := market.ledger.claims_gains
  refine
    { previous := rfl
      target := rfl
      supply := claimed.sameDebts.supply
      troves := claimed.sameDebts.troves
      moved := ?_
      grows := fun short => absurd short enough
      shrinks := fun large => absurd large fits
      rests := fun _ _ => claimed.totalDeposits }
  refine moves_exactly ?_ _
  dsimp only [measured]
  rw [noDeposit, noWithdrawal, claimed.totalDeposits, add_zero, sub_zero]

/-- After any calls a period takes the stability pool to its target, as far as the holders
    have the means and the troves let the depositors go. The accounts of a roster are
    numbered with words of 32 bits, so that the order of the holders can be drawn. -/
theorem Market.updateDeposits_meets_target {p : Parameters ℝ} (valid : p.Valid) (price : ℝ) (calls : List (Call ℝ))
    {roster : Roster ℝ} (division : roster.Division) (sized : roster.size < UInt32.size) (context : Context ℝ)
    (poolReturn : ℝ) :
    let market : Market ℝ := ⟨(new p.terms price).after calls, roster⟩
    let left := updateDeposits context market poolReturn
    MeetsTarget context market poolReturn left.1 left.2 := by
  intro market left
  have small := tolerance_pos
  have funded : market.ledger.Funded := after_funded (not_le.mp valid.mcr) price calls
  have few : market.roster.active.length < UInt32.size := (division.length ▸ Nat.le_add_right _ _).trans_lt sized
  have resizes := updateDeposits_resizes context market poolReturn
  change Resizes _ _ _ left at resizes
  generalize left = left at resizes ⊢
  cases resizes with
  | @grows last short last_eq =>
    have grown := foldl_provideTurn_grown (market.ledger.claims.1, measured context market poolReturn,
      depositTarget context market poolReturn - market.ledger.totalDeposits) (depositOrder context market)
    rw [← last_eq] at grown
    exact grown.meets_target few short
  | @shrinks last large last_eq =>
    by_cases withholds : market.ledger.Withholds
    · exact withholds.meets_target large last_eq
    · have claimed := market.ledger.claims_gains
      have nonneg := depositTarget_nonneg context market poolReturn
      have surplus : 0 ≤ market.ledger.totalDeposits - depositTarget context market poolReturn := by linarith
      have some : ∀ account ∈ market.ledger.depositors, tolerance < market.ledger.claims.1.deposit account := by
        intro account member
        rw [claimed.deposit]
        exact (market.ledger.mem_depositors account).mp member
      have shrunk := @foldl_withdrawTurn_shrunk _ _ surplus (by linarith) (sub_le_self _ nonneg) _
        market.ledger.nodup_depositors (market.ledger.claims.1, measured context market poolReturn) some
        (mt claimed.sameDebts.withholds_iff.mp withholds)
      rw [← last_eq] at shrunk
      exact shrunk.meets_target funded.deposits large
  | rests enough fits => exact meets_target_of_rest enough fits

theorem lone_fills_pool :
    let market : Market ℝ := ⟨(new Parameters.quiet.terms 1000.0).after [.openTrove 7 10.0 2000.0], couple⟩
    let left := updateDeposits quietPeriod market 1.0
    (Parameters.quiet : Parameters ℝ).Valid ∧ couple.Division ∧ couple.size < UInt32.size ∧ left.2.previous = 0 ∧
      left.2.target = 1800 ∧ left.2.withdrawn = 0 ∧ left.1.totalDeposits ≤ 1800 ∧
      (1800 - tolerance ≤ left.1.totalDeposits ∨ left.1.Exhausted couple) := by
  intro market left
  have sized : couple.size < UInt32.size := by
    rw [couple, coupleAiming, Roster.size_activate, Roster.size_activate, Roster.size_ofSize]
    decide
  have meets := Market.updateDeposits_meets_target quiet_valid 1000.0 [.openTrove 7 10.0 2000.0] couple_division sized
    quietPeriod 1.0
  have opened : market.ledger = lone := congrArg Prod.snd lone_opened
  have empty : market.ledger.totalDeposits = 0 := by
    rw [opened]
    norm_num [lone, totalDeposits, new, Book.values, Book.empty]
  have target : left.2.target = 1800 := meets.target.trans (quietPeriod_target (empty.le.trans tolerance_pos.le))
  have previous : left.2.previous = 0 := meets.previous.trans empty
  have short : left.2.previous + tolerance < left.2.target := by
    rw [previous, target]
    norm_num [Number.tolerance_real]
  obtain ⟨withdrawn, _, bounded, met⟩ := meets.grows short
  change left.1.totalDeposits ≤ left.2.target at bounded
  change left.2.target - tolerance ≤ left.1.totalDeposits ∨ left.1.Exhausted couple at met
  rw [target] at bounded met
  exact ⟨quiet_valid, couple_division, sized, previous, target, withdrawn, bounded, met⟩

end Stablecoin
