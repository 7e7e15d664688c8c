import Stablecoin.Proofs.Ledger.Backing
import Stablecoin.Proofs.Ledger.Pledges

/-!
The gains of the stability pool. A depositor is owed the collateral of the troves that its
deposit has absorbed, and a share of the reward tokens (`owed`). An accepted call by a
depositor pays it everything it is owed (`Pays`); every other call takes a gain from
nobody, also where the deposits have been used up (`Gathers`). So the pool holds the
collateral that it owes, and what was issued of rewards is owed or has been paid out
(`gains_conserved`).

A payment never finds less collateral in the pool than it pays, for no deposit and no gain
is below zero (`Funded`). All that this asks of the terms is a minimum ratio above one; with
secure terms the ledger is also secured (`Solvent`).
-/
namespace Stablecoin
open Number (tolerance tolerance_pos)

section AnyNumbers
variable {α : Type} [Number α]

/-- What the stability pool owes the account. -/
def Ledger.owed (ledger : Ledger α) (account : AccountId) : Gains α where
  collateral := (ledger.collateralGains.get? account).getD 0
  reward := (ledger.rewardGains.get? account).getD 0

/-- The account that is paid its gains if the call is accepted. -/
def Call.collector? : Call α → Option AccountId
  | .provide account _ => some account
  | .withdraw account _ => some account
  | .claim account => some account
  | _ => none

namespace Ledger

/-- The call is accepted and pays the account its gains. -/
def Collects (ledger : Ledger α) (call : Call α) (account : AccountId) : Prop :=
  call.collector? = some account ∧ ∃ answer, (ledger.perform call).1 = .ok answer

/-- The reward tokens that the call pays out. -/
def rewardPaid (ledger : Ledger α) (call : Call α) : α :=
  match call.collector?, (ledger.perform call).1 with
  | some account, .ok _ => (ledger.payOutGains account).1.reward
  | _, _ => 0

/-- The reward tokens that the call issues. -/
def rewardIssued (ledger : Ledger α) : Call α → α
  | .issueRewards amount => (ledger.issueRewards amount).1
  | _ => 0

/-- The sum of what is read of each call and of the ledger that it is made on. -/
def sumAlong (reading : Ledger α → Call α → α) (ledger : Ledger α) : List (Call α) → α
  | [] => 0
  | call :: calls => reading ledger call + (ledger.perform call).2.sumAlong reading calls

/-- The books of the stability pool. -/
def poolBooks (ledger : Ledger α) : Book α × Book α × Book α × α :=
  (ledger.deposits, ledger.collateralGains, ledger.rewardGains, ledger.poolCollateral)

variable {ledger left : Ledger α}

theorem Walk.step_poolBooks {walk next : Walk α} (step : Walk.Step walk next) :
    next.ledger.poolBooks = walk.ledger.poolBooks := by
  cases step with
  | take wanted found eligible noDust =>
    unfold Walk.take
    dsimp only
    split <;> rfl

theorem Walked.poolBooks {redeemer : AccountId} {amount : α} {walk : Walk α}
    (walked : Walked ledger redeemer amount walk) : walk.ledger.poolBooks = ledger.poolBooks :=
  walked.keeps (motive := fun walk => walk.ledger.poolBooks = ledger.poolBooks) rfl
    fun _ _ same step => (Walk.step_poolBooks step).trans same

theorem redeems_poolBooks {redeemer : AccountId} {amount : α} {result : Except (Refusal α) (Redemption α)}
    (redeems : Redeems ledger redeemer amount result left) : left.poolBooks = ledger.poolBooks := by
  cases redeems with
  | refused refusal => rfl
  | nothing walked dust => exact walked.poolBooks
  | short walked something uncovered => exact walked.poolBooks
  | accepted walked something debited baseRate_eq fee_eq =>
    obtain ⟨_, rfl⟩ := debit_ok debited
    exact walked.poolBooks

end Ledger

end AnyNumbers

namespace Ledger
variable {terms : Terms ℝ} {ledger mid left : Ledger ℝ} {account : AccountId} {call : Call ℝ}

theorem getD_addTo (book : Book ℝ) (account other : AccountId) (amount : ℝ) :
    ((addTo book account amount).get? other).getD 0 =
      (book.get? other).getD 0 + if other = account then amount else 0 := by
  by_cases same : other = account <;> simp [addTo, same]

theorem sumOf_foldl_addTo (gain : AccountId × ℝ → ℝ) (entries : List (AccountId × ℝ)) (book : Book ℝ) :
    (entries.foldl (fun gains entry => addTo gains entry.1 (gain entry)) book).sumOf id =
      book.sumOf id + (entries.map gain).sum := by
  induction entries generalizing book with
  | nil => simp
  | cons entry rest ih =>
    rw [List.foldl_cons, ih, sumOf_addTo, List.map_cons, List.sum_cons, add_assoc]

/-- Every account gets the gain of its own entry. -/
theorem getD_foldl_addTo (gain : AccountId × ℝ → ℝ) {entries : List (AccountId × ℝ)}
    (ascending : entries.Pairwise (fun a b => a.1 < b.1)) (book : Book ℝ) (account : AccountId) :
    ((entries.foldl (fun gains entry => addTo gains entry.1 (gain entry)) book).get? account).getD 0 =
      (book.get? account).getD 0 + ((entries.lookup account).map fun value => gain (account, value)).getD 0 := by
  induction entries generalizing book with
  | nil => simp
  | cons entry rest ih =>
    obtain ⟨above, tail⟩ := List.pairwise_cons.mp ascending
    rw [List.foldl_cons, ih tail, getD_addTo, Book.lookup_entry]
    by_cases here : account = entry.1
    · have absent : rest.lookup account = none := by
        rw [List.lookup_eq_none_iff]
        intro other member
        simpa [here] using Nat.ne_of_lt (above other member)
      subst here
      simp only [absent, ↓reduceIte, Option.map_none, Option.map_some, Option.getD_none, Option.getD_some, add_zero]
    · simp only [here, ↓reduceIte, add_zero]

/-- Shares in proportion to the deposits make up the whole. -/
theorem sum_shares {deposits : Book ℝ} (some : deposits.sumOf id ≠ 0) (amount : ℝ) :
    (deposits.entries.map fun entry => amount * (entry.2 / deposits.sumOf id)).sum = amount := by
  have total : (deposits.entries.map fun entry => entry.2).sum = deposits.sumOf id := by
    rw [Book.sumOf_entries]
    rfl
  have factor (entry : AccountId × ℝ) : amount * (entry.2 / deposits.sumOf id) =
      entry.2 * (amount / deposits.sumOf id) := by ring
  simp only [factor]
  rw [List.sum_map_mul_right, total, mul_div_cancel₀ amount some]

/-- So much reward is handed out, and nobody is owed less than before. What the pool holds
    of collateral beyond what it owes stays the same. -/
structure Gathers (ledger : Ledger ℝ) (reward : ℝ) (left : Ledger ℝ) : Prop where
  held : left.poolCollateral - left.collateralGains.sumOf id =
    ledger.poolCollateral - ledger.collateralGains.sumOf id
  rewards : left.rewardGains.sumOf id = ledger.rewardGains.sumOf id + reward
  collateral_le : ∀ account, (ledger.owed account).collateral ≤ (left.owed account).collateral
  reward_le : ∀ account, (ledger.owed account).reward ≤ (left.owed account).reward

theorem Gathers.of_books (same : left.poolBooks = ledger.poolBooks) : Gathers ledger 0 left := by
  simp only [poolBooks, Prod.mk.injEq] at same
  obtain ⟨_, collateralGains, rewardGains, poolCollateral⟩ := same
  constructor
  · rw [collateralGains, poolCollateral]
  · rw [rewardGains, add_zero]
  · intro account
    rw [owed, owed, collateralGains]
  · intro account
    rw [owed, owed, rewardGains]

theorem Gathers.trans {first second : ℝ} (one : Gathers ledger first mid) (other : Gathers mid second left) :
    Gathers ledger (first + second) left where
  held := other.held.trans one.held
  rewards := by rw [other.rewards, one.rewards, add_assoc]
  collateral_le account := (one.collateral_le account).trans (other.collateral_le account)
  reward_le account := (one.reward_le account).trans (other.reward_le account)

/-- Gains that are added up over the deposits take from nobody. -/
theorem getD_le_foldl_addTo {deposits : Book ℝ} {gain : AccountId × ℝ → ℝ}
    (nonneg : ∀ entry ∈ deposits.entries, 0 ≤ gain entry) (book : Book ℝ) (account : AccountId) :
    (book.get? account).getD 0 ≤
      ((deposits.entries.foldl (fun gains entry => addTo gains entry.1 (gain entry)) book).get? account).getD 0 := by
  rw [getD_foldl_addTo gain deposits.ascending]
  refine le_add_of_nonneg_right ?_
  cases found : deposits.entries.lookup account with
  | none => exact le_rfl
  | some value => exact nonneg (account, value) (Book.mem_of_lookup found)

/-- A share of an amount in proportion to the deposits. -/
theorem deposit_share_nonneg (deposits : ledger.deposits.Each (0 ≤ ·)) {amount : ℝ} (nonneg : 0 ≤ amount)
    {entry : AccountId × ℝ} (member : entry ∈ ledger.deposits.entries) :
    0 ≤ amount * (entry.2 / ledger.totalDeposits) := by
  rw [totalDeposits_eq]
  exact mul_nonneg nonneg (div_nonneg (deposits.of_mem member) (Book.sumOf_nonneg deposits))

theorem sum_deposit_shares (some : tolerance < ledger.totalDeposits) (amount : ℝ) :
    (ledger.deposits.entries.map fun entry => amount * (entry.2 / ledger.totalDeposits)).sum = amount := by
  rw [totalDeposits_eq] at some ⊢
  exact sum_shares (tolerance_pos.trans some).ne' amount

theorem offset_gathers (deposits : ledger.deposits.Each (0 ≤ ·)) (debt : ℝ) {collateral : ℝ}
    (nonneg : 0 ≤ collateral) : Gathers ledger 0 (ledger.offset debt collateral) := by
  rcases le_or_gt ledger.totalDeposits tolerance with none | some
  · rw [offset_of_none none]
    exact .of_books rfl
  · simp only [offset, if_neg (not_le.mpr some)]
    constructor
    · dsimp only
      rw [sumOf_foldl_addTo, sum_deposit_shares some]
      ring
    · exact (add_zero _).symm
    · exact getD_le_foldl_addTo (fun _ member => deposit_share_nonneg deposits nonneg member) _
    · exact fun _ => le_rfl

theorem issueRewards_gathers (deposits : ledger.deposits.Each (0 ≤ ·)) (amount : ℝ) :
    Gathers ledger (ledger.issueRewards amount).1 (ledger.issueRewards amount).2 := by
  unfold issueRewards
  dsimp only
  split
  · exact .of_books rfl
  · rename_i issued
    obtain ⟨some, positive⟩ := not_or.mp issued
    simp only [mul_div_assoc]
    constructor
    · rfl
    · dsimp only
      rw [sumOf_foldl_addTo, sum_deposit_shares (not_le.mp some)]
    · exact fun _ => le_rfl
    · exact getD_le_foldl_addTo (fun _ member => deposit_share_nonneg deposits (not_le.mp positive).le member) _

theorem offset_deposits_nonneg (deposits : ledger.deposits.Each (0 ≤ ·)) (debt collateral : ℝ) :
    (ledger.offset debt collateral).deposits.Each (0 ≤ ·) := by
  rcases le_or_gt ledger.totalDeposits tolerance with none | some
  · rwa [offset_of_none none]
  · rw [offset_of_some some]
    refine deposits.map fun amount held => ?_
    rw [Number.max_real]
    exact mul_nonneg held (le_max_right _ _)

theorem settleCapped_gathers (deposits : ledger.deposits.Each (0 ≤ ·)) {trove : Trove ℝ}
    (collateral : 0 ≤ trove.collateral) (worth : 0 ≤ trove.debt * ledger.terms.mcr / ledger.price)
    (account : AccountId) :
    Gathers ledger 0 (ledger.settleCapped account trove).2 ∧
      (ledger.settleCapped account trove).2.deposits.Each (0 ≤ ·) := by
  have capped : 0 ≤ Number.min (trove.debt * ledger.terms.mcr / ledger.price) trove.collateral := by
    rw [Number.min_real]
    exact le_min worth collateral
  exact ⟨{ offset_gathers deposits trove.debt capped with }, offset_deposits_nonneg deposits _ _⟩

theorem settleInFull_gathers (deposits : ledger.deposits.Each (0 ≤ ·)) {trove : Trove ℝ}
    (collateral : 0 ≤ trove.collateral) (debt : 0 ≤ trove.debt) (account : AccountId) :
    Gathers ledger 0 (ledger.settleInFull account trove).2 ∧
      (ledger.settleInFull account trove).2.deposits.Each (0 ≤ ·) := by
  have pool : 0 ≤ ledger.totalDeposits := by
    rw [totalDeposits_eq]
    exact Book.sumOf_nonneg deposits
  have cancelled : 0 ≤ Number.min trove.debt ledger.totalDeposits := by
    rw [Number.min_real]
    exact le_min debt pool
  have taken := div_nonneg (mul_nonneg collateral cancelled) debt
  have settled := offset_gathers deposits (Number.min trove.debt ledger.totalDeposits) taken
  have shrunk := offset_deposits_nonneg deposits (Number.min trove.debt ledger.totalDeposits)
    (trove.collateral * Number.min trove.debt ledger.totalDeposits / trove.debt)
  obtain ⟨troves, spread⟩ := (ledger.offset (Number.min trove.debt ledger.totalDeposits)
      (trove.collateral * Number.min trove.debt ledger.totalDeposits / trove.debt)).redistribute_eq
    (trove.debt - Number.min trove.debt ledger.totalDeposits)
    (trove.collateral - trove.collateral * Number.min trove.debt ledger.totalDeposits / trove.debt)
  simp only [settleInFull, spread]
  exact ⟨{ settled with }, shrunk⟩

/-- A liquidation only adds to what the depositors are owed. -/
theorem liquidates_gathers (pledged : ledger.Pledged) (deposits : ledger.deposits.Each (0 ≤ ·))
    {liquidator : AccountId} {liquidation : Liquidation ℝ}
    (liquidates : Liquidates liquidator ledger liquidation left) :
    Gathers ledger 0 left ∧ left.deposits.Each (0 ≤ ·) := by
  cases liquidates with
  | @capped account icr trove several worst found eligible recovery safe =>
    have covered := pledged.troves account trove found
    have factor : 0 < ledger.terms.mcr := zero_lt_one.trans pledged.mcr
    have worth := div_nonneg (mul_nonneg eligible.indebted.le factor.le)
      (covered.price_pos eligible.indebted factor safe).le
    obtain ⟨settled, kept⟩ := @settleCapped_gathers (ledger.seize account liquidator trove) deposits trove
      (covered eligible.indebted).le worth account
    exact ⟨{ settled with }, kept⟩
  | @inFull account icr trove several worst found eligible unsecured =>
    have covered := pledged.troves account trove found
    obtain ⟨settled, kept⟩ := @settleInFull_gathers (ledger.seize account liquidator trove) deposits trove
      (covered eligible.indebted).le eligible.indebted.le account
    exact ⟨{ settled with }, kept⟩

theorem Pledged.gathers (pledged : ledger.Pledged) (deposits : ledger.deposits.Each (0 ≤ ·))
    {liquidator : AccountId} {liquidations : List (Liquidation ℝ)}
    (chain : Liquidations liquidator ledger liquidations left) :
    Gathers ledger 0 left ∧ left.deposits.Each (0 ≤ ·) := by
  induction chain with
  | none ledger => exact ⟨.of_books rfl, deposits⟩
  | next first later ih =>
    obtain ⟨one, kept⟩ := liquidates_gathers pledged deposits first
    obtain ⟨others, last⟩ := ih (pledged.liquidates first) kept
    exact ⟨add_zero (0 : ℝ) ▸ one.trans others, last⟩

theorem liquidations_gathers (secured : ledger.Secured terms) (deposits : ledger.deposits.Each (0 ≤ ·))
    {liquidator : AccountId} {liquidations : List (Liquidation ℝ)}
    (chain : Liquidations liquidator ledger liquidations left) :
    Gathers ledger 0 left ∧ left.deposits.Each (0 ≤ ·) :=
  secured.pledged.gathers deposits chain

/-- The account is paid what it is owed, and no other. -/
structure Pays (ledger : Ledger ℝ) (account : AccountId) (left : Ledger ℝ) : Prop where
  collateralGains : left.collateralGains = ledger.collateralGains.erase account
  rewardGains : left.rewardGains = ledger.rewardGains.erase account
  poolCollateral : left.poolCollateral = max (ledger.poolCollateral - (ledger.owed account).collateral) 0

theorem payOutGains_pays (ledger : Ledger ℝ) (account : AccountId) :
    Pays ledger account (ledger.payOutGains account).2 :=
  ⟨rfl, rfl, Number.max_real _ _⟩

theorem Pays.owed_self (pays : Pays ledger account left) : left.owed account = ⟨0, 0⟩ := by
  simp [owed, pays.collateralGains, pays.rewardGains]

theorem Pays.owed_other (pays : Pays ledger account left) {other : AccountId} (different : other ≠ account) :
    left.owed other = ledger.owed other := by
  simp [owed, pays.collateralGains, pays.rewardGains, different]

theorem sumOf_struck (book : Book ℝ) (account : AccountId) :
    (book.erase account).sumOf id = book.sumOf id - (book.get? account).getD 0 := by
  rw [Book.sumOf_erase, Option.map_id, id_eq]

/-! ### One call -/

/-- The pool can pay what it owes. -/
structure Funded (ledger : Ledger ℝ) : Prop where
  pledged : ledger.Pledged
  deposits : ledger.deposits.Each (0 ≤ ·)
  collateral_nonneg : ∀ account, 0 ≤ (ledger.owed account).collateral
  reward_nonneg : ∀ account, 0 ≤ (ledger.owed account).reward
  held : ledger.poolCollateral = ledger.collateralGains.sumOf id

theorem new_funded (mcr : 1 < terms.mcr) (price : ℝ) : (new terms price).Funded where
  pledged := new_pledged mcr price
  deposits := Book.each_empty _
  collateral_nonneg _ := le_rfl
  reward_nonneg _ := le_rfl
  held := rfl

/-- The pool can pay what it owes, and the ledger is secured. -/
structure Solvent (ledger : Ledger ℝ) (terms : Terms ℝ) : Prop extends Funded ledger where
  secured : ledger.Secured terms

theorem new_solvent (secure : terms.Secure) (price : ℝ) : (new terms price).Solvent terms where
  toFunded := new_funded secure.mcr price
  secured := new_secured secure price

/-- No one is owed more than the pool holds. -/
theorem Funded.owed_le (funded : ledger.Funded) (account : AccountId) :
    (ledger.owed account).collateral ≤ ledger.poolCollateral := by
  have gains : ledger.collateralGains.Each (0 ≤ id ·) := by
    intro other gain found
    have nonneg := funded.collateral_nonneg other
    simpa [owed, found] using nonneg
  rw [funded.held]
  cases found : ledger.collateralGains.get? account with
  | none => simpa [owed, found] using Book.sumOf_nonneg gains
  | some gain => simpa [owed, found] using Book.le_sumOf gains found

/-- A call pays everything to the one account that it settles with, or takes from nobody. -/
inductive Moves (ledger : Ledger ℝ) (call : Call ℝ) (left : Ledger ℝ) : Prop
  | pays {account : AccountId} (collects : ledger.Collects call account) (pays : Pays ledger account left)
  | gathers (nobody : ∀ account, ¬ ledger.Collects call account)
      (gathers : Gathers ledger (ledger.rewardIssued call) left)

/-- A call that settles with no account takes from nobody. -/
theorem Moves.of_books (unsettled : call.collector? = none) (nothing : ledger.rewardIssued call = 0)
    (same : left.poolBooks = ledger.poolBooks) : Moves ledger call left := by
  refine .gathers (fun account collects => ?_) ?_
  · rw [Collects, unsettled] at collects
    cases collects.1
  · rw [nothing]
    exact .of_books same

/-- Rewards are not refused. -/
theorem rewardIssued_of_refused {refusal : Refusal ℝ} (refused : (ledger.perform call).1 = .error refusal) :
    ledger.rewardIssued call = 0 := by
  cases call with
  | issueRewards amount => cases refused
  | _ => rfl

/-- Whoever is paid gains is issued none. -/
theorem rewardIssued_of_collector (settles : call.collector? = some account) : ledger.rewardIssued call = 0 := by
  cases call with
  | issueRewards amount => cases settles
  | _ => rfl

theorem Funded.moves (funded : ledger.Funded) (call : Call ℝ) :
    Moves ledger call (ledger.perform call).2 ∧ (ledger.perform call).2.deposits.Each (0 ≤ ·) := by
  have performs := ledger.perform_performs call
  have accepted {answer : Answer ℝ} {account : AccountId} (answered : (ledger.perform call).1 = .ok answer)
      (settles : call.collector? = some account) : ledger.Collects call account := ⟨settles, answer, answered⟩
  have rejected {refusal : Refusal ℝ} (answered : (ledger.perform call).1 = .error refusal) (account : AccountId) :
      ¬ ledger.Collects call account := by
    rintro ⟨_, answer, done⟩
    cases answered.symm.trans done
  have unissued {refusal : Refusal ℝ} (answered : (ledger.perform call).1 = .error refusal) :
      ledger.rewardIssued call = 0 := rewardIssued_of_refused answered
  generalize (ledger.perform call).1 = answer at performs accepted rejected unissued
  generalize (ledger.perform call).2 = left at performs ⊢
  cases performs with
  | priceSet price => exact ⟨.of_books rfl rfl rfl, funded.deposits⟩
  | periodPassed => exact ⟨.of_books rfl rfl rfl, funded.deposits⟩
  | opened opening =>
    rw [opening.left_eq]
    exact ⟨.of_books rfl rfl rfl, funded.deposits⟩
  | closed closing =>
    rw [closing.left_eq]
    exact ⟨.of_books rfl rfl rfl, funded.deposits⟩
  | adjusted adjustment =>
    rw [adjustment.left_eq]
    exact ⟨.of_books rfl rfl rfl, funded.deposits⟩
  | liquidated something batch =>
    obtain ⟨gathers, kept⟩ := funded.pledged.gathers funded.deposits (liquidations_of_batch batch)
    exact ⟨.gathers (fun account collects => nomatch collects.1) gathers, kept⟩
  | redeemed redeems =>
    have same := redeems_poolBooks redeems
    have deposits : left.deposits = ledger.deposits := congrArg Prod.fst same
    exact ⟨.of_books rfl rfl same, deposits ▸ funded.deposits⟩
  | provided provision =>
    obtain ⟨proper, paid, debited, rfl⟩ := provide_ok provision
    obtain ⟨_, rfl⟩ := debit_ok debited
    have amount_nonneg := (not_le.mp (not_or.mp proper).1).le
    exact ⟨.pays (accepted rfl rfl) { payOutGains_pays ledger _ with },
      funded.deposits.insert _ (add_nonneg (getD_nonneg funded.deposits _) amount_nonneg)⟩
  | withdrawn withdrawal =>
    rw [withdrawal.left_eq]
    refine ⟨.pays (accepted rfl rfl) { payOutGains_pays ledger _ with }, ?_⟩
    dsimp only
    split
    · exact funded.deposits.erase _
    · rename_i some
      exact funded.deposits.insert _ (tolerance_pos.trans (not_le.mp some)).le
  | claimed owed => exact ⟨.pays (accepted rfl rfl) (payOutGains_pays ledger _), funded.deposits⟩
  | issued amount =>
    refine ⟨.gathers (fun account collects => nomatch collects.1)
      (issueRewards_gathers funded.deposits amount), ?_⟩
    unfold issueRewards
    dsimp only
    split <;> exact funded.deposits
  | transferred accepted =>
    obtain ⟨_, paid, debited, rfl⟩ := transfer_ok accepted
    obtain ⟨_, rfl⟩ := debit_ok debited
    exact ⟨.of_books rfl rfl rfl, funded.deposits⟩
  | refused notRedeem refusal =>
    refine ⟨.gathers (rejected rfl) ?_, funded.deposits⟩
    rw [unissued rfl]
    exact .of_books rfl

theorem perform_moves (call : Call ℝ) (solvent : ledger.Solvent terms) :
    Moves ledger call (ledger.perform call).2 ∧ (ledger.perform call).2.deposits.Each (0 ≤ ·) :=
  solvent.toFunded.moves call

/-- What is owed stays at least nothing, where a call pays one account or takes from nobody. -/
theorem Moves.owed_nonneg (moves : Moves ledger call left) {reading : Gains ℝ → ℝ} (none : reading ⟨0, 0⟩ = 0)
    (le : ∀ {reward}, Gathers ledger reward left → reading (ledger.owed account) ≤ reading (left.owed account))
    (nonneg : 0 ≤ reading (ledger.owed account)) : 0 ≤ reading (left.owed account) := by
  cases moves with
  | gathers nobody gathers => exact nonneg.trans (le gathers)
  | @pays paid collects pays =>
    by_cases same : account = paid
    · rw [same, pays.owed_self, none]
    · rwa [pays.owed_other same]

theorem Funded.perform (funded : ledger.Funded) (call : Call ℝ) : (ledger.perform call).2.Funded := by
  obtain ⟨moves, deposits⟩ := funded.moves call
  refine
    { pledged := perform_pledged call funded.pledged, deposits
      collateral_nonneg := fun account =>
        moves.owed_nonneg rfl (fun gathers => gathers.collateral_le account) (funded.collateral_nonneg account)
      reward_nonneg := fun account =>
        moves.owed_nonneg rfl (fun gathers => gathers.reward_le account) (funded.reward_nonneg account)
      held := ?_ }
  cases moves with
  | gathers nobody gathers =>
    have apart := gathers.held
    rw [funded.held, sub_self] at apart
    exact sub_eq_zero.mp apart
  | @pays paid collects pays =>
    rw [pays.poolCollateral, pays.collateralGains, sumOf_struck, ← funded.held]
    exact max_eq_left (sub_nonneg.mpr (funded.owed_le paid))

theorem perform_solvent (call : Call ℝ) (solvent : ledger.Solvent terms) : (ledger.perform call).2.Solvent terms where
  toFunded := solvent.toFunded.perform call
  secured := perform_secured call solvent.secured

/-- Rewards are owed when they are issued, until they are paid out. -/
theorem Funded.rewards (funded : ledger.Funded) (call : Call ℝ) :
    (ledger.perform call).2.rewardGains.sumOf id + ledger.rewardPaid call =
      ledger.rewardGains.sumOf id + ledger.rewardIssued call := by
  cases (funded.moves call).1 with
  | @pays account collects pays =>
    obtain ⟨settles, answer, accepted⟩ := collects
    have issued : ledger.rewardIssued call = 0 := rewardIssued_of_collector settles
    have paid : ledger.rewardPaid call = (ledger.owed account).reward := by
      simp only [rewardPaid, settles, accepted]
      rfl
    rw [pays.rewardGains, sumOf_struck, issued, paid]
    exact (sub_add_cancel _ _).trans (add_zero _).symm
  | gathers nobody gathers =>
    have paid : ledger.rewardPaid call = 0 := by
      unfold rewardPaid
      split
      · rename_i account answer settles accepted
        exact absurd ⟨settles, answer, accepted⟩ (nobody account)
      · rfl
    rw [gathers.rewards, paid, add_zero]

/-- An accepted claim answers what the account was owed. -/
theorem claim_answers {answer : Answer ℝ} (accepted : (ledger.perform (.claim account)).1 = .ok answer) :
    answer = .claimed (ledger.owed account) := by
  rw [perform] at accepted
  cases claimed : ledger.claim account with
  | error refusal =>
    rw [claimed] at accepted
    cases accepted
  | ok paid =>
    obtain ⟨gains, left⟩ := paid
    rw [claimed, settle_ok] at accepted
    obtain rfl : gains = ledger.owed account := congrArg Prod.fst (claim_ok claimed).2
    exact (Except.ok.inj accepted).symm

/-- Whoever is owed a reward can claim. -/
theorem perform_claim (rewarded : ledger.rewardGains.Has account) : ledger.perform (.claim account) =
    (.ok (.claimed (ledger.owed account)), (ledger.payOutGains account).2) := by
  rw [perform, claim, if_neg fun nothing => nothing.2.2 rewarded]
  rfl

/-! ### Every run -/

theorem after_funded (mcr : 1 < terms.mcr) (price : ℝ) (calls : List (Call ℝ)) :
    ((new terms price).after calls).Funded :=
  after_keeps (fun call funded => funded.perform call) (new_funded mcr price) calls

theorem after_solvent (secure : terms.Secure) (price : ℝ) (calls : List (Call ℝ)) :
    ((new terms price).after calls).Solvent terms :=
  @after_keeps ℝ _ (·.Solvent terms) (fun call solvent => perform_solvent call solvent) _ (new_solvent secure price)
    calls

theorem after_rewards (solvent : ledger.Solvent terms) (calls : List (Call ℝ)) :
    (ledger.after calls).rewardGains.sumOf id + ledger.sumAlong rewardPaid calls =
      ledger.rewardGains.sumOf id + ledger.sumAlong rewardIssued calls := by
  induction calls generalizing ledger with
  | nil => rfl
  | cons call calls ih =>
    have first := solvent.toFunded.rewards call
    have later := ih (perform_solvent call solvent)
    rw [after_cons]
    simp only [sumAlong]
    linarith

/-- After every run the pool holds the collateral that it owes, and the rewards issued are
    owed or paid out. An accepted call by a depositor pays it all that it is owed, and no
    other; every other call takes from nobody. What an accepted claim answers is what was owed. -/
theorem gains_conserved (secure : terms.Secure) (price : ℝ) (calls : List (Call ℝ)) :
    let ledger := (new terms price).after calls
    ledger.poolCollateral = Number.sum ledger.collateralGains.values ∧
      Number.sum ledger.rewardGains.values + (new terms price).sumAlong rewardPaid calls =
        (new terms price).sumAlong rewardIssued calls ∧
      ∀ call,
        (∀ account, ledger.Collects call account →
          (ledger.perform call).2.owed account = ⟨0, 0⟩ ∧
            ∀ other ≠ account, (ledger.perform call).2.owed other = ledger.owed other) ∧
        ((∀ account, ¬ ledger.Collects call account) →
          ∀ account, (ledger.owed account).collateral ≤ ((ledger.perform call).2.owed account).collateral ∧
            (ledger.owed account).reward ≤ ((ledger.perform call).2.owed account).reward) ∧
        ∀ account answer, call = .claim account → (ledger.perform call).1 = .ok answer →
          answer = .claimed (ledger.owed account) := by
  intro ledger
  have solvent : ledger.Solvent terms := after_solvent secure price calls
  have rewards := after_rewards (new_solvent secure price) calls
  refine ⟨?_, ?_, fun call => ⟨fun account collects => ?_, fun nobody account => ?_, ?_⟩⟩
  · rw [Number.sum_real, solvent.held, Book.sumOf, List.map_id]
  · rw [Book.sumOf, List.map_id] at rewards
    rw [Number.sum_real]
    exact rewards.trans (zero_add _)
  · cases (perform_moves call solvent).1 with
    | @pays paid settles pays =>
      have same : account = paid := Option.some.inj (collects.1.symm.trans settles.1)
      rw [same]
      exact ⟨pays.owed_self, fun other different => pays.owed_other different⟩
    | gathers nobody gathers => exact absurd collects (nobody account)
  · cases (perform_moves call solvent).1 with
    | @pays paid settles pays => exact absurd settles (nobody paid)
    | gathers nobody gathers => exact ⟨gathers.collateral_le account, gathers.reward_le account⟩
  · rintro account answer rfl accepted
    exact claim_answers accepted

/-! ### A deposit that is used up -/

/-- The two troves of which one is below the minimum ratio, and a deposit that is smaller
    than its debt. -/
noncomputable def shallow : Ledger ℝ :=
  { pair with
    balances := ⟨[(7, 1000.0), (8, 2000.0)], by simp⟩
    deposits := ⟨[(7, 1000.0)], by simp⟩ }

/-- The calls that lead to the deposit, and the liquidation that uses it up. -/
noncomputable def drainingCalls : List (Call ℝ) :=
  [.openTrove 7 10.0 2000.0, .openTrove 8 3.0 2000.0, .provide 7 1000.0, .setPrice 700.0, .liquidateTroves 9 1]

theorem pair_provided : ({ pair with price := 1000.0 }.perform (.provide 7 1000.0)).2 =
    { shallow with price := 1000.0 } := by
  refine congrArg Prod.snd (perform_provide ?_ ?_ ?_) <;>
    norm_num [afterDeposit, payOutGains, readings, shallow, pair_eq]

/-- The pool cannot cancel all of the debt, and what is left goes to the other trove. -/
theorem shallow_liquidated : shallow.perform (.liquidateTroves 9 1) =
    (.ok (.liquidated [((shallow.seize 8 9 ⟨3.0, 2210.0⟩).settleInFull 8 ⟨3.0, 2210.0⟩).1]),
      ((shallow.seize 8 9 ⟨3.0, 2210.0⟩).settleInFull 8 ⟨3.0, 2210.0⟩).2) := by
  have head : shallow.sortedTroves.head? = some (8, .of (2100 / 2210)) := congrArg List.head? pair_sorted
  exact perform_of_unsecured (by decide) head rfl pair_unsecured 9

/-- The same deposit after a reward. -/
noncomputable def rewarded : Ledger ℝ := { shallow with rewardGains := ⟨[(7, 5.0)], by simp⟩ }

/-- The calls that reward the deposit before it is used up. -/
noncomputable def rewardingCalls : List (Call ℝ) :=
  [.openTrove 7 10.0 2000.0, .openTrove 8 3.0 2000.0, .provide 7 1000.0, .issueRewards 5.0, .setPrice 700.0,
    .liquidateTroves 9 1]

theorem rewarded_liquidated : (rewarded.perform (.liquidateTroves 9 1)).2 =
    ((rewarded.seize 8 9 ⟨3.0, 2210.0⟩).settleInFull 8 ⟨3.0, 2210.0⟩).2 := by
  have head : rewarded.sortedTroves.head? = some (8, .of (2100 / 2210)) := congrArg List.head? pair_sorted
  exact congrArg Prod.snd (perform_of_unsecured (by decide) head rfl pair_unsecured 9)

theorem rewarding_reached : (new Parameters.defaultTerms 1000.0).after rewardingCalls =
    ((rewarded.seize 8 9 ⟨3.0, 2210.0⟩).settleInFull 8 ⟨3.0, 2210.0⟩).2 := by
  have issued : ({ shallow with price := 1000.0 }.perform (.issueRewards 5.0)).2 =
      { rewarded with price := 1000.0 } := by
    norm_num [perform, issueRewards, readings, rewarded, shallow, pair_eq, Number.tolerance_real]
  rw [← rewarded_liquidated]
  simp only [rewardingCalls, after_cons, lone_opened, lone_joined, pair_provided, issued]
  rfl

theorem shallow_drained :
    let ledger := (new Parameters.defaultTerms 1000.0).after rewardingCalls
    (Parameters.defaultTerms : Terms ℝ).Secure ∧ ledger.deposit 7 = 0 ∧ ledger.owed 7 = ⟨300 / 221, 5⟩ ∧
      ledger.poolCollateral = Number.sum ledger.collateralGains.values ∧
      (ledger.perform (.claim 7)).1 = .ok (.claimed ⟨300 / 221, 5⟩) ∧
      (ledger.perform (.claim 7)).2.owed 7 = ⟨0, 0⟩ ∧
      (new Parameters.defaultTerms 1000.0).sumAlong rewardPaid (rewardingCalls ++ [.claim 7]) = 5 := by
  intro ledger
  have reached : ledger = ((rewarded.seize 8 9 ⟨3.0, 2210.0⟩).settleInFull 8 ⟨3.0, 2210.0⟩).2 := rewarding_reached
  obtain ⟨deposited, owed, gains⟩ : ledger.deposit 7 = 0 ∧ ledger.owed 7 = ⟨300 / 221, 5⟩ ∧
      ledger.rewardGains = ⟨[(7, 5)], by simp⟩ := by
    rw [reached]
    norm_num [settleInFull, seize, offset, redistribute, readings, rewarded, shallow, pair_eq, credit,
      Ledger.owed, Number.tolerance_real]
  have secure : (Parameters.defaultTerms : Terms ℝ).Secure := defaultTerms_admissible.secure
  obtain ⟨held, _, conserved⟩ := gains_conserved secure 1000.0 rewardingCalls
  obtain ⟨paying, _, answers⟩ := conserved (.claim 7)
  have claimed : ledger.perform (.claim 7) = _ := perform_claim (by simp [gains])
  have collected := (paying 7 ⟨rfl, _, congrArg Prod.fst claimed⟩).1
  refine ⟨secure, deposited, owed, held, owed ▸ congrArg Prod.fst claimed, collected, ?_⟩
  obtain ⟨_, rewards, _⟩ := gains_conserved secure 1000.0 (rewardingCalls ++ [.claim 7])
  have struck : ((new Parameters.defaultTerms 1000.0).after (rewardingCalls ++ [.claim 7])).rewardGains = .empty := by
    have last : (new Parameters.defaultTerms 1000.0).after (rewardingCalls ++ [.claim 7]) =
        (ledger.perform (.claim 7)).2 := rfl
    rw [last, claimed, payOutGains, gains]
    rfl
  have issued : (new Parameters.defaultTerms 1000.0).sumAlong rewardIssued (rewardingCalls ++ [.claim 7]) = 5 := by
    have five : (Ledger.issueRewards { shallow with price := 1000.0 } 5.0).1 = 5 := by
      norm_num [issueRewards, readings, shallow, Number.tolerance_real]
    simp only [rewardingCalls, List.cons_append, List.nil_append, sumAlong, lone_opened, lone_joined, pair_provided,
      rewardIssued, five]
    norm_num
  rw [struck, issued] at rewards
  simpa using rewards

end Ledger
end Stablecoin
