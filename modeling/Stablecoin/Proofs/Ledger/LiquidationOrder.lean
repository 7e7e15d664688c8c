import Stablecoin.Proofs.Ledger.Backing
import Stablecoin.Proofs.Ledger.Eligibility

/-!
The order of liquidation. At every step the trove that is secured worst is asked for anew,
after the trove before it has been spread over the others. Yet a batch takes the troves as
they stood in the order before the call (`batch_follows_queue`). The others absorb a trove in
proportion to their collateral (`Absorbs`): each takes debt and collateral at the ratio of
the trove that goes, and more of both the more collateral it has. So what is secured
better stays secured better, what is secured the same stays the same
(`absorb_cover_le_iff`), and nothing falls below the trove that went (`cover_le_absorb`).
-/
namespace Stablecoin
open Number (tolerance tolerance_pos)

/-- The trove has collateral and debt. -/
structure Trove.Proper (trove : Trove ℝ) : Prop where
  collateral : 0 < trove.collateral
  debt : 0 < trove.debt

/-- What the collateral is worth for each unit of the debt. -/
noncomputable def Trove.cover (trove : Trove ℝ) (price : ℝ) : ℝ := trove.collateral * price / trove.debt

/-- The trove once it has taken `part` of another for each unit of its own collateral. -/
noncomputable def Trove.absorb (trove taken : Trove ℝ) (part : ℝ) : Trove ℝ where
  collateral := trove.collateral + taken.collateral * (part * trove.collateral)
  debt := trove.debt + taken.debt * (part * trove.collateral)

/-- What the liquidation tells of the ratio of the trove that it took. -/
noncomputable def Liquidation.cover (liquidation : Liquidation ℝ) (price : ℝ) : ℝ :=
  liquidation.collateral * price / liquidation.debt

namespace Trove
variable {trove other taken : Trove ℝ} {price part : ℝ}

theorem Proper.icr_eq (proper : trove.Proper) (price : ℝ) : trove.icr price = .of (trove.cover price) :=
  if_neg (not_le.mpr proper.debt)

theorem Proper.level_eq (proper : trove.Proper) (price : ℝ) : (trove.icr price).level = trove.cover price := by
  rw [proper.icr_eq]
  rfl

/-- At a positive price the order of two troves does not depend on the price. -/
theorem cover_le_iff (proper : trove.Proper) (properOther : other.Proper) (positive : 0 < price) :
    trove.cover price ≤ other.cover price ↔
      trove.collateral * other.debt ≤ other.collateral * trove.debt := by
  rw [cover, cover, div_le_div_iff₀ proper.debt properOther.debt]
  rw [mul_right_comm, mul_right_comm other.collateral]
  exact mul_le_mul_iff_left₀ positive

theorem Proper.absorb (proper : trove.Proper) (properTaken : taken.Proper) (nonneg : 0 ≤ part) :
    (trove.absorb taken part).Proper := by
  have share := mul_nonneg nonneg proper.collateral.le
  exact
    { collateral := add_pos_of_pos_of_nonneg proper.collateral (mul_nonneg properTaken.collateral.le share)
      debt := add_pos_of_pos_of_nonneg proper.debt (mul_nonneg properTaken.debt.le share) }

/-- What was secured no better than another stays so, and the other way round. -/
theorem absorb_cover_le_iff (proper : trove.Proper) (properOther : other.Proper) (properTaken : taken.Proper)
    (nonneg : 0 ≤ part) (positive : 0 < price) :
    (trove.absorb taken part).cover price ≤ (other.absorb taken part).cover price ↔
      trove.cover price ≤ other.cover price := by
  rw [cover_le_iff (proper.absorb properTaken nonneg) (properOther.absorb properTaken nonneg) positive,
    cover_le_iff proper properOther positive]
  have grown : 0 < 1 + taken.collateral * part :=
    add_pos_of_pos_of_nonneg one_pos (mul_nonneg properTaken.collateral.le nonneg)
  -- The debts taken cancel, for they are in proportion to the collateral.
  have apart : (other.absorb taken part).collateral * (trove.absorb taken part).debt -
      (trove.absorb taken part).collateral * (other.absorb taken part).debt =
        (1 + taken.collateral * part) * (other.collateral * trove.debt - trove.collateral * other.debt) := by
    simp only [absorb]
    ring
  rw [← sub_nonneg, apart, mul_nonneg_iff_of_pos_left grown, sub_nonneg]

/-- A trove does not fall below the one that it absorbs. -/
theorem cover_le_absorb (proper : trove.Proper) (properTaken : taken.Proper) (nonneg : 0 ≤ part)
    (positive : 0 < price) (above : taken.cover price ≤ trove.cover price) :
    taken.cover price ≤ (trove.absorb taken part).cover price := by
  rw [cover_le_iff properTaken proper positive] at above
  rw [cover_le_iff properTaken (proper.absorb properTaken nonneg) positive]
  simp only [absorb]
  linarith

end Trove

namespace Ledger
variable {ledger mid left : Ledger ℝ} {liquidator : AccountId} {liquidation : Liquidation ℝ}
  {liquidations : List (Liquidation ℝ)}

/-- The trove that is secured worst is taken out, and the others absorb `part` of it. -/
structure Absorbs (ledger : Ledger ℝ) (trove : Trove ℝ) (part : ℝ) (liquidation : Liquidation ℝ) (left : Ledger ℝ) :
    Prop where
  worst : ledger.Worst liquidation.account trove
  collateral_eq : liquidation.collateral = trove.collateral
  debt_eq : liquidation.debt = trove.debt
  part_nonneg : 0 ≤ part
  price_eq : left.price = ledger.price
  troves_eq : left.troves = (ledger.troves.erase liquidation.account).map (·.absorb trove part)

theorem map_absorb_zero (troves : Book (Trove ℝ)) (taken : Trove ℝ) : troves.map (·.absorb taken 0) = troves := by
  simp [Book.map, Trove.absorb]

theorem worst_of_head {account : AccountId} {icr : Ratio ℝ} {trove : Trove ℝ}
    (several : 1 < ledger.troves.size) (head : ledger.sortedTroves.head? = some (account, icr))
    (found : ledger.troves.get? account = some trove) : ledger.Worst account trove := by
  obtain ⟨first, least, worst⟩ := exists_worst (Nat.zero_lt_of_lt several)
  have same := Option.some.inj (worst.first.symm.trans head)
  obtain rfl : first = account := congrArg Prod.fst same
  obtain rfl : least = trove := Option.some.inj (worst.found.symm.trans found)
  exact worst

/-- What is redistributed of a trove, at its own ratio, is absorbed by the others. -/
theorem redistribute_absorbs (ledger : Ledger ℝ) (trove : Trove ℝ) {rest : ℝ} (nonneg : 0 ≤ rest) :
    ∃ part, 0 ≤ part ∧ (ledger.redistribute (trove.debt * rest) (trove.collateral * rest)).troves =
      ledger.troves.map (·.absorb trove part) := by
  rcases le_or_gt ledger.totalCollateral tolerance with none | some
  · exact ⟨0, le_rfl, by rw [redistribute_of_none none, map_absorb_zero]⟩
  · have given (other : Trove ℝ) : other.absorb trove (rest / ledger.totalCollateral) =
        { debt := other.debt + trove.debt * rest * (other.collateral / ledger.totalCollateral)
          collateral := other.collateral + trove.collateral * rest * (other.collateral / ledger.totalCollateral) } := by
      simp only [Trove.absorb, Trove.mk.injEq]
      constructor <;> ring
    refine ⟨rest / ledger.totalCollateral, div_nonneg nonneg (tolerance_pos.trans some).le, ?_⟩
    simp only [redistribute_of_some some, given]

theorem settleInFull_absorbs (ledger : Ledger ℝ) (account : AccountId) {trove : Trove ℝ} (proper : trove.Proper) :
    ∃ part, 0 ≤ part ∧ (ledger.settleInFull account trove).2.troves = ledger.troves.map (·.absorb trove part) := by
  -- The share of the trove that the pool does not cancel.
  have rest_nonneg : 0 ≤ 1 - min trove.debt ledger.totalDeposits / trove.debt :=
    sub_nonneg.mpr (div_le_one_of_le₀ (min_le_left _ _) proper.debt.le)
  have debt : trove.debt - min trove.debt ledger.totalDeposits =
      trove.debt * (1 - min trove.debt ledger.totalDeposits / trove.debt) := by
    rw [mul_sub, mul_one, mul_div_cancel₀ _ proper.debt.ne']
  have collateral : trove.collateral - trove.collateral * min trove.debt ledger.totalDeposits / trove.debt =
      trove.collateral * (1 - min trove.debt ledger.totalDeposits / trove.debt) := by ring
  simp only [settleInFull, Number.min_real]
  rw [debt, collateral]
  obtain ⟨part, nonneg, absorbed⟩ := redistribute_absorbs
    (ledger.offset (min trove.debt ledger.totalDeposits)
      (trove.collateral * min trove.debt ledger.totalDeposits / trove.debt)) trove rest_nonneg
  rw [offset_troves] at absorbed
  exact ⟨part, nonneg, absorbed⟩

theorem liquidates_absorbs (troves : ledger.troves.Each Trove.Proper)
    (liquidates : Liquidates liquidator ledger liquidation left) :
    ∃ trove part, Absorbs ledger trove part liquidation left := by
  cases liquidates with
  | @capped account icr trove several worst found eligible recovery secured =>
    refine ⟨trove, 0, worst_of_head several worst found, rfl, rfl, le_rfl, offset_price _ _ _, ?_⟩
    rw [map_absorb_zero]
    exact offset_troves _ _ _
  | @inFull account icr trove several worst found eligible unsecured =>
    obtain ⟨part, nonneg, absorbed⟩ :=
      (ledger.seize account liquidator trove).settleInFull_absorbs account (troves account trove found)
    refine ⟨trove, part, worst_of_head several worst found, rfl, rfl, nonneg, ?_, absorbed⟩
    exact (redistribute_price _ _ _).trans (offset_price _ _ _)

namespace Absorbs
variable {trove : Trove ℝ} {part : ℝ}

theorem troves_proper (absorbs : Absorbs ledger trove part liquidation left) (troves : ledger.troves.Each Trove.Proper) :
    left.troves.Each Trove.Proper := by
  have taken := troves _ _ absorbs.worst.found
  rw [absorbs.troves_eq]
  exact (troves.erase _).map fun other proper => proper.absorb taken absorbs.part_nonneg

/-- A trove that is left was another one before, and has absorbed its part. -/
theorem get?_eq_some_iff (absorbs : Absorbs ledger trove part liquidation left) {id : AccountId} {after : Trove ℝ} :
    left.troves.get? id = some after ↔
      id ≠ liquidation.account ∧ ∃ before, ledger.troves.get? id = some before ∧ before.absorb trove part = after := by
  rw [absorbs.troves_eq, Book.get?_map, Book.get?_erase]
  by_cases taken : id = liquidation.account <;> simp [taken]

/-- Nothing that is left is secured worse than what was taken. -/
theorem cover_le (absorbs : Absorbs ledger trove part liquidation left) (troves : ledger.troves.Each Trove.Proper)
    (positive : 0 < ledger.price) {id : AccountId} {after : Trove ℝ} (found : left.troves.get? id = some after) :
    liquidation.cover ledger.price ≤ after.cover left.price := by
  obtain ⟨_, before, recorded, rfl⟩ := absorbs.get?_eq_some_iff.mp found
  have taken := troves _ _ absorbs.worst.found
  have proper := troves id before recorded
  have above := absorbs.worst.least id before recorded
  rw [taken.level_eq, proper.level_eq, WithTop.coe_le_coe] at above
  rw [absorbs.price_eq, Liquidation.cover, absorbs.collateral_eq, absorbs.debt_eq]
  exact Trove.cover_le_absorb proper taken absorbs.part_nonneg positive above

theorem level_le_iff (absorbs : Absorbs ledger trove part liquidation left) (troves : ledger.troves.Each Trove.Proper)
    (positive : 0 < ledger.price) {first second : Trove ℝ} (proper : first.Proper) (properSecond : second.Proper) :
    ((first.absorb trove part).icr left.price).level ≤ ((second.absorb trove part).icr left.price).level ↔
      (first.icr ledger.price).level ≤ (second.icr ledger.price).level := by
  have taken := troves _ _ absorbs.worst.found
  rw [(proper.absorb taken absorbs.part_nonneg).level_eq, (properSecond.absorb taken absorbs.part_nonneg).level_eq,
    proper.level_eq, properSecond.level_eq, WithTop.coe_le_coe, WithTop.coe_le_coe, absorbs.price_eq]
  exact Trove.absorb_cover_le_iff proper properSecond taken absorbs.part_nonneg positive

end Absorbs

/-! ### The order of the accounts -/

/-- The accounts of the troves, from the worst secured one up. -/
noncomputable def queue (ledger : Ledger ℝ) : List AccountId := ledger.sortedTroves.map (·.1)

/-- What decides about the place of an account in the queue. -/
noncomputable def rank (ledger : Ledger ℝ) (account : AccountId) : WithTop ℝ ×ₗ AccountId :=
  standing (account, (ledger.icr? account).getD .unbounded)

theorem rank_eq {account : AccountId} {trove : Trove ℝ} (found : ledger.troves.get? account = some trove) :
    ledger.rank account = standing (account, trove.icr ledger.price) := by
  simp [rank, icr?, found]

theorem eq_of_rank_eq {account other : AccountId} (same : ledger.rank account = ledger.rank other) : account = other :=
  congrArg (fun place => (ofLex place).2) same

theorem mem_queue {account : AccountId} :
    account ∈ ledger.queue ↔ ∃ trove, ledger.troves.get? account = some trove := by
  rw [queue, List.mem_map]
  constructor
  · rintro ⟨entry, member, rfl⟩
    obtain ⟨trove, found, _⟩ := (mem_sortedTroves entry).mp member
    exact ⟨trove, found⟩
  · rintro ⟨trove, found⟩
    exact ⟨(account, trove.icr ledger.price), (mem_sortedTroves _).mpr ⟨trove, found, rfl⟩, rfl⟩

theorem nodup_queue (ledger : Ledger ℝ) : ledger.queue.Nodup := (ledger.walkOf_lists 0).nodup

theorem queue_ascending (ledger : Ledger ℝ) :
    ledger.queue.Pairwise fun worse better => ledger.rank worse ≤ ledger.rank better := by
  rw [queue, List.pairwise_map]
  refine ledger.sortedTroves_standing.imp_of_mem ?_
  intro worse better listed listedBetter inOrder
  obtain ⟨trove, found, ratio⟩ := (mem_sortedTroves worse).mp listed
  obtain ⟨other, foundOther, ratioOther⟩ := (mem_sortedTroves better).mp listedBetter
  rw [rank_eq found, rank_eq foundOther, ← ratio, ← ratioOther]
  exact inOrder

/-- The queue is known by its members and their order. -/
theorem eq_queue {accounts : List AccountId} (nodup : accounts.Nodup)
    (members : ∀ account, account ∈ accounts ↔ account ∈ ledger.queue)
    (ascending : accounts.Pairwise fun worse better => ledger.rank worse ≤ ledger.rank better) :
    accounts = ledger.queue := by
  have perm := (List.perm_ext_iff_of_nodup nodup ledger.nodup_queue).mpr members
  refine perm.eq_of_pairwise ?_ ascending ledger.queue_ascending
  intro account other _ _ below above
  exact eq_of_rank_eq (below.antisymm above)

theorem standing_le_iff {id other : AccountId} {first second firstBefore secondBefore : Ratio ℝ}
    (below : first.level ≤ second.level ↔ firstBefore.level ≤ secondBefore.level)
    (above : second.level ≤ first.level ↔ secondBefore.level ≤ firstBefore.level) :
    standing (id, first) ≤ standing (other, second) ↔ standing (id, firstBefore) ≤ standing (other, secondBefore) := by
  simp only [standing, Prod.Lex.toLex_le_toLex, lt_iff_le_not_ge, le_antisymm_iff, below, above]

/-- The others move up by one. -/
theorem Absorbs.queue_eq {trove : Trove ℝ} {part : ℝ} (absorbs : Absorbs ledger trove part liquidation left)
    (troves : ledger.troves.Each Trove.Proper) (positive : 0 < ledger.price) :
    ledger.queue = liquidation.account :: left.queue := by
  have first : ledger.queue.head? = some liquidation.account := by
    rw [queue, List.head?_map, absorbs.worst.first]
    rfl
  obtain ⟨rest, queued⟩ := List.head?_eq_some_iff.mp first
  have nodup := ledger.nodup_queue
  have ascending := ledger.queue_ascending
  rw [queued] at nodup ascending
  have members (account : AccountId) : account ∈ rest ↔ account ∈ left.queue := by
    have inQueue := @mem_queue ledger account
    have taken := (List.nodup_cons.mp nodup).1
    rw [mem_queue]
    simp only [absorbs.get?_eq_some_iff]
    rw [queued, List.mem_cons] at inQueue
    constructor
    · intro listed
      obtain ⟨before, found⟩ := inQueue.mp (.inr listed)
      exact ⟨before.absorb trove part, fun same => taken (same ▸ listed), before, found, rfl⟩
    · rintro ⟨_, different, before, found, _⟩
      exact (inQueue.mpr ⟨before, found⟩).resolve_left different
  rw [queued, ← eq_queue (List.nodup_cons.mp nodup).2 members]
  refine (List.pairwise_cons.mp ascending).2.imp_of_mem ?_
  intro worse better listed listedBetter inOrder
  obtain ⟨_, found⟩ := mem_queue.mp ((members worse).mp listed)
  obtain ⟨_, foundBetter⟩ := mem_queue.mp ((members better).mp listedBetter)
  obtain ⟨_, before, recorded, rfl⟩ := absorbs.get?_eq_some_iff.mp found
  obtain ⟨_, beforeBetter, recordedBetter, rfl⟩ := absorbs.get?_eq_some_iff.mp foundBetter
  have proper := troves worse before recorded
  have properBetter := troves better beforeBetter recordedBetter
  rw [rank_eq recorded, rank_eq recordedBetter] at inOrder
  rw [rank_eq found, rank_eq foundBetter]
  exact (standing_le_iff (absorbs.level_le_iff troves positive proper properBetter)
    (absorbs.level_le_iff troves positive properBetter proper)).mpr inOrder

/-! ### A batch -/

/-- Two troves that are left compare as they did before. -/
def KeepsOrder (ledger left : Ledger ℝ) : Prop :=
  ∀ id other first second, left.troves.get? id = some first → left.troves.get? other = some second →
    ∃ before beforeOther, ledger.troves.get? id = some before ∧ ledger.troves.get? other = some beforeOther ∧
      ((first.icr left.price).Below (second.icr left.price) ↔
        (before.icr ledger.price).Below (beforeOther.icr ledger.price))

theorem KeepsOrder.trans (first : KeepsOrder ledger mid) (later : KeepsOrder mid left) : KeepsOrder ledger left := by
  intro id other trove troveOther found foundOther
  obtain ⟨between, betweenOther, recorded, recordedOther, same⟩ := later id other _ _ found foundOther
  obtain ⟨before, beforeOther, there, thereOther, sameBefore⟩ := first id other _ _ recorded recordedOther
  exact ⟨before, beforeOther, there, thereOther, same.trans sameBefore⟩

theorem Absorbs.keepsOrder {trove : Trove ℝ} {part : ℝ} (absorbs : Absorbs ledger trove part liquidation left)
    (troves : ledger.troves.Each Trove.Proper) (positive : 0 < ledger.price) : KeepsOrder ledger left := by
  intro id other _ _ found foundOther
  obtain ⟨_, before, recorded, rfl⟩ := absorbs.get?_eq_some_iff.mp found
  obtain ⟨_, beforeOther, recordedOther, rfl⟩ := absorbs.get?_eq_some_iff.mp foundOther
  refine ⟨before, beforeOther, recorded, recordedOther, ?_⟩
  rw [Ratio.below_iff, Ratio.below_iff, lt_iff_not_ge, lt_iff_not_ge]
  exact not_congr (absorbs.level_le_iff troves positive (troves other beforeOther recordedOther)
    (troves id before recorded))

/-- Nothing is liquidated or left that is secured worse than every trove before. -/
theorem Liquidations.cover_ge (chain : Liquidations liquidator ledger liquidations left)
    (troves : ledger.troves.Each Trove.Proper) (positive : 0 < ledger.price) {least : ℝ}
    (above : ledger.troves.Each (least ≤ ·.cover ledger.price)) :
    (∀ liquidation ∈ liquidations, least ≤ liquidation.cover ledger.price) ∧
      left.troves.Each (least ≤ ·.cover left.price) := by
  induction chain with
  | none ledger => exact ⟨by simp, above⟩
  | @next ledger mid left liquidation rest first later ih =>
    obtain ⟨trove, part, absorbs⟩ := liquidates_absorbs troves first
    have price := absorbs.price_eq
    have taken : least ≤ liquidation.cover ledger.price := by
      rw [Liquidation.cover, absorbs.collateral_eq, absorbs.debt_eq]
      exact above _ _ absorbs.worst.found
    obtain ⟨others, kept⟩ := ih (absorbs.troves_proper troves) (price ▸ positive)
      fun id after found => taken.trans (absorbs.cover_le troves positive found)
    rw [price] at others
    exact ⟨List.forall_mem_cons.mpr ⟨taken, others⟩, kept⟩

/-- What a batch does to the troves that it leaves and finds. -/
structure Follows (ledger : Ledger ℝ) (liquidations : List (Liquidation ℝ)) (left : Ledger ℝ) : Prop where
  proper : left.troves.Each Trove.Proper
  price_eq : left.price = ledger.price
  queue_eq : ledger.queue = liquidations.map (·.account) ++ left.queue
  order : KeepsOrder ledger left
  ratios : liquidations.Pairwise fun earlier later => earlier.cover ledger.price ≤ later.cover ledger.price
  covered : ∀ liquidation ∈ liquidations, left.troves.Each (liquidation.cover ledger.price ≤ ·.cover left.price)

theorem Liquidations.follows (chain : Liquidations liquidator ledger liquidations left)
    (troves : ledger.troves.Each Trove.Proper) (positive : 0 < ledger.price) : Follows ledger liquidations left := by
  induction chain with
  | none ledger =>
    exact
      { proper := troves
        price_eq := rfl
        queue_eq := rfl
        order := fun _ _ first second found foundOther => ⟨first, second, found, foundOther, Iff.rfl⟩
        ratios := .nil
        covered := by simp }
  | @next ledger mid left liquidation rest first later ih =>
    obtain ⟨trove, part, absorbs⟩ := liquidates_absorbs troves first
    have proper := absorbs.troves_proper troves
    have price := absorbs.price_eq
    have priced : 0 < mid.price := price ▸ positive
    have follows := ih proper priced
    obtain ⟨others, kept⟩ := later.cover_ge proper priced fun _ _ found => absorbs.cover_le troves positive found
    have ratios := follows.ratios
    have covered := follows.covered
    rw [price] at others
    simp only [price] at ratios covered
    exact
      { proper := follows.proper
        price_eq := follows.price_eq.trans price
        queue_eq := by rw [absorbs.queue_eq troves positive, follows.queue_eq, List.map_cons, List.cons_append]
        order := (absorbs.keepsOrder troves positive).trans follows.order
        ratios := List.pairwise_cons.mpr ⟨others, ratios⟩
        covered := List.forall_mem_cons.mpr ⟨kept, covered⟩ }

/-- An accepted batch takes troves from the front of the queue as it was before the call, at
    most as many as asked for and not the last one. The ratios that it reports ascend, the
    troves that are left compare as before, and none is secured worse than one that was taken. -/
theorem batch_follows_queue (positive : 0 < ledger.price) (troves : ledger.troves.Each Trove.Proper) {count : Nat}
    (accepted : ledger.liquidateTroves liquidator count = .ok (liquidations, left)) :
    liquidations.map (·.account) <+: ledger.sortedTroves.map (·.1) ∧
      liquidations.length ≤ min count (ledger.troves.size - 1) ∧
      (liquidations.map fun taken => taken.collateral * ledger.price / taken.debt).Pairwise (· ≤ ·) ∧
      KeepsOrder ledger left ∧
      ∀ taken ∈ liquidations, ∀ id trove, left.troves.get? id = some trove →
        ¬ (trove.icr left.price).Below (.of (taken.collateral * ledger.price / taken.debt)) := by
  obtain ⟨something, batch⟩ := liquidateTroves_ok accepted
  have chain := liquidations_of_batch batch
  have follows := chain.follows troves positive
  have within := ledger.liquidateUpTo_length_le liquidator count
  rw [batch] at within
  have several : 0 < ledger.troves.size := by
    cases chain with
    | none ledger => exact absurd rfl something
    | next first later => exact Nat.zero_lt_of_lt first.several
  have notLast := chain.length_lt several
  refine ⟨⟨left.queue, follows.queue_eq.symm⟩, le_min within (Nat.le_sub_one_of_lt notLast), ?_, follows.order, ?_⟩
  · exact List.pairwise_map.mpr follows.ratios
  · intro taken member id trove found
    rw [(follows.proper id trove found).icr_eq, Ratio.below_of_of, not_lt]
    exact follows.covered taken member id trove found

/-! ### Two of three troves -/

/-- A third trove beside the two, secured worse than either of them. -/
noncomputable def trio : Ledger ℝ :=
  { pair with
    troves := ⟨[(7, ⟨10.0, 2210.0⟩), (8, ⟨3.0, 2210.0⟩), (9, ⟨2.8, 2210.0⟩)], by simp⟩
    balances := ⟨[(7, 2000.0), (8, 2000.0), (9, 2000.0)], by simp⟩
    feePool := 30.0
    gasPool := 600.0
    supply := 6630.0 }

/-- The two others have taken the third. -/
noncomputable def trioSpread : Ledger ℝ :=
  { trio with
    troves := ⟨[(7, ⟨158 / 13, 3910.0⟩), (8, ⟨237 / 65, 2720.0⟩)], by simp⟩
    balances := ⟨[(5, 200.0), (7, 2000.0), (8, 2000.0), (9, 2000.0)], by simp⟩
    gasPool := 400.0 }

/-- The first has taken all. -/
noncomputable def trioLeft : Ledger ℝ :=
  { trioSpread with
    troves := ⟨[(7, ⟨15.8, 6630.0⟩)], by simp⟩
    balances := ⟨[(5, 400.0), (7, 2000.0), (8, 2000.0), (9, 2000.0)], by simp⟩
    gasPool := 200.0 }

theorem trio_sorted : trio.sortedTroves = [(9, .of (1960 / 2210)), (8, .of (2100 / 2210)), (7, .of (7000 / 2210))] := by
  norm_num [trio, pair, sortedTroves, place, Precedes, Trove.icr]

theorem trio_spread : trio.nextLiquidation?.bind (trio.liquidateOne? · 5) =
    some (⟨9, 2.8, 2210.0, 0, 0, 2210.0, 2.8, 0⟩, trioSpread) := by
  have unsecured : (Trove.icr ⟨2.8, 2210.0⟩ trio.price).Below (.of trio.terms.mcr) := by
    norm_num [trio, pair_eq, Trove.icr, Parameters.defaultTerms]
  rw [next_of_unsecured (by decide) (congrArg List.head? trio_sorted) rfl unsecured]
  norm_num [settleInFull, seize, offset, redistribute, readings, trio, trioSpread, pair_eq, credit,
    Parameters.defaultTerms, Number.tolerance_real]

theorem trioSpread_left : trioSpread.nextLiquidation?.bind (trioSpread.liquidateOne? · 5) =
    some (⟨8, 237 / 65, 2720.0, 0, 0, 2720.0, 237 / 65, 0⟩, trioLeft) := by
  have sorted : trioSpread.sortedTroves = [(8, .of (3318 / 3536)), (7, .of (11060 / 5083))] := by
    norm_num [trioSpread, trio, pair, sortedTroves, place, Precedes, Trove.icr]
  have unsecured : (Trove.icr ⟨237 / 65, 2720.0⟩ trioSpread.price).Below (.of trioSpread.terms.mcr) := by
    norm_num [trioSpread, trio, pair_eq, Trove.icr, Parameters.defaultTerms]
  rw [next_of_unsecured (by decide) (congrArg List.head? sorted) rfl unsecured]
  norm_num [settleInFull, seize, offset, redistribute, readings, trioLeft, trio, trioSpread, pair_eq, credit,
    Parameters.defaultTerms, Number.tolerance_real]

theorem trio_proper : trio.troves.Each Trove.Proper := by
  intro id trove found
  have member := Book.mem_of_lookup found
  simp only [trio, List.mem_cons, List.not_mem_nil, or_false, Prod.mk.injEq] at member
  rcases member with ⟨_, rfl⟩ | ⟨_, rfl⟩ | ⟨_, rfl⟩ <;> constructor <;> norm_num

/-- Of three troves a batch takes the two that are secured worse. The second of them has grown
    by its part of the first when its turn comes, and stands in the queue where it stood. -/
theorem trio_follows_queue :
    0 < trio.price ∧ trio.troves.Each Trove.Proper ∧
      ∃ liquidations left, trio.liquidateTroves 5 8 = .ok (liquidations, left) ∧
        liquidations.map (·.account) = [9, 8] ∧ liquidations.map (·.debt) = [2210.0, 2720.0] ∧
        liquidations.map (·.account) <+: trio.sortedTroves.map (·.1) ∧ KeepsOrder trio left ∧
        left.troves.get? 7 = some ⟨15.8, 6630.0⟩ := by
  have positive : 0 < trio.price := by norm_num [trio, pair]
  have finished : ¬ trioLeft.HasPendingLiquidations := not_pending_of_few (by decide)
  have accepted : trio.liquidateTroves 5 8 =
      .ok ([⟨9, 2.8, 2210.0, 0, 0, 2210.0, 2.8, 0⟩, ⟨8, 237 / 65, 2720.0, 0, 0, 2720.0, 237 / 65, 0⟩], trioLeft) := by
    rw [liquidateTroves, liquidateUpTo_of_next trio_spread, liquidateUpTo_of_next trioSpread_left,
      liquidateUpTo_of_not_pending 5 finished]
    rfl
  obtain ⟨front, _, _, order, _⟩ := batch_follows_queue positive trio_proper accepted
  exact ⟨positive, trio_proper, _, _, accepted, rfl, rfl, front, order, rfl⟩

end Ledger
end Stablecoin
