import Stablecoin.Proofs.Exact
import Stablecoin.Proofs.Ledger.Steps

namespace Stablecoin.Ledger
open Number (tolerance tolerance_pos)
variable {ledger : Ledger ℝ}

theorem totalCollateral_eq (ledger : Ledger ℝ) : ledger.totalCollateral = ledger.troves.sumOf (·.collateral) :=
  Number.sum_real _

theorem totalDebt_eq (ledger : Ledger ℝ) : ledger.totalDebt = ledger.troves.sumOf (·.debt) :=
  Number.sum_real _

theorem totalDeposits_eq (ledger : Ledger ℝ) : ledger.totalDeposits = ledger.deposits.sumOf id := by
  simp [totalDeposits, Book.sumOf]

theorem sumOf_addTo (book : Book ℝ) (account : AccountId) (amount : ℝ) :
    (addTo book account amount).sumOf id = book.sumOf id + amount := by
  rw [addTo, Book.sumOf_insert, Option.map_id]
  simp only [id_eq]
  ring

/-- What a payment forgives: the part of the amount that the balance does not cover. -/
noncomputable def forgiven (ledger : Ledger ℝ) (account : AccountId) (amount : ℝ) : ℝ :=
  max (amount - ledger.balance account) 0

theorem forgiven_nonneg (ledger : Ledger ℝ) (account : AccountId) (amount : ℝ) : 0 ≤ ledger.forgiven account amount :=
  le_max_right _ _

theorem forgiven_le {account : AccountId} {amount : ℝ} (covered : ¬ ledger.balance account + tolerance < amount) :
    ledger.forgiven account amount ≤ tolerance := by
  apply max_le _ (le_of_lt tolerance_pos)
  linarith

theorem sumOf_debited (ledger : Ledger ℝ) (account : AccountId) (amount : ℝ) :
    (ledger.balances.insert account (Number.max (ledger.balance account - amount) 0)).sumOf id =
      ledger.balances.sumOf id - amount + ledger.forgiven account amount := by
  have left :
      max (ledger.balance account - amount) 0 = ledger.balance account - amount + ledger.forgiven account amount := by
    unfold forgiven
    rcases le_total amount (ledger.balance account) with enough | short
    · rw [max_eq_left (sub_nonneg.mpr enough), max_eq_right (sub_nonpos.mpr enough), add_zero]
    · rw [max_eq_right (sub_nonpos.mpr short), max_eq_left (sub_nonneg.mpr short)]
      ring
  rw [Book.sumOf_insert, Option.map_id, Number.max_real, left]
  simp only [id_eq, balance]
  ring

/-- The totals of the troves have changed as an opening, adjustment or closure says. -/
structure Changes (ledger : Ledger ℝ) (change : TroveChange ℝ) (left : Ledger ℝ) : Prop where
  collateral : left.totalCollateral = ledger.totalCollateral + change.collateral
  debt : left.totalDebt = ledger.totalDebt + change.debt

variable {left : Ledger ℝ} {account : AccountId} {change : TroveChange ℝ} {trove : Trove ℝ}

theorem Opening.changes {collateral netDebt : ℝ} (opening : Opening ledger account collateral netDebt change left) :
    Changes ledger change left := by
  have fresh := (Book.not_has_iff _ _).mp opening.fresh
  rw [opening.left_eq]
  constructor
  · rw [totalCollateral_eq, totalCollateral_eq, opening.collateral_eq]
    exact Book.sumOf_insert_fresh _ fresh _
  · rw [totalDebt_eq, totalDebt_eq]
    exact Book.sumOf_insert_fresh _ fresh _

theorem Closing.changes (closing : Closing ledger account trove change left) : Changes ledger change left := by
  rw [closing.left_eq, closing.change_eq]
  constructor
  · rw [totalCollateral_eq, totalCollateral_eq, ← sub_eq_add_neg]
    exact Book.sumOf_erase_found _ closing.found
  · rw [totalDebt_eq, totalDebt_eq, ← sub_eq_add_neg]
    exact Book.sumOf_erase_found _ closing.found

theorem Adjustment.changes {collateralDelta debtDelta : ℝ}
    (adjustment : Adjustment ledger account collateralDelta debtDelta trove change left) :
    Changes ledger change left := by
  rw [adjustment.left_eq]
  constructor
  · rw [totalCollateral_eq, totalCollateral_eq, adjustment.collateral_eq]
    refine (Book.sumOf_insert_found _ adjustment.found _).trans ?_
    ring
  · rw [totalDebt_eq, totalDebt_eq, adjustment.debt_eq]
    refine (Book.sumOf_insert_found _ adjustment.found _).trans ?_
    ring

theorem redistribute_of_none {debt collateral : ℝ} (none : ledger.totalCollateral ≤ tolerance) :
    ledger.redistribute debt collateral = ledger :=
  if_pos none

theorem redistribute_of_some {debt collateral : ℝ} (some : tolerance < ledger.totalCollateral) :
    ledger.redistribute debt collateral =
      { ledger with
        troves := ledger.troves.map fun trove =>
          { debt := trove.debt + debt * (trove.collateral / ledger.totalCollateral)
            collateral := trove.collateral + collateral * (trove.collateral / ledger.totalCollateral) } } :=
  if_neg (not_le.mpr some)

/-- Redistribution changes troves and nothing else. -/
theorem redistribute_eq {α : Type} [Number α] (ledger : Ledger α) (debt collateral : α) :
    ∃ troves, ledger.redistribute debt collateral = { ledger with troves } := by
  unfold redistribute
  dsimp only
  split
  · exact ⟨ledger.troves, rfl⟩
  · exact ⟨_, rfl⟩

/-- The troves take all of the debt between them. -/
theorem redistribute_totalDebt {debt collateral : ℝ} (some : tolerance < ledger.totalCollateral) :
    (ledger.redistribute debt collateral).totalDebt = ledger.totalDebt + debt := by
  have held : ledger.totalCollateral ≠ 0 := ne_of_gt (tolerance_pos.trans some)
  have share (trove : Trove ℝ) : trove.debt + debt * (trove.collateral / ledger.totalCollateral) =
      trove.debt + trove.collateral * (debt / ledger.totalCollateral) := by ring
  rw [redistribute_of_some some, totalDebt_eq, totalDebt_eq, Book.sumOf_map]
  simp only [Function.comp_def, share, Book.sumOf_add, Book.sumOf_mul_const, ← totalCollateral_eq]
  rw [mul_div_cancel₀ debt held]

theorem offset_of_none {debt collateral : ℝ} (none : ledger.totalDeposits ≤ tolerance) :
    ledger.offset debt collateral = ledger :=
  if_pos none

theorem offset_of_some {debt collateral : ℝ} (some : tolerance < ledger.totalDeposits) :
    ledger.offset debt collateral =
      { ledger with
        collateralGains := (ledger.offset debt collateral).collateralGains
        deposits := ledger.deposits.map (· * Number.max (1 - debt / ledger.totalDeposits) 0)
        poolCollateral := ledger.poolCollateral + collateral
        supply := ledger.supply - debt } := by
  have shrinks := not_le.mpr some
  simp only [offset, if_neg shrinks]

/-- Offsetting changes the pool and the supply, and nothing else. -/
theorem offset_eq {α : Type} [Number α] (ledger : Ledger α) (debt collateral : α) :
    ∃ collateralGains deposits poolCollateral supply, ledger.offset debt collateral =
      { ledger with collateralGains, deposits, poolCollateral, supply } := by
  unfold offset
  dsimp only
  split
  · exact ⟨ledger.collateralGains, ledger.deposits, ledger.poolCollateral, ledger.supply, rfl⟩
  · exact ⟨_, _, _, _, rfl⟩

theorem offset_troves {α : Type} [Number α] (ledger : Ledger α) (debt collateral : α) :
    (ledger.offset debt collateral).troves = ledger.troves := by
  obtain ⟨_, _, _, _, cancelled⟩ := ledger.offset_eq debt collateral
  rw [cancelled]

/-- The pool shrinks by the debt, and by no more than there is in it. -/
theorem offset_totalDeposits {debt collateral : ℝ} (some : tolerance < ledger.totalDeposits) :
    (ledger.offset debt collateral).totalDeposits = max (ledger.totalDeposits - debt) 0 := by
  have held : 0 < ledger.totalDeposits := tolerance_pos.trans some
  rw [offset_of_some some, totalDeposits_eq, Book.sumOf_map]
  simp only [Function.comp_def, id_eq, Number.max_real]
  rw [Book.sumOf_mul_const (fun amount => amount)]
  rw [show (ledger.deposits.sumOf fun amount => amount) = ledger.totalDeposits from (totalDeposits_eq ledger).symm]
  rw [mul_max_of_nonneg _ _ held.le, mul_zero, mul_sub, mul_one, mul_div_cancel₀ debt (ne_of_gt held)]

/-- The pool is short of the debt that it cancels by at most what it lacks. -/
theorem offset_supply {debt collateral : ℝ} :
    (ledger.offset debt collateral).supply - (ledger.offset debt collateral).totalDeposits =
      ledger.supply - ledger.totalDeposits -
        (if tolerance < ledger.totalDeposits then max (debt - ledger.totalDeposits) 0 else 0) := by
  split
  · rename_i some
    rw [offset_totalDeposits some, offset_of_some some]
    rcases le_total debt ledger.totalDeposits with enough | short
    · rw [max_eq_left (sub_nonneg.mpr enough), max_eq_right (sub_nonpos.mpr enough)]
      ring
    · rw [max_eq_right (sub_nonpos.mpr short), max_eq_left (sub_nonneg.mpr short)]
      ring
  · rename_i none
    rw [offset_of_none (not_lt.mp none), sub_zero]

end Stablecoin.Ledger
