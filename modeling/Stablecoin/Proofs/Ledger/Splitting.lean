import Stablecoin.Proofs.Ledger.Batches
import Stablecoin.Proofs.Ledger.Collateral
import Stablecoin.Proofs.Ledger.Gains

/-!
Where a liquidated trove goes. Its debt is cancelled against the pool or goes to the other
troves, and its collateral goes the same two ways or back to the owner; no part is below
zero (`Splits`). What is reported of the parts is what happens to the ledger: the depositors
bear the debt and are owed the collateral in proportion to their deposits (`Cancels`), and
the other troves take their parts in proportion to their collateral.

Both movements do nothing where there is next to nothing to share by, and nobody is told.
So the pool must be empty or hold more than the tolerance, and the other troves must hold
more collateral than the tolerance (`liquidates_splits`).
-/
namespace Stablecoin
open Number (tolerance tolerance_pos)

/-- The trove with its share of what all troves are given, by its part of their
    collateral. -/
noncomputable def Trove.withShare (trove : Trove ℝ) (debt collateral total : ℝ) : Trove ℝ where
  collateral := trove.collateral + collateral * (trove.collateral / total)
  debt := trove.debt + debt * (trove.collateral / total)

@[simp] theorem Trove.withShare_zero (trove : Trove ℝ) (total : ℝ) : trove.withShare 0 0 total = trove := by
  simp [withShare]

/-- The parts of a liquidated trove make up its debt and its collateral, and none is below
    zero. What the pool takes is worth no more than the multiple of the debt. -/
structure Liquidation.Partitions (liquidation : Liquidation ℝ) (price multiple : ℝ) : Prop where
  debt : liquidation.debt = liquidation.debtOffset + liquidation.debtRedistributed
  collateral : liquidation.collateral =
    liquidation.collateralToPool + liquidation.collateralRedistributed + liquidation.surplus
  debtOffset : 0 ≤ liquidation.debtOffset
  debtRedistributed : 0 ≤ liquidation.debtRedistributed
  collateralToPool : 0 ≤ liquidation.collateralToPool
  collateralRedistributed : 0 ≤ liquidation.collateralRedistributed
  surplus : 0 ≤ liquidation.surplus
  worth : liquidation.collateralToPool * price ≤ multiple * liquidation.debt

namespace Ledger
variable {terms : Terms ℝ} {ledger left : Ledger ℝ} {liquidator : AccountId} {liquidation : Liquidation ℝ}

/-- The pool loses the debt, short of it by at most the tolerance, and takes in the
    collateral. Every account bears its share of the loss and is owed its share of the
    collateral. -/
structure Cancels (ledger : Ledger ℝ) (debt collateral : ℝ) (left : Ledger ℝ) : Prop where
  lost_le : ledger.totalDeposits - left.totalDeposits ≤ debt
  le_lost : debt - tolerance ≤ ledger.totalDeposits - left.totalDeposits
  borne : tolerance < ledger.totalDeposits → ∀ account, left.deposit account = ledger.deposit account -
    (ledger.totalDeposits - left.totalDeposits) * (ledger.deposit account / ledger.totalDeposits)
  owed : tolerance < ledger.totalDeposits → ∀ account, (left.owed account).collateral =
    (ledger.owed account).collateral + collateral * (ledger.deposit account / ledger.totalDeposits)
  supply : left.supply = ledger.supply - debt
  poolCollateral : left.poolCollateral = ledger.poolCollateral + collateral

theorem offset_deposit (some : tolerance < ledger.totalDeposits) (debt collateral : ℝ) (account : AccountId) :
    (ledger.offset debt collateral).deposit account = ledger.deposit account -
      (ledger.totalDeposits - (ledger.offset debt collateral).totalDeposits) *
        (ledger.deposit account / ledger.totalDeposits) := by
  have held : 0 < ledger.totalDeposits := tolerance_pos.trans some
  have kept : max (1 - debt / ledger.totalDeposits) 0 = max (ledger.totalDeposits - debt) 0 / ledger.totalDeposits := by
    rw [← max_div_div_right held.le, zero_div, sub_div, div_self held.ne']
  have scaled : (ledger.offset debt collateral).deposit account =
      ledger.deposit account * max (1 - debt / ledger.totalDeposits) 0 := by
    rw [offset_of_some some, deposit, deposit, Book.get?_map, Number.max_real]
    cases ledger.deposits.get? account with
    | none => simp
    | some amount => rfl
  rw [scaled, kept, offset_totalDeposits some]
  field_simp
  ring

theorem offset_owed (some : tolerance < ledger.totalDeposits) (debt collateral : ℝ) (account : AccountId) :
    ((ledger.offset debt collateral).owed account).collateral =
      (ledger.owed account).collateral + collateral * (ledger.deposit account / ledger.totalDeposits) := by
  simp only [owed, offset, if_neg (not_le.mpr some)]
  rw [getD_foldl_addTo _ ledger.deposits.ascending]
  simp only [deposit, Book.get?]
  cases ledger.deposits.entries.lookup account with
  | none => simp
  | some amount => rfl

/-- A pool above the tolerance cancels a debt that it covers up to the tolerance. -/
theorem offset_cancels (some : tolerance < ledger.totalDeposits) {debt : ℝ}
    (covered : debt ≤ ledger.totalDeposits + tolerance) (collateral : ℝ) :
    Cancels ledger debt collateral (ledger.offset debt collateral) where
  lost_le := by
    rw [offset_totalDeposits some]
    linarith [le_max_left (ledger.totalDeposits - debt) 0]
  le_lost := by
    rw [offset_totalDeposits some]
    have most : max (ledger.totalDeposits - debt) 0 ≤ ledger.totalDeposits - debt + tolerance :=
      max_le (by linarith [tolerance_pos]) (by linarith)
    linarith
  borne _ := offset_deposit some debt collateral
  owed _ := offset_owed some debt collateral
  supply := by rw [offset_of_some some]
  poolCollateral := by rw [offset_of_some some]

/-- An empty pool is asked for nothing. -/
theorem cancels_nothing (empty : ledger.totalDeposits = 0) : Cancels ledger 0 0 ledger where
  lost_le := (sub_self _).le
  le_lost := by linarith [tolerance_pos]
  borne some := absurd some (by linarith [tolerance_pos])
  owed some := absurd some (by linarith [tolerance_pos])
  supply := (sub_zero _).symm
  poolCollateral := (add_zero _).symm

/-- A pool that is empty or above the tolerance cancels as much of the debt as it covers. -/
theorem offset_cancels_covered (pool : ledger.totalDeposits = 0 ∨ tolerance < ledger.totalDeposits) {trove : Trove ℝ}
    (debt : 0 ≤ trove.debt) :
    Cancels ledger (min trove.debt ledger.totalDeposits)
      (trove.collateral * min trove.debt ledger.totalDeposits / trove.debt)
      (ledger.offset (min trove.debt ledger.totalDeposits)
        (trove.collateral * min trove.debt ledger.totalDeposits / trove.debt)) := by
  rcases pool with empty | some
  · have nothing : min trove.debt ledger.totalDeposits = 0 := by rw [empty, min_eq_right debt]
    rw [nothing, mul_zero, zero_div, offset_of_none (empty.trans_le tolerance_pos.le)]
    exact cancels_nothing empty
  · exact offset_cancels some ((min_le_right _ _).trans (by linarith [tolerance_pos])) _

theorem Cancels.redistribute {mid : Ledger ℝ} {debt collateral : ℝ} (cancels : Cancels ledger debt collateral mid)
    (moreDebt moreCollateral : ℝ) : Cancels ledger debt collateral (mid.redistribute moreDebt moreCollateral) := by
  obtain ⟨troves, spread⟩ := mid.redistribute_eq moreDebt moreCollateral
  rw [spread]
  exact { cancels with }

theorem redistribute_get? (some : tolerance < ledger.totalCollateral) (debt collateral : ℝ) (account : AccountId) :
    (ledger.redistribute debt collateral).troves.get? account =
      (ledger.troves.get? account).map (·.withShare debt collateral ledger.totalCollateral) := by
  rw [redistribute_of_some some, Book.get?_map]
  rfl

theorem settleCapped_partitions {seized : Ledger ℝ} {trove : Trove ℝ} (collateral : 0 ≤ trove.collateral)
    (debt : 0 ≤ trove.debt) (factor : 0 ≤ seized.terms.mcr) (price : 0 < seized.price) (account : AccountId) :
    (seized.settleCapped account trove).1.Partitions seized.price seized.terms.mcr := by
  have worth : 0 ≤ trove.debt * seized.terms.mcr / seized.price := div_nonneg (mul_nonneg debt factor) price.le
  simp only [settleCapped, Number.min_real]
  exact
    { debt := (add_zero _).symm
      collateral := by ring
      debtOffset := debt
      debtRedistributed := le_rfl
      collateralToPool := le_min worth collateral
      collateralRedistributed := le_rfl
      surplus := sub_nonneg.mpr (min_le_right _ _)
      worth := by
        calc min (trove.debt * seized.terms.mcr / seized.price) trove.collateral * seized.price
          _ ≤ trove.debt * seized.terms.mcr / seized.price * seized.price :=
            mul_le_mul_of_nonneg_right (min_le_left _ _) price.le
          _ = seized.terms.mcr * trove.debt := by rw [div_mul_cancel₀ _ price.ne', mul_comm] }

theorem settleInFull_partitions {seized : Ledger ℝ} {trove : Trove ℝ} (collateral : 0 ≤ trove.collateral)
    (debt : 0 < trove.debt) (deposits : 0 ≤ seized.totalDeposits) {multiple : ℝ} (factor : 0 ≤ multiple)
    (worth : trove.collateral * seized.price ≤ multiple * trove.debt) (account : AccountId) :
    (seized.settleInFull account trove).1.Partitions seized.price multiple := by
  have cancelled : 0 ≤ min trove.debt seized.totalDeposits := le_min debt.le deposits
  have taken : trove.collateral * min trove.debt seized.totalDeposits / trove.debt ≤ trove.collateral := by
    rw [div_le_iff₀ debt]
    exact mul_le_mul_of_nonneg_left (min_le_left _ _) collateral
  have part := div_nonneg (mul_nonneg collateral cancelled) debt.le
  simp only [settleInFull, Number.min_real]
  exact
    { debt := by ring
      collateral := by ring
      debtOffset := cancelled
      debtRedistributed := sub_nonneg.mpr (min_le_left _ _)
      collateralToPool := part
      collateralRedistributed := sub_nonneg.mpr taken
      surplus := le_rfl
      worth := by
        rcases le_or_gt 0 seized.price with priced | unpriced
        · exact (mul_le_mul_of_nonneg_right taken priced).trans worth
        · exact (mul_nonpos_of_nonneg_of_nonpos part unpriced.le).trans (mul_nonneg factor debt.le) }

theorem offset_surplus (ledger : Ledger ℝ) (debt collateral : ℝ) :
    (ledger.offset debt collateral).surplus = ledger.surplus := by
  obtain ⟨_, _, _, _, cancelled⟩ := ledger.offset_eq debt collateral
  rw [cancelled]

theorem redistribute_surplus (ledger : Ledger ℝ) (debt collateral : ℝ) :
    (ledger.redistribute debt collateral).surplus = ledger.surplus := by
  obtain ⟨_, spread⟩ := ledger.redistribute_eq debt collateral
  rw [spread]

/-- A liquidated trove is split without loss, and each part goes where it is reported to
    go. -/
structure Splits (ledger : Ledger ℝ) (liquidation : Liquidation ℝ) (left : Ledger ℝ) : Prop where
  taken : ledger.troves.get? liquidation.account = some ⟨liquidation.collateral, liquidation.debt⟩
  parts : liquidation.Partitions ledger.price ledger.terms.mcr
  pool : Cancels ledger liquidation.debtOffset liquidation.collateralToPool left
  others : ∀ account, left.troves.get? account =
    if account = liquidation.account then none
    else (ledger.troves.get? account).map (·.withShare liquidation.debtRedistributed
      liquidation.collateralRedistributed (ledger.totalCollateral - liquidation.collateral))
  surplus : left.surplus = ledger.surplus + liquidation.surplus

/-- The accounts beside the liquidated one keep their troves, each with its share. -/
theorem get?_erase_withShare {account : AccountId} (debt collateral total : ℝ) (other : AccountId) :
    ((ledger.troves.erase account).get? other).map (·.withShare debt collateral total) =
      if other = account then none else (ledger.troves.get? other).map (·.withShare debt collateral total) := by
  rw [Book.get?_erase]
  split <;> rfl

/-- A sound trove at or above the minimum ratio goes to the pool alone, which is not empty
    then. -/
theorem settleCapped_splits (secured : ledger.Secured terms)
    (pool : ledger.totalDeposits = 0 ∨ tolerance < ledger.totalDeposits) {account : AccountId} {trove : Trove ℝ}
    (found : ledger.troves.get? account = some trove) (covered : trove.debt ≤ ledger.totalDeposits + tolerance)
    (safe : ¬ (trove.icr ledger.price).Below (.of ledger.terms.mcr)) :
    Splits ledger ((ledger.seize account liquidator trove).settleCapped account trove).1
      ((ledger.seize account liquidator trove).settleCapped account trove).2 := by
  obtain rfl := secured.terms_eq
  have sound := secured.troves account trove found
  have debt := (sound.indebted secured.secure).le
  have price := sound.price_pos secured.secure safe
  have factor : 0 ≤ ledger.terms.mcr := (zero_lt_one.trans secured.secure.mcr).le
  -- An empty pool does not cover the debt of a sound trove.
  have some : tolerance < ledger.totalDeposits := pool.resolve_left fun empty => by
    linarith [sound.large secured.secure]
  have cancelled := @offset_cancels (ledger.seize account liquidator trove) some trove.debt covered
    (Number.min (trove.debt * ledger.terms.mcr / ledger.price) trove.collateral)
  exact
    { taken := found
      parts := @settleCapped_partitions (ledger.seize account liquidator trove) trove sound.collateral.le debt factor
        price account
      pool := { cancelled with }
      others := fun other => by
        simp only [settleCapped, offset_troves, Trove.withShare_zero, Option.map_id']
        exact Book.get?_erase _ _ _
      surplus := by
        simp only [settleCapped, offset_surplus]
        rfl }

/-- A sound trove below the minimum ratio goes to the pool as far as that covers it, and to
    the other troves. -/
theorem settleInFull_splits (secured : ledger.Secured terms) (deposits : ledger.deposits.Each (0 ≤ ·))
    (pool : ledger.totalDeposits = 0 ∨ tolerance < ledger.totalDeposits) {account : AccountId} {trove : Trove ℝ}
    (found : ledger.troves.get? account = some trove) (rest : tolerance < ledger.totalCollateral - trove.collateral)
    (below : (trove.icr ledger.price).Below (.of ledger.terms.mcr)) :
    Splits ledger ((ledger.seize account liquidator trove).settleInFull account trove).1
      ((ledger.seize account liquidator trove).settleInFull account trove).2 := by
  obtain rfl := secured.terms_eq
  have sound := secured.troves account trove found
  have indebted := sound.indebted secured.secure
  have factor : 0 ≤ ledger.terms.mcr := (zero_lt_one.trans secured.secure.mcr).le
  have total : 0 ≤ ledger.totalDeposits := by
    rw [totalDeposits_eq]
    exact Book.sumOf_nonneg deposits
  have cancelled := @offset_cancels_covered (ledger.seize account liquidator trove) pool trove indebted.le
  have held : tolerance < (ledger.seize account liquidator trove).totalCollateral := by
    rw [seize_totalCollateral found]
    exact rest
  exact
    { taken := found
      parts := @settleInFull_partitions (ledger.seize account liquidator trove) trove sound.collateral.le indebted
        total _ factor (Trove.lt_of_below indebted below).le account
      pool := by
        simp only [settleInFull, Number.min_real]
        exact { cancelled.redistribute _ _ with }
      others := fun other => by
        simp only [settleInFull]
        rw [redistribute_get? (by rwa [offset_totalCollateral]), offset_totalCollateral, seize_totalCollateral found,
          offset_troves]
        exact get?_erase_withShare _ _ _ other
      surplus := by
        simp only [settleInFull, redistribute_surplus, offset_surplus]
        exact (add_zero _).symm }

theorem liquidates_splits (secured : ledger.Secured terms) (deposits : ledger.deposits.Each (0 ≤ ·))
    (liquidates : Liquidates liquidator ledger liquidation left)
    (pool : ledger.totalDeposits = 0 ∨ tolerance < ledger.totalDeposits)
    (rest : tolerance < ledger.totalCollateral - liquidation.collateral) : Splits ledger liquidation left := by
  cases liquidates with
  | capped several worst found eligible recovery safe =>
    exact settleCapped_splits secured pool found (eligible.covered safe) safe
  | inFull several worst found eligible unsecured =>
    exact settleInFull_splits secured deposits pool found rest (eligible.below unsecured)

/-- Every trove that a call liquidates after a run is split without loss, unless a remainder
    is left in the pool or next to no collateral in the other troves. -/
theorem liquidated_splits (secure : terms.Secure) (price : ℝ) (calls : List (Call ℝ)) {count place : Nat}
    {liquidations : List (Liquidation ℝ)}
    (accepted : (((new terms price).after calls).perform (.liquidateTroves liquidator count)).1 =
      .ok (.liquidated liquidations))
    (listed : liquidations[place]? = some liquidation) :
    let before := (((new terms price).after calls).liquidateUpTo liquidator place).2
    let left := (((new terms price).after calls).liquidateUpTo liquidator (place + 1)).2
    before.totalDeposits = 0 ∨ tolerance < before.totalDeposits →
      tolerance < before.totalCollateral - liquidation.collateral → before.Splits liquidation left := by
  intro before left pool rest
  have batch := ((new terms price).after calls).listed_liquidateTroves liquidator count
  rw [accepted, Ledger.listed] at batch
  rw [batch] at listed
  have liquidates : Liquidates liquidator before liquidation left := liquidates_at listed
  have solvent := after_solvent secure price calls
  have chain := liquidateUpTo_chain liquidator place ((new terms price).after calls)
  exact liquidates_splits (solvent.secured.liquidations chain)
    (liquidations_gathers solvent.secured solvent.deposits chain).2 liquidates pool rest

/-! ### A trove that goes two ways -/

theorem shallow_reached : (new Parameters.defaultTerms 1000.0).after drainingCalls.dropLast = shallow := by
  simp only [drainingCalls, List.dropLast, after_cons, lone_opened, lone_joined, pair_provided]
  rfl

theorem shallow_splits :
    let ledger := (new Parameters.defaultTerms 1000.0).after drainingCalls.dropLast
    ∃ liquidation, (ledger.perform (.liquidateTroves 9 1)).1 = .ok (.liquidated [liquidation]) ∧
      liquidation.debtOffset = 1000 ∧ liquidation.debtRedistributed = 1210 ∧
      tolerance < ledger.totalDeposits ∧ tolerance < ledger.totalCollateral - liquidation.collateral ∧
      ledger.Splits liquidation (ledger.liquidateUpTo 9 1).2 := by
  intro ledger
  have reached : ledger = shallow := shallow_reached
  have accepted : (ledger.perform (.liquidateTroves 9 1)).1 =
      .ok (.liquidated [((shallow.seize 8 9 ⟨3.0, 2210.0⟩).settleInFull 8 ⟨3.0, 2210.0⟩).1]) := by
    rw [reached, shallow_liquidated]
  have deposits : tolerance < ledger.totalDeposits := by
    rw [reached]
    norm_num [totalDeposits, shallow, Book.values, Number.tolerance_real]
  have collateral : tolerance < ledger.totalCollateral - 3.0 := by
    rw [reached]
    norm_num [totalCollateral, shallow, pair, Book.values, Number.tolerance_real]
  have deposited : (shallow.seize 8 9 ⟨3.0, 2210.0⟩).totalDeposits = 1000 := by
    norm_num [seize, credit, totalDeposits, shallow, Book.values]
  refine ⟨_, accepted, ?_, ?_, deposits, collateral, ?_⟩
  · simp only [settleInFull, Number.min_real, deposited]
    norm_num
  · simp only [settleInFull, Number.min_real, deposited]
    norm_num
  · exact liquidated_splits defaultTerms_admissible.secure 1000.0 drainingCalls.dropLast accepted
      (List.getElem?_cons_zero) (.inr deposits) collateral

end Ledger
end Stablecoin
