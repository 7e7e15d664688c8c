import Stablecoin.Proofs.Ledger.WellFormed

namespace Stablecoin.Ledger
open Number (tolerance tolerance_pos)
variable {terms : Terms ℝ} {ledger left : Ledger ℝ}

theorem totalCollateral_of_troves (same : left.troves = ledger.troves) :
    left.totalCollateral = ledger.totalCollateral := by
  rw [totalCollateral, same, totalCollateral]

theorem openTrove_collateral {account : AccountId} {collateral netDebt : ℝ} {change : TroveChange ℝ}
    (accepted : ledger.openTrove account collateral netDebt = .ok (change, left)) :
    0 < collateral ∧ left.totalCollateral = ledger.totalCollateral + collateral := by
  have opening := openTrove_ok accepted
  have changed := opening.changes.collateral
  rw [opening.collateral_eq] at changed
  exact ⟨not_le.mp (not_or.mp opening.collateral_proper).1, changed⟩

theorem adjustTrove_collateral {account : AccountId} {collateralDelta debtDelta : ℝ} {change : TroveChange ℝ}
    (accepted : ledger.adjustTrove account collateralDelta debtDelta = .ok (change, left)) :
    left.totalCollateral = ledger.totalCollateral + collateralDelta := by
  obtain ⟨trove, adjustment⟩ := adjustTrove_ok accepted
  rw [adjustment.changes.collateral, adjustment.collateral_eq]

theorem closeTrove_collateral (wellFormed : ledger.WellFormed) {account : AccountId} {change : TroveChange ℝ}
    (accepted : ledger.closeTrove account = .ok (change, left)) : left.totalCollateral ≤ ledger.totalCollateral := by
  obtain ⟨trove, closing⟩ := closeTrove_ok accepted
  have sound := wellFormed.troves account trove closing.found
  rw [closing.changes.collateral, closing.change_eq]
  linarith [sound.collateral]

theorem seize_totalCollateral {account : AccountId} {trove : Trove ℝ} (found : ledger.troves.get? account = some trove)
    (liquidator : AccountId) :
    (ledger.seize account liquidator trove).totalCollateral = ledger.totalCollateral - trove.collateral := by
  rw [totalCollateral_eq, totalCollateral_eq]
  exact Book.sumOf_erase_found _ found

theorem offset_totalCollateral (ledger : Ledger ℝ) (debt collateral : ℝ) :
    (ledger.offset debt collateral).totalCollateral = ledger.totalCollateral :=
  totalCollateral_of_troves (ledger.offset_troves debt collateral)

/-- The troves take no more than the collateral that is spread over them. -/
theorem redistribute_totalCollateral_le (ledger : Ledger ℝ) (debt : ℝ) {collateral : ℝ} (nonneg : 0 ≤ collateral) :
    (ledger.redistribute debt collateral).totalCollateral ≤ ledger.totalCollateral + collateral := by
  rcases le_or_gt ledger.totalCollateral tolerance with none | some
  · rw [redistribute_of_none none]
    exact le_add_of_nonneg_right nonneg
  · have held : ledger.totalCollateral ≠ 0 := (tolerance_pos.trans some).ne'
    have share (trove : Trove ℝ) : trove.collateral + collateral * (trove.collateral / ledger.totalCollateral) =
        trove.collateral + trove.collateral * (collateral / ledger.totalCollateral) := by ring
    rw [redistribute_of_some some, totalCollateral_eq, Book.sumOf_map]
    simp only [Function.comp_def, share, Book.sumOf_add, Book.sumOf_mul_const, ← totalCollateral_eq]
    rw [mul_div_cancel₀ collateral held]

/-- The pool alone takes no more than the trove held. -/
theorem settleCapped_collateral (seized : Ledger ℝ) (account : AccountId) {trove : Trove ℝ}
    (collateral : 0 ≤ trove.collateral) (multiple : 0 ≤ trove.debt * seized.terms.mcr / seized.price) :
    0 ≤ (seized.settleCapped account trove).1.collateralToPool ∧
      (seized.settleCapped account trove).2.totalCollateral +
          (seized.settleCapped account trove).1.collateralToPool ≤ seized.totalCollateral + trove.collateral := by
  have same : (seized.settleCapped account trove).2.totalCollateral = seized.totalCollateral :=
    offset_totalCollateral _ _ _
  rw [same]
  simp only [settleCapped, Number.min_real]
  exact ⟨le_min multiple collateral, add_le_add le_rfl (min_le_right _ _)⟩

/-- The pool and the other troves together take no more than the trove held. -/
theorem settleInFull_collateral (seized : Ledger ℝ) (account : AccountId) {trove : Trove ℝ} {terms : Terms ℝ}
    (secure : terms.Secure) (sound : trove.Sound terms) (deposits : 0 ≤ seized.totalDeposits) :
    0 ≤ (seized.settleInFull account trove).1.collateralToPool ∧
      (seized.settleInFull account trove).2.totalCollateral +
          (seized.settleInFull account trove).1.collateralToPool ≤ seized.totalCollateral + trove.collateral := by
  have indebted := sound.indebted secure
  have within : min trove.debt seized.totalDeposits ≤ trove.debt := min_le_left _ _
  have nonneg : 0 ≤ min trove.debt seized.totalDeposits := le_min indebted.le deposits
  simp only [settleInFull, Number.min_real]
  generalize min trove.debt seized.totalDeposits = cancelled at within nonneg ⊢
  have spread := redistribute_totalCollateral_le
    (seized.offset cancelled (trove.collateral * cancelled / trove.debt)) (trove.debt - cancelled)
    (sub_nonneg.mpr (sound.part_le secure within))
  rw [offset_totalCollateral] at spread
  exact ⟨div_nonneg (mul_nonneg sound.collateral.le nonneg) indebted.le, by linarith⟩

/-- What the pool takes of a trove, and what the others take, the troves lose together. -/
theorem liquidates_collateral (wellFormed : ledger.WellFormed) {liquidator : AccountId} {liquidation : Liquidation ℝ}
    (liquidates : Liquidates liquidator ledger liquidation left) :
    0 ≤ liquidation.collateralToPool ∧
      left.totalCollateral + liquidation.collateralToPool ≤ ledger.totalCollateral := by
  cases liquidates with
  | @capped account icr trove several worst found eligible recovery secured =>
    have sound := wellFormed.troves account trove found
    have price_pos := sound.price_pos wellFormed.secure secured
    have factor : 0 ≤ ledger.terms.mcr := by linarith [wellFormed.admissible.mcr]
    have multiple : 0 ≤ trove.debt * ledger.terms.mcr / ledger.price :=
      div_nonneg (mul_nonneg (sound.indebted wellFormed.secure).le factor) price_pos.le
    have settled := settleCapped_collateral (ledger.seize account liquidator trove) account sound.collateral.le multiple
    rwa [seize_totalCollateral found, sub_add_cancel] at settled
  | @inFull account icr trove several worst found eligible unsecured =>
    have sound := wellFormed.troves account trove found
    have deposits : 0 ≤ (ledger.seize account liquidator trove).totalDeposits := wellFormed.totalDeposits_nonneg
    have settled := settleInFull_collateral (ledger.seize account liquidator trove) account wellFormed.secure sound
      deposits
    rwa [seize_totalCollateral found, sub_add_cancel] at settled

theorem liquidations_collateral (wellFormed : ledger.WellFormed) {liquidator : AccountId}
    {liquidations : List (Liquidation ℝ)} (chain : Liquidations liquidator ledger liquidations left) :
    0 ≤ (liquidations.map (·.collateralToPool)).sum ∧
      left.totalCollateral + (liquidations.map (·.collateralToPool)).sum ≤ ledger.totalCollateral := by
  induction chain with
  | none ledger => simp
  | next first later ih =>
    obtain ⟨taken, lost⟩ := liquidates_collateral wellFormed first
    obtain ⟨more, gone⟩ := ih (wellFormed.liquidates first)
    rw [List.map_cons, List.sum_cons]
    exact ⟨add_nonneg taken more, by linarith⟩

theorem Walk.step_totalCollateral {walk next : Walk ℝ} (step : Walk.Step walk next)
    (secured : walk.ledger.Secured terms) : next.ledger.totalCollateral ≤ walk.ledger.totalCollateral := by
  cases step with
  | @take account trove wanted found eligible noDust =>
    obtain rfl := secured.terms_eq
    have sound := secured.troves account trove found
    have price_pos := sound.price_pos secured.secure eligible
    have some := walk.lt_share secured.secure wanted sound
    have drawn : 0 < walk.share trove / walk.ledger.price := div_pos (tolerance_pos.trans some) price_pos
    by_cases closes : walk.kept trove ≤ tolerance
    · simp only [Walk.take, if_pos closes]
      rw [totalCollateral_eq, totalCollateral_eq, Book.sumOf_erase_found _ found]
      exact sub_le_self _ sound.collateral.le
    · simp only [Walk.take, if_neg closes]
      rw [totalCollateral_eq, totalCollateral_eq, Book.sumOf_insert_found _ found]
      linarith

theorem Secured.redeems_collateral (secured : ledger.Secured terms) {redeemer : AccountId} {amount : ℝ}
    {result : Except (Refusal ℝ) (Redemption ℝ)} (redeems : Redeems ledger redeemer amount result left) :
    left.totalCollateral ≤ ledger.totalCollateral := by
  have along {walk : Walk ℝ} (walked : Walked ledger redeemer amount walk) :
      walk.ledger.Secured terms ∧ walk.ledger.totalCollateral ≤ ledger.totalCollateral := by
    refine walked.keeps (motive := fun walk =>
      walk.ledger.Secured terms ∧ walk.ledger.totalCollateral ≤ ledger.totalCollateral) ⟨secured, le_rfl⟩ ?_
    intro walk next kept step
    exact ⟨Walk.step_secured step kept.1, (Walk.step_totalCollateral step kept.1).trans kept.2⟩
  cases redeems with
  | refused refusal => exact le_rfl
  | nothing walked dust => exact (along walked).2
  | short walked something uncovered => exact (along walked).2
  | accepted walked something debited baseRate_eq fee_eq =>
    obtain ⟨_, rfl⟩ := debit_ok debited
    exact (along walked).2

end Stablecoin.Ledger
