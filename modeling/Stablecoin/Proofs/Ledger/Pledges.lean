import Stablecoin.Proofs.Ledger.Troves

/-!
Collateral behind every debt. Whatever the reserve, the fees and the minimum debt of the
terms are, a trove that is in debt has collateral (`Trove.Pledged`), as long as the
minimum ratio is above one. Borrowing asks for collateral, redistribution gives debt to
collateral only, and a redemption that leaves a debt has drawn less than the trove was
worth. So a liquidation never moves a negative amount of collateral, which is all that the
gains of depositors need of the troves.
-/
namespace Stablecoin
open Number (tolerance tolerance_pos)

/-- A trove in debt has collateral. -/
def Trove.Pledged (trove : Trove ℝ) : Prop := 0 < trove.debt → 0 < trove.collateral

namespace Trove
variable {trove : Trove ℝ} {price : ℝ}

/-- A ratio that lies below anything is one of a debt. -/
theorem indebted_of_below {bound : Ratio ℝ} (below : (trove.icr price).Below bound) : 0 < trove.debt := by
  by_contra free
  rw [icr, if_pos (not_lt.mp free)] at below
  exact below

/-- Only a positive price secures a pledged debt. -/
theorem Pledged.price_pos {minimum : ℝ} (pledged : trove.Pledged) (indebted : 0 < trove.debt)
    (positive : 0 < minimum) (secured : ¬ (trove.icr price).Below (.of minimum)) : 0 < price := by
  have worth := le_of_not_below indebted secured
  have covered : 0 < trove.collateral * price := lt_of_lt_of_le (mul_pos positive indebted) worth
  exact (pos_iff_pos_of_mul_pos covered).mp (pledged indebted)

/-- The collateral that goes with a part of the debt is a part of the collateral. -/
theorem Pledged.part_le (pledged : trove.Pledged) (indebted : 0 < trove.debt) {part : ℝ}
    (within : part ≤ trove.debt) : trove.collateral * part / trove.debt ≤ trove.collateral := by
  rw [div_le_iff₀ indebted]
  exact mul_le_mul_of_nonneg_left within (pledged indebted).le

end Trove

namespace Ledger
variable {terms : Terms ℝ} {ledger left : Ledger ℝ}

/-- The minimum ratio is above one, and every trove in debt has collateral. -/
structure Pledged (ledger : Ledger ℝ) : Prop where
  mcr : 1 < ledger.terms.mcr
  troves : ledger.troves.Each Trove.Pledged

theorem new_pledged (mcr : 1 < terms.mcr) (price : ℝ) : (new terms price).Pledged where
  mcr := mcr
  troves := Book.each_empty _

theorem Secured.pledged (secured : ledger.Secured terms) : ledger.Pledged where
  mcr := by rw [secured.terms_eq]; exact secured.secure.mcr
  troves account trove found := fun _ => (secured.troves account trove found).collateral

/-- A trove that may go is in debt. -/
theorem Liquidatable.indebted {trove : Trove ℝ} (eligible : ledger.Liquidatable trove) : 0 < trove.debt := by
  rcases eligible with below | ⟨_, below, _⟩ <;> exact Trove.indebted_of_below below

theorem Pledged.seize (pledged : ledger.Pledged) (account liquidator : AccountId) (trove : Trove ℝ) :
    (ledger.seize account liquidator trove).Pledged :=
  { pledged with troves := pledged.troves.erase account }

theorem Pledged.offset (pledged : ledger.Pledged) (debt collateral : ℝ) : (ledger.offset debt collateral).Pledged := by
  obtain ⟨_, _, _, _, changed⟩ := ledger.offset_eq debt collateral
  rw [changed]
  exact { pledged with }

theorem Pledged.redistribute (pledged : ledger.Pledged) {debt collateral : ℝ} (debt_nonneg : 0 ≤ debt)
    (collateral_nonneg : 0 ≤ collateral) : (ledger.redistribute debt collateral).Pledged := by
  rcases le_or_gt ledger.totalCollateral tolerance with none | some
  · rwa [redistribute_of_none none]
  · have held : 0 < ledger.totalCollateral := tolerance_pos.trans some
    rw [redistribute_of_some some]
    refine { pledged with troves := pledged.troves.map fun trove covered indebted => ?_ }
    dsimp only at indebted ⊢
    have collateral : 0 < trove.collateral := by
      by_contra none
      -- Without collateral the trove is given no debt, and had none.
      have free : trove.debt ≤ 0 := not_lt.mp fun owing => none (covered owing)
      have share := div_nonpos_of_nonpos_of_nonneg (not_lt.mp none) held.le
      linarith [mul_nonpos_of_nonneg_of_nonpos debt_nonneg share]
    exact add_pos_of_pos_of_nonneg collateral (mul_nonneg collateral_nonneg (div_pos collateral held).le)

theorem Pledged.liquidates (pledged : ledger.Pledged) {liquidator : AccountId} {liquidation : Liquidation ℝ}
    (liquidates : Liquidates liquidator ledger liquidation left) : left.Pledged := by
  cases liquidates with
  | @capped account icr trove several worst found eligible recovery unsecured =>
    exact { (pledged.seize account liquidator trove).offset _ _ with }
  | @inFull account icr trove several worst found eligible unsecured =>
    have covered := pledged.troves account trove found
    have seized := pledged.seize account liquidator trove
    simp only [settleInFull, Number.min_real]
    have within : min trove.debt (ledger.seize account liquidator trove).totalDeposits ≤ trove.debt := min_le_left _ _
    exact (seized.offset _ _).redistribute (sub_nonneg.mpr within)
      (sub_nonneg.mpr (covered.part_le eligible.indebted within))

theorem Pledged.liquidations (pledged : ledger.Pledged) {liquidator : AccountId}
    {liquidations : List (Liquidation ℝ)} (chain : Liquidations liquidator ledger liquidations left) : left.Pledged := by
  induction chain with
  | none ledger => exact pledged
  | next first later ih => exact ih (pledged.liquidates first)

namespace Walk
variable {walk next : Walk ℝ} {trove : Trove ℝ}

/-- What a trove keeps that stays open, if it is a debt, has collateral behind it. -/
theorem kept_pledged (mcr : 1 < walk.ledger.terms.mcr) (pledged : trove.Pledged)
    (wanted : ¬ walk.remaining ≤ tolerance)
    (eligible : ¬ (trove.icr walk.ledger.price).Below (.of walk.ledger.terms.mcr))
    (stays : ¬ walk.kept trove ≤ tolerance) :
    Trove.Pledged ⟨trove.collateral - walk.share trove / walk.ledger.price, trove.debt - walk.share trove⟩ := by
  intro indebted
  dsimp only at indebted ⊢
  have all : walk.share trove = walk.remaining := by
    rw [kept, share, Number.min_real] at stays
    rw [share, Number.min_real]
    refine min_eq_left ?_
    by_contra more
    rw [min_eq_right (not_le.mp more).le, sub_self] at stays
    exact stays tolerance_pos.le
  have some : 0 < walk.share trove := all ▸ tolerance_pos.trans (not_le.mp wanted)
  have owing : 0 < trove.debt := by linarith
  have worth := Trove.le_of_not_below owing eligible
  have more : trove.debt < walk.ledger.terms.mcr * trove.debt := lt_mul_of_one_lt_left owing mcr
  have drawn : walk.share trove / walk.ledger.price < trove.collateral := by
    rw [div_lt_iff₀ (pledged.price_pos owing (zero_lt_one.trans mcr) eligible)]
    linarith
  exact sub_pos.mpr drawn

theorem step_pledged (step : Step walk next) (pledged : walk.ledger.Pledged) : next.ledger.Pledged := by
  cases step with
  | @take account trove wanted found eligible noDust =>
    by_cases closes : walk.kept trove ≤ tolerance
    · simp only [Walk.take, if_pos closes]
      exact { pledged with troves := pledged.troves.erase account }
    · have left := kept_pledged pledged.mcr (pledged.troves account trove found) wanted eligible closes
      simp only [Walk.take, if_neg closes]
      exact { pledged with troves := pledged.troves.insert account left }

end Walk

theorem Walked.pledged {redeemer : AccountId} {amount : ℝ} {walk : Walk ℝ}
    (walked : Walked ledger redeemer amount walk) (pledged : ledger.Pledged) : walk.ledger.Pledged :=
  walked.keeps (motive := fun walk => walk.ledger.Pledged) pledged fun _ _ kept step => Walk.step_pledged step kept

theorem Pledged.redeems (pledged : ledger.Pledged) {redeemer : AccountId} {amount : ℝ}
    {result : Except (Refusal ℝ) (Redemption ℝ)} (redeems : Redeems ledger redeemer amount result left) :
    left.Pledged := by
  cases redeems with
  | refused refusal => exact pledged
  | nothing walked dust => exact walked.pledged pledged
  | short walked something uncovered => exact walked.pledged pledged
  | accepted walked something debited baseRate_eq fee_eq =>
    have kept := walked.pledged pledged
    obtain ⟨_, rfl⟩ := debit_ok debited
    exact { kept with }

theorem Pledged.opened (pledged : ledger.Pledged) {account : AccountId} {collateral netDebt : ℝ}
    {change : TroveChange ℝ} (opening : Opening ledger account collateral netDebt change left) : left.Pledged := by
  have positive : 0 < collateral := not_le.mp (not_or.mp opening.collateral_proper).1
  rw [opening.left_eq]
  exact { pledged with troves := pledged.troves.insert account fun _ => positive }

theorem Pledged.adjusted (pledged : ledger.Pledged) {account : AccountId} {collateralDelta debtDelta : ℝ}
    {trove : Trove ℝ} {change : TroveChange ℝ}
    (adjustment : Adjustment ledger account collateralDelta debtDelta trove change left) : left.Pledged := by
  have positive : 0 < trove.collateral + collateralDelta :=
    tolerance_pos.trans (not_le.mp adjustment.collateral_proper)
  rw [adjustment.left_eq]
  exact { pledged with troves := pledged.troves.insert account fun _ => positive }

theorem perform_pledged (call : Call ℝ) (pledged : ledger.Pledged) : (ledger.perform call).2.Pledged := by
  have performs := ledger.perform_performs call
  generalize (ledger.perform call).1 = answer at performs
  generalize (ledger.perform call).2 = left at performs ⊢
  cases performs with
  | priceSet price => exact { pledged with }
  | periodPassed => exact { pledged with }
  | opened opening => exact pledged.opened opening
  | closed closing =>
    rw [closing.left_eq]
    exact { pledged with troves := pledged.troves.erase _ }
  | adjusted adjustment => exact pledged.adjusted adjustment
  | liquidated something batch => exact pledged.liquidations (liquidations_of_batch batch)
  | redeemed redeems => exact pledged.redeems redeems
  | provided accepted =>
    obtain ⟨_, paid, debited, rfl⟩ := provide_ok accepted
    obtain ⟨_, rfl⟩ := debit_ok debited
    exact { pledged with }
  | withdrawn withdrawal =>
    rw [withdrawal.left_eq]
    exact { pledged with }
  | claimed owed => exact { pledged with }
  | issued amount =>
    unfold issueRewards
    dsimp only
    split <;> exact { pledged with }
  | transferred accepted =>
    obtain ⟨_, paid, debited, rfl⟩ := transfer_ok accepted
    obtain ⟨_, rfl⟩ := debit_ok debited
    exact { pledged with }
  | refused notRedeem refusal => exact pledged

end Ledger
end Stablecoin
