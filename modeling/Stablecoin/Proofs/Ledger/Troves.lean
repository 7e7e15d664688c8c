import Stablecoin.Proofs.Ledger.Runs
import Stablecoin.Proofs.Ledger.Totals

/-!
The troves under secure terms. Every trove keeps collateral and at least the minimum net
debt over its gas reserve (`Trove.Sound`), whatever calls are made at whatever prices.
Borrowing checks the debt that it leaves and charges no negative fee; redistribution only
adds; a redemption takes no more from a trove than its net debt, which the collateral is
worth, and leaves none with a smaller debt. That the terms stay as they are and the base
rate does not fall below zero is part of the same invariant (`Secured`), which asks
nothing of the half-life of the base rate.
-/
namespace Stablecoin
open Number (tolerance tolerance_pos)

/-- The trove has collateral, and debt for its gas reserve and the minimum net debt. -/
structure Trove.Sound (terms : Terms ℝ) (trove : Trove ℝ) : Prop where
  collateral : 0 < trove.collateral
  debt : terms.gasCompensation + terms.minNetDebt - tolerance ≤ trove.debt

namespace Trove.Sound
variable {terms : Terms ℝ} {trove : Trove ℝ}

theorem net (sound : trove.Sound terms) (secure : terms.Secure) : tolerance < trove.debt - terms.gasCompensation := by
  have floor := sound.debt
  have minimum := secure.minNetDebt
  linarith

theorem large (sound : trove.Sound terms) (secure : terms.Secure) : tolerance < trove.debt := by
  have net := sound.net secure
  have gas := secure.gas
  linarith

theorem indebted (sound : trove.Sound terms) (secure : terms.Secure) : 0 < trove.debt :=
  tolerance_pos.trans (sound.large secure)

/-- The gas reserve of a sound trove is a whole one. -/
theorem gas_eq (sound : trove.Sound terms) (secure : terms.Secure) :
    Number.min terms.gasCompensation trove.debt = terms.gasCompensation := by
  have net := sound.net secure
  have small := tolerance_pos
  rw [Number.min_real]
  exact min_eq_left (by linarith)

/-- Only a positive price secures a sound trove. -/
theorem price_pos {price : ℝ} (sound : trove.Sound terms) (secure : terms.Secure)
    (secured : ¬ (trove.icr price).Below (.of terms.mcr)) : 0 < price := by
  have indebted := sound.indebted secure
  have worth := Trove.le_of_not_below indebted secured
  have positive : 0 < trove.collateral * price := lt_of_lt_of_le (mul_pos (by linarith [secure.mcr]) indebted) worth
  exact (pos_iff_pos_of_mul_pos positive).mp sound.collateral

/-- The collateral that goes with a part of the debt is a part of the collateral. -/
theorem part_le (sound : trove.Sound terms) (secure : terms.Secure) {part : ℝ} (within : part ≤ trove.debt) :
    trove.collateral * part / trove.debt ≤ trove.collateral := by
  rw [div_le_iff₀ (sound.indebted secure)]
  exact mul_le_mul_of_nonneg_left within sound.collateral.le

end Trove.Sound

namespace Ledger
variable {terms : Terms ℝ} {ledger left : Ledger ℝ}

/-- The ledger is under the terms, which are secure, and so is every trove of it. -/
structure Secured (ledger : Ledger ℝ) (terms : Terms ℝ) : Prop where
  terms_eq : ledger.terms = terms
  secure : terms.Secure
  troves : ledger.troves.Each (Trove.Sound terms)
  baseRate_nonneg : 0 ≤ ledger.baseRate

theorem new_secured (secure : terms.Secure) (price : ℝ) : (new terms price).Secured terms where
  terms_eq := rfl
  secure := secure
  troves := Book.each_empty _
  baseRate_nonneg := le_rfl

/-- A ledger with the same terms, troves and base rate is secured as well. -/
theorem Secured.of_eq (secured : ledger.Secured terms) (sameTerms : left.terms = ledger.terms)
    (sameTroves : left.troves = ledger.troves) (sameRate : left.baseRate = ledger.baseRate) : left.Secured terms where
  terms_eq := sameTerms.trans secured.terms_eq
  secure := secured.secure
  troves := by rw [sameTroves]; exact secured.troves
  baseRate_nonneg := by rw [sameRate]; exact secured.baseRate_nonneg

theorem Secured.borrowingRate_nonneg (secured : ledger.Secured terms) : 0 ≤ ledger.borrowingRate := by
  obtain rfl := secured.terms_eq
  have floor := secured.secure.borrowingFeeFloor
  have base := secured.baseRate_nonneg
  rw [borrowingRate, Number.min_real]
  exact le_min (by linarith) secured.secure.maxBorrowingFee

theorem Secured.debt_nonneg (secured : ledger.Secured terms) : ledger.troves.Each (0 ≤ ·.debt) :=
  fun id trove found => ((secured.troves id trove found).indebted secured.secure).le

theorem Secured.collateral_nonneg (secured : ledger.Secured terms) : ledger.troves.Each (0 ≤ ·.collateral) :=
  fun id trove found => (secured.troves id trove found).collateral.le

theorem Secured.debt_le_totalDebt (secured : ledger.Secured terms) {account : AccountId} {trove : Trove ℝ}
    (found : ledger.troves.get? account = some trove) : trove.debt ≤ ledger.totalDebt := by
  rw [totalDebt_eq]
  exact Book.le_sumOf secured.debt_nonneg found

theorem Secured.totalCollateral_nonneg (secured : ledger.Secured terms) : 0 ≤ ledger.totalCollateral := by
  rw [totalCollateral_eq]
  exact Book.sumOf_nonneg secured.collateral_nonneg

theorem Opening.fee_nonneg {account : AccountId} {collateral netDebt : ℝ} {change : TroveChange ℝ}
    (opening : Opening ledger account collateral netDebt change left) (secured : ledger.Secured terms) :
    0 ≤ change.fee := by
  obtain rfl := secured.terms_eq
  have minimum := secured.secure.minNetDebt
  have enough := not_lt.mp (not_or.mp opening.netDebt_proper).2
  rw [opening.fee_eq]
  split
  · exact le_rfl
  · exact mul_nonneg (by linarith [tolerance_pos]) secured.borrowingRate_nonneg

theorem Opening.trove_sound {account : AccountId} {collateral netDebt : ℝ} {change : TroveChange ℝ}
    (opening : Opening ledger account collateral netDebt change left) (secured : ledger.Secured terms) :
    Trove.Sound terms ⟨collateral, change.debt⟩ := by
  have fee := opening.fee_nonneg secured
  have enough := not_lt.mp (not_or.mp opening.netDebt_proper).2
  have debt := opening.debt_eq
  rw [secured.terms_eq] at enough debt
  exact ⟨not_le.mp (not_or.mp opening.collateral_proper).1, by linarith⟩

theorem Secured.opened (secured : ledger.Secured terms) {account : AccountId} {collateral netDebt : ℝ}
    {change : TroveChange ℝ} (opening : Opening ledger account collateral netDebt change left) :
    left.Secured terms := by
  have sound := opening.trove_sound secured
  rw [opening.left_eq]
  exact { secured with troves := secured.troves.insert account sound }

theorem Secured.closed (secured : ledger.Secured terms) {account : AccountId} {trove : Trove ℝ}
    {change : TroveChange ℝ} (closing : Closing ledger account trove change left) : left.Secured terms := by
  rw [closing.left_eq]
  exact { secured with troves := secured.troves.erase account }

theorem Adjustment.fee_nonneg {account : AccountId} {collateralDelta debtDelta : ℝ} {trove : Trove ℝ}
    {change : TroveChange ℝ} (adjustment : Adjustment ledger account collateralDelta debtDelta trove change left)
    (secured : ledger.Secured terms) : 0 ≤ change.fee := by
  rw [adjustment.fee_eq]
  split
  · rename_i draws
    exact mul_nonneg draws.1.le secured.borrowingRate_nonneg
  · exact le_rfl

theorem Adjustment.trove_sound {account : AccountId} {collateralDelta debtDelta : ℝ} {trove : Trove ℝ}
    {change : TroveChange ℝ} (adjustment : Adjustment ledger account collateralDelta debtDelta trove change left) :
    Trove.Sound ledger.terms ⟨trove.collateral + collateralDelta, trove.debt + debtDelta + change.fee⟩ := by
  have kept := not_lt.mp adjustment.netDebt_proper
  exact ⟨tolerance_pos.trans (not_le.mp adjustment.collateral_proper), by linarith⟩

theorem Secured.adjusted (secured : ledger.Secured terms) {account : AccountId} {collateralDelta debtDelta : ℝ}
    {trove : Trove ℝ} {change : TroveChange ℝ}
    (adjustment : Adjustment ledger account collateralDelta debtDelta trove change left) : left.Secured terms := by
  have sound := adjustment.trove_sound
  rw [secured.terms_eq] at sound
  rw [adjustment.left_eq]
  exact { secured with troves := secured.troves.insert account sound }

theorem Secured.seize (secured : ledger.Secured terms) (account liquidator : AccountId) (trove : Trove ℝ) :
    (ledger.seize account liquidator trove).Secured terms :=
  { secured with troves := secured.troves.erase account }

theorem Secured.offset (secured : ledger.Secured terms) (debt collateral : ℝ) :
    (ledger.offset debt collateral).Secured terms := by
  obtain ⟨_, _, _, _, changed⟩ := ledger.offset_eq debt collateral
  rw [changed]
  exact { secured with }

/-- What the troves are given leaves them sound. -/
theorem redistribute_sound (troves : ledger.troves.Each (Trove.Sound terms)) {debt collateral : ℝ}
    (debt_nonneg : 0 ≤ debt) (collateral_nonneg : 0 ≤ collateral) :
    (ledger.redistribute debt collateral).troves.Each (Trove.Sound terms) := by
  rcases le_or_gt ledger.totalCollateral tolerance with none | some
  · rwa [redistribute_of_none none]
  · have held : 0 < ledger.totalCollateral := tolerance_pos.trans some
    rw [redistribute_of_some some]
    refine troves.map ?_
    intro trove sound
    have share := div_pos sound.collateral held
    exact
      { collateral := add_pos_of_pos_of_nonneg sound.collateral (mul_nonneg collateral_nonneg share.le)
        debt := le_add_of_le_of_nonneg sound.debt (mul_nonneg debt_nonneg share.le) }

theorem Secured.redistribute (secured : ledger.Secured terms) {debt collateral : ℝ} (debt_nonneg : 0 ≤ debt)
    (collateral_nonneg : 0 ≤ collateral) : (ledger.redistribute debt collateral).Secured terms := by
  have troves := redistribute_sound secured.troves debt_nonneg collateral_nonneg
  obtain ⟨_, changed⟩ := ledger.redistribute_eq debt collateral
  rw [changed] at troves ⊢
  exact { secured with troves }

theorem Secured.liquidates (secured : ledger.Secured terms) {liquidator : AccountId} {liquidation : Liquidation ℝ}
    (liquidates : Liquidates liquidator ledger liquidation left) : left.Secured terms := by
  cases liquidates with
  | @capped account icr trove several worst found eligible recovery unsecured =>
    exact { (secured.seize account liquidator trove).offset _ _ with }
  | @inFull account icr trove several worst found eligible unsecured =>
    have sound := secured.troves account trove found
    have seized := secured.seize account liquidator trove
    simp only [settleInFull, Number.min_real]
    have within : min trove.debt (ledger.seize account liquidator trove).totalDeposits ≤ trove.debt := min_le_left _ _
    exact (seized.offset _ _).redistribute (sub_nonneg.mpr within)
      (sub_nonneg.mpr (sound.part_le secured.secure within))

theorem Secured.liquidations (secured : ledger.Secured terms) {liquidator : AccountId}
    {liquidations : List (Liquidation ℝ)} (chain : Liquidations liquidator ledger liquidations left) :
    left.Secured terms := by
  induction chain with
  | none ledger => exact secured
  | next first later ih => exact ih (secured.liquidates first)

namespace Walk
variable {walk next : Walk ℝ} {trove : Trove ℝ}

theorem share_le_remaining (walk : Walk ℝ) (trove : Trove ℝ) : walk.share trove ≤ walk.remaining := by
  rw [share, Number.min_real]
  exact min_le_left _ _

theorem share_le_net (walk : Walk ℝ) (trove : Trove ℝ) :
    walk.share trove ≤ trove.debt - walk.ledger.terms.gasCompensation := by
  rw [share, Number.min_real]
  exact min_le_right _ _

/-- Every step takes more than the tolerance. -/
theorem lt_share (secure : walk.ledger.terms.Secure) (wanted : ¬ walk.remaining ≤ tolerance)
    (sound : trove.Sound walk.ledger.terms) : tolerance < walk.share trove := by
  rw [share, Number.min_real]
  exact lt_min (not_le.mp wanted) (sound.net secure)

/-- A trove that a walk takes from keeps collateral, for it was secured above its debt. -/
theorem drawn_lt_collateral (secure : walk.ledger.terms.Secure) (sound : trove.Sound walk.ledger.terms)
    (eligible : ¬ (trove.icr walk.ledger.price).Below (.of walk.ledger.terms.mcr)) :
    walk.share trove / walk.ledger.price < trove.collateral := by
  have indebted := sound.indebted secure
  have worth := Trove.le_of_not_below indebted eligible
  have more : trove.debt < walk.ledger.terms.mcr * trove.debt := lt_mul_of_one_lt_left indebted secure.mcr
  have within := walk.share_le_net trove
  rw [div_lt_iff₀ (sound.price_pos secure eligible)]
  linarith [secure.gas]

/-- A trove that stays open keeps the minimum net debt. -/
theorem kept_sound (secure : walk.ledger.terms.Secure) (sound : trove.Sound walk.ledger.terms)
    (eligible : ¬ (trove.icr walk.ledger.price).Below (.of walk.ledger.terms.mcr))
    (noDust : ¬ (tolerance < walk.kept trove ∧ walk.kept trove + tolerance < walk.ledger.terms.minNetDebt))
    (stays : ¬ walk.kept trove ≤ tolerance) :
    Trove.Sound walk.ledger.terms
      ⟨trove.collateral - walk.share trove / walk.ledger.price, trove.debt - walk.share trove⟩ := by
  have drawn := walk.drawn_lt_collateral secure sound eligible
  have enough : walk.ledger.terms.minNetDebt ≤ walk.kept trove + tolerance := by
    by_contra short
    exact noDust ⟨not_le.mp stays, not_le.mp short⟩
  rw [kept] at enough
  exact ⟨sub_pos.mpr drawn, by linarith⟩

theorem step_secured (step : Step walk next) (secured : walk.ledger.Secured terms) : next.ledger.Secured terms := by
  cases step with
  | @take account trove wanted found eligible noDust =>
    obtain rfl := secured.terms_eq
    have sound := secured.troves account trove found
    by_cases closes : walk.kept trove ≤ tolerance
    · simp only [Walk.take, if_pos closes]
      exact { secured with troves := secured.troves.erase account }
    · simp only [Walk.take, if_neg closes]
      exact
        { secured with
          troves := secured.troves.insert account (kept_sound secured.secure sound eligible noDust closes) }

theorem step_redeemed (step : Step walk next) (secured : walk.ledger.Secured terms) :
    walk.taken.redeemed ≤ next.taken.redeemed := by
  cases step with
  | @take account trove wanted found eligible noDust =>
    obtain rfl := secured.terms_eq
    have some := walk.lt_share secured.secure wanted (secured.troves account trove found)
    exact le_add_of_nonneg_right (tolerance_pos.trans some).le

end Walk

/-- A walk leaves the ledger secured, and has redeemed nothing negative. -/
theorem Walked.secured {redeemer : AccountId} {amount : ℝ} {walk : Walk ℝ}
    (walked : Walked ledger redeemer amount walk) (secured : ledger.Secured terms) :
    walk.ledger.Secured terms ∧ 0 ≤ walk.taken.redeemed := by
  refine walked.keeps (motive := fun walk => walk.ledger.Secured terms ∧ 0 ≤ walk.taken.redeemed)
    ⟨secured, le_rfl⟩ ?_
  intro walk next kept step
  exact ⟨Walk.step_secured step kept.1, kept.2.trans (Walk.step_redeemed step kept.1)⟩

theorem Secured.redeems (secured : ledger.Secured terms) {redeemer : AccountId} {amount : ℝ}
    {result : Except (Refusal ℝ) (Redemption ℝ)} (redeems : Redeems ledger redeemer amount result left) :
    left.Secured terms := by
  cases redeems with
  | refused refusal => exact secured
  | nothing walked dust => exact (walked.secured secured).1
  | short walked something uncovered => exact (walked.secured secured).1
  | @accepted walk paid baseRate fee walked something debited baseRate_eq fee_eq =>
    obtain ⟨kept, redeemed⟩ := walked.secured secured
    obtain ⟨_, rfl⟩ := debit_ok debited
    refine { kept with baseRate_nonneg := ?_ }
    obtain rfl := secured.terms_eq
    rw [baseRate_eq]
    split
    · rename_i supplied
      have raise : 0 ≤ walk.taken.redeemed / ledger.supply / ledger.terms.redemptionBeta :=
        div_nonneg (div_nonneg redeemed (tolerance_pos.trans supplied).le) secured.secure.redemptionBeta.le
      rw [Number.min_real]
      exact le_min (add_nonneg kept.baseRate_nonneg raise) zero_le_one
    · exact kept.baseRate_nonneg

theorem perform_secured (call : Call ℝ) (secured : ledger.Secured terms) : (ledger.perform call).2.Secured terms := by
  have performs := ledger.perform_performs call
  generalize (ledger.perform call).1 = answer at performs
  generalize (ledger.perform call).2 = left at performs ⊢
  cases performs with
  | priceSet price => exact secured.of_eq rfl rfl rfl
  | periodPassed =>
    have decay : 0 ≤ (0.5 : ℝ) ^ (1 / ledger.terms.baseRateHalfLife) := Real.rpow_nonneg (by norm_num) _
    exact { secured with baseRate_nonneg := mul_nonneg secured.baseRate_nonneg decay }
  | opened opening => exact secured.opened opening
  | closed closing => exact secured.closed closing
  | adjusted adjustment => exact secured.adjusted adjustment
  | liquidated something batch => exact secured.liquidations (liquidations_of_batch batch)
  | redeemed redeems => exact secured.redeems redeems
  | provided accepted =>
    obtain ⟨_, paid, debited, rfl⟩ := provide_ok accepted
    obtain ⟨_, rfl⟩ := debit_ok debited
    exact secured.of_eq rfl rfl rfl
  | withdrawn withdrawal =>
    rw [withdrawal.left_eq]
    exact secured.of_eq rfl rfl rfl
  | claimed owed => exact secured.of_eq rfl rfl rfl
  | issued amount =>
    unfold issueRewards
    dsimp only
    split <;> exact secured.of_eq rfl rfl rfl
  | transferred accepted =>
    obtain ⟨_, paid, debited, rfl⟩ := transfer_ok accepted
    obtain ⟨_, rfl⟩ := debit_ok debited
    exact secured.of_eq rfl rfl rfl
  | refused notRedeem refusal => exact secured

theorem after_secured (secure : terms.Secure) (price : ℝ) (calls : List (Call ℝ)) :
    ((new terms price).after calls).Secured terms :=
  @after_keeps ℝ _ (·.Secured terms) (fun call secured => perform_secured call secured) _ (new_secured secure price)
    calls

end Ledger
end Stablecoin
