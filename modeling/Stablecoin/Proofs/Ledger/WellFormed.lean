import Stablecoin.Proofs.Ledger.Admission
import Stablecoin.Proofs.Ledger.Troves

/-!
What is true of every ledger that calls lead to, under terms that make sense. The troves
are sound, the gas pool holds one reserve for each of them, nothing that is owed or held
falls below zero, and the base rate stays a share (`WellFormed`). One statement for each
movement says that it keeps this, and `perform_wellFormed` puts them together.

A redemption walks with more: what it has taken and what remains make up its amount,
and as long as it has taken no more than the tolerance it has changed nothing
(`Walk.Sound`).
-/
namespace Stablecoin.Ledger
open Number (tolerance tolerance_pos)
variable {ledger left : Ledger ℝ}

/-- What calls keep true of the ledger. -/
structure WellFormed (ledger : Ledger ℝ) : Prop where
  admissible : ledger.terms.Admissible
  troves : ledger.troves.Each (Trove.Sound ledger.terms)
  balances : ledger.balances.Each (0 ≤ ·)
  deposits : ledger.deposits.Each (0 ≤ ·)
  collateralGains : ledger.collateralGains.Each (0 ≤ ·)
  rewardGains : ledger.rewardGains.Each (0 ≤ ·)
  gasPool : ledger.gasPool = ledger.terms.gasCompensation * ledger.troves.size
  feePool : 0 ≤ ledger.feePool
  surplus : 0 ≤ ledger.surplus
  redemptionFees : 0 ≤ ledger.redemptionFees
  baseRate_nonneg : 0 ≤ ledger.baseRate
  baseRate_le : ledger.baseRate ≤ 1

theorem new_wellFormed {terms : Terms ℝ} (admissible : terms.Admissible) (price : ℝ) : (new terms price).WellFormed where
  admissible := admissible
  troves := Book.each_empty _
  balances := Book.each_empty _
  deposits := Book.each_empty _
  collateralGains := Book.each_empty _
  rewardGains := Book.each_empty _
  gasPool := by simp [new, Book.size, Book.empty]
  feePool := le_rfl
  surplus := le_rfl
  redemptionFees := le_rfl
  baseRate_nonneg := le_rfl
  baseRate_le := zero_le_one

theorem WellFormed.secure (wellFormed : ledger.WellFormed) : ledger.terms.Secure := wellFormed.admissible.secure

theorem WellFormed.secured (wellFormed : ledger.WellFormed) : ledger.Secured ledger.terms where
  terms_eq := rfl
  secure := wellFormed.secure
  troves := wellFormed.troves
  baseRate_nonneg := wellFormed.baseRate_nonneg

theorem getD_nonneg {book : Book ℝ} (each : book.Each (0 ≤ ·)) (account : AccountId) :
    0 ≤ (book.get? account).getD 0 := by
  cases found : book.get? account with
  | none => exact le_rfl
  | some amount => exact each account amount found

theorem WellFormed.deposit_nonneg (wellFormed : ledger.WellFormed) (account : AccountId) : 0 ≤ ledger.deposit account :=
  getD_nonneg wellFormed.deposits account

theorem WellFormed.totalDeposits_nonneg (wellFormed : ledger.WellFormed) : 0 ≤ ledger.totalDeposits := by
  rw [totalDeposits_eq]
  exact Book.sumOf_nonneg wellFormed.deposits

theorem WellFormed.redemptionRate_nonneg (wellFormed : ledger.WellFormed) : 0 ≤ ledger.redemptionRate := by
  have floor := wellFormed.admissible.redemptionFeeFloor
  have base := wellFormed.baseRate_nonneg
  rw [redemptionRate, Number.min_real]
  exact le_min (by linarith) zero_le_one

theorem each_addTo {book : Book ℝ} (each : book.Each (0 ≤ ·)) (account : AccountId) {amount : ℝ} (nonneg : 0 ≤ amount) :
    (addTo book account amount).Each (0 ≤ ·) :=
  each.insert account (add_nonneg (getD_nonneg each account) nonneg)

/-- Gains that are added up for many accounts. -/
theorem each_foldl_addTo {entries : List (AccountId × ℝ)} {gain : AccountId × ℝ → ℝ}
    (nonneg : ∀ entry ∈ entries, 0 ≤ gain entry) {book : Book ℝ} (each : book.Each (0 ≤ ·)) :
    (entries.foldl (fun gains entry => addTo gains entry.1 (gain entry)) book).Each (0 ≤ ·) := by
  induction entries generalizing book with
  | nil => exact each
  | cons entry rest ih =>
    have first := each_addTo each entry.1 (nonneg entry List.mem_cons_self)
    exact ih (fun other member => nonneg other (List.mem_cons_of_mem _ member)) first

/-- A gain that is paid in proportion to the deposits. -/
theorem WellFormed.share_nonneg (wellFormed : ledger.WellFormed) {entry : AccountId × ℝ}
    (member : entry ∈ ledger.deposits.entries) : 0 ≤ entry.2 / ledger.totalDeposits :=
  div_nonneg (wellFormed.deposits.of_mem member) wellFormed.totalDeposits_nonneg

theorem WellFormed.credit (wellFormed : ledger.WellFormed) (account : AccountId) {amount : ℝ} (nonneg : 0 ≤ amount) :
    (ledger.credit account amount).WellFormed :=
  { wellFormed with balances := each_addTo wellFormed.balances account nonneg }

theorem WellFormed.debit (wellFormed : ledger.WellFormed) {account : AccountId} {amount : ℝ}
    (accepted : ledger.debit account amount = .ok left) : left.WellFormed := by
  obtain ⟨_, rfl⟩ := debit_ok accepted
  refine { wellFormed with balances := wellFormed.balances.insert account ?_ }
  rw [Number.max_real]
  exact le_max_right _ _

theorem WellFormed.payOutGains (wellFormed : ledger.WellFormed) (account : AccountId) :
    (ledger.payOutGains account).2.WellFormed :=
  { wellFormed with
    collateralGains := wellFormed.collateralGains.erase account
    rewardGains := wellFormed.rewardGains.erase account }

theorem WellFormed.setPrice (wellFormed : ledger.WellFormed) (price : ℝ) : (ledger.setPrice price).WellFormed :=
  { wellFormed with }

theorem WellFormed.advancePeriod (wellFormed : ledger.WellFormed) : ledger.advancePeriod.WellFormed := by
  have exponent : 0 ≤ 1 / ledger.terms.baseRateHalfLife := (one_div_pos.mpr wellFormed.admissible.halfLife).le
  have decay : (0.5 : ℝ) ^ (1 / ledger.terms.baseRateHalfLife) ≤ 1 :=
    Real.rpow_le_one (by norm_num) (by norm_num) exponent
  have positive : 0 ≤ (0.5 : ℝ) ^ (1 / ledger.terms.baseRateHalfLife) := Real.rpow_nonneg (by norm_num) _
  exact
    { wellFormed with
      baseRate_nonneg := mul_nonneg wellFormed.baseRate_nonneg positive
      baseRate_le := mul_le_one₀ wellFormed.baseRate_le positive decay }

/-- The gas pool with one reserve more. -/
theorem WellFormed.gasPool_opened (wellFormed : ledger.WellFormed) {account : AccountId}
    (fresh : ledger.troves.get? account = none) (trove : Trove ℝ) :
    ledger.gasPool + ledger.terms.gasCompensation =
      ledger.terms.gasCompensation * (ledger.troves.insert account trove).size := by
  rw [Book.size_insert_fresh fresh, wellFormed.gasPool]
  ring

/-- The gas pool with one reserve less. -/
theorem WellFormed.gasPool_erased (wellFormed : ledger.WellFormed) {account : AccountId} {trove : Trove ℝ}
    (found : ledger.troves.get? account = some trove) :
    ledger.gasPool - ledger.terms.gasCompensation =
      ledger.terms.gasCompensation * (ledger.troves.erase account).size := by
  rw [Book.size_erase_found found, wellFormed.gasPool]
  ring

theorem Opening.wellFormed {account : AccountId} {collateral netDebt : ℝ} {change : TroveChange ℝ}
    (opening : Opening ledger account collateral netDebt change left) (wellFormed : ledger.WellFormed) :
    left.WellFormed := by
  have fee := opening.fee_nonneg wellFormed.secured
  have sound := opening.trove_sound wellFormed.secured
  have minimum := wellFormed.admissible.minNetDebt
  have enough := not_lt.mp (not_or.mp opening.netDebt_proper).2
  rw [opening.left_eq]
  exact
    { wellFormed with
      troves := wellFormed.troves.insert account sound
      balances := each_addTo wellFormed.balances account (by linarith [tolerance_pos])
      feePool := add_nonneg wellFormed.feePool fee
      gasPool := wellFormed.gasPool_opened ((Book.not_has_iff _ _).mp opening.fresh) _ }

theorem Closing.wellFormed {account : AccountId} {trove : Trove ℝ} {change : TroveChange ℝ}
    (closing : Closing ledger account trove change left) (wellFormed : ledger.WellFormed) : left.WellFormed := by
  have gas := (wellFormed.troves account trove closing.found).gas_eq wellFormed.secure
  rw [closing.left_eq, gas]
  refine
    { wellFormed with
      troves := wellFormed.troves.erase account
      balances := wellFormed.balances.insert account ?_
      gasPool := wellFormed.gasPool_erased closing.found }
  rw [Number.max_real]
  exact le_max_right _ _

theorem Adjustment.wellFormed {account : AccountId} {collateralDelta debtDelta : ℝ} {trove : Trove ℝ}
    {change : TroveChange ℝ} (adjustment : Adjustment ledger account collateralDelta debtDelta trove change left)
    (wellFormed : ledger.WellFormed) : left.WellFormed := by
  rw [adjustment.left_eq]
  refine
    { wellFormed with
      troves := wellFormed.troves.insert account adjustment.trove_sound
      balances := ?_
      feePool := add_nonneg wellFormed.feePool (adjustment.fee_nonneg wellFormed.secured)
      gasPool := ?_ }
  · by_cases repays : debtDelta < 0
    · simp only [if_pos repays, Number.max_real]
      exact wellFormed.balances.insert account (le_max_right _ _)
    · simp only [if_neg repays]
      exact each_addTo wellFormed.balances account (not_lt.mp repays)
  · rw [Book.size_insert_found adjustment.found]
    exact wellFormed.gasPool

theorem WellFormed.provide (wellFormed : ledger.WellFormed) {account : AccountId} {amount : ℝ}
    (accepted : ledger.provide account amount = .ok left) : left.WellFormed := by
  obtain ⟨proper, paid, debited, rfl⟩ := provide_ok accepted
  have positive := not_le.mp (not_or.mp proper).1
  exact
    { (wellFormed.debit debited).payOutGains account with
      deposits := each_addTo wellFormed.deposits account positive.le }

theorem Withdrawal.wellFormed {account : AccountId} {amount withdrawn : ℝ}
    (withdrawal : Withdrawal ledger account amount withdrawn left) (wellFormed : ledger.WellFormed) :
    left.WellFormed := by
  have nonneg : 0 ≤ withdrawn := by
    rw [withdrawal.withdrawn_eq, Number.min_real]
    exact le_min (not_le.mp (not_or.mp withdrawal.proper).1).le (wellFormed.deposit_nonneg account)
  rw [withdrawal.left_eq]
  refine
    { wellFormed.payOutGains account with
      deposits := ?_
      balances := each_addTo wellFormed.balances account nonneg }
  by_cases struck : ledger.deposit account - withdrawn ≤ tolerance
  · simp only [if_pos struck]
    exact wellFormed.deposits.erase account
  · simp only [if_neg struck]
    exact wellFormed.deposits.insert account (tolerance_pos.trans (not_le.mp struck)).le

theorem WellFormed.issueRewards (wellFormed : ledger.WellFormed) (amount : ℝ) :
    (ledger.issueRewards amount).2.WellFormed := by
  unfold Ledger.issueRewards
  dsimp only
  split
  · exact wellFormed
  · rename_i issued
    have positive := not_le.mp (not_or.mp issued).2
    refine { wellFormed with rewardGains := each_foldl_addTo ?_ wellFormed.rewardGains }
    intro entry member
    rw [mul_div_assoc]
    exact mul_nonneg positive.le (wellFormed.share_nonneg member)

theorem WellFormed.transfer (wellFormed : ledger.WellFormed) {sender receiver : AccountId} {amount : ℝ}
    (accepted : ledger.transfer sender receiver amount = .ok left) : left.WellFormed := by
  obtain ⟨proper, paid, debited, rfl⟩ := transfer_ok accepted
  have positive := not_le.mp (not_or.mp proper).1
  exact (wellFormed.debit debited).credit receiver positive.le

theorem WellFormed.seize (wellFormed : ledger.WellFormed) {account : AccountId} {trove : Trove ℝ}
    (found : ledger.troves.get? account = some trove) (liquidator : AccountId) :
    (ledger.seize account liquidator trove).WellFormed := by
  have gas := (wellFormed.troves account trove found).gas_eq wellFormed.secure
  unfold Ledger.seize
  simp only [gas]
  apply WellFormed.credit _ liquidator wellFormed.admissible.gas
  exact
    { wellFormed with
      troves := wellFormed.troves.erase account
      gasPool := wellFormed.gasPool_erased found }

theorem WellFormed.offset (wellFormed : ledger.WellFormed) (debt : ℝ) {collateral : ℝ} (nonneg : 0 ≤ collateral) :
    (ledger.offset debt collateral).WellFormed := by
  unfold Ledger.offset
  dsimp only
  split
  · exact wellFormed
  · refine
      { wellFormed with
        collateralGains := each_foldl_addTo ?_ wellFormed.collateralGains
        deposits := wellFormed.deposits.map ?_ }
    · intro amount held
      rw [Number.max_real]
      exact mul_nonneg held (le_max_right _ _)
    · intro entry member
      exact mul_nonneg nonneg (wellFormed.share_nonneg member)

theorem WellFormed.redistribute (wellFormed : ledger.WellFormed) {debt collateral : ℝ} (debt_nonneg : 0 ≤ debt)
    (collateral_nonneg : 0 ≤ collateral) : (ledger.redistribute debt collateral).WellFormed := by
  have troves := redistribute_sound wellFormed.troves debt_nonneg collateral_nonneg
  rcases le_or_gt ledger.totalCollateral tolerance with none | some
  · rwa [redistribute_of_none none]
  · rw [redistribute_of_some some] at troves ⊢
    exact
      { wellFormed with
        troves := troves
        gasPool := by rw [Book.size_map]; exact wellFormed.gasPool }

theorem WellFormed.settleInFull {seized : Ledger ℝ} (wellFormed : seized.WellFormed) (account : AccountId)
    {trove : Trove ℝ} (sound : trove.Sound seized.terms) : (seized.settleInFull account trove).2.WellFormed := by
  have indebted := sound.indebted wellFormed.secure
  have covered : 0 ≤ min trove.debt seized.totalDeposits := le_min indebted.le wellFormed.totalDeposits_nonneg
  have within : min trove.debt seized.totalDeposits ≤ trove.debt := min_le_left _ _
  simp only [Ledger.settleInFull, Number.min_real]
  apply WellFormed.redistribute
  · exact wellFormed.offset _ (div_nonneg (mul_nonneg sound.collateral.le covered) indebted.le)
  · exact sub_nonneg.mpr within
  · exact sub_nonneg.mpr (sound.part_le wellFormed.secure within)

theorem WellFormed.settleCapped {seized : Ledger ℝ} (wellFormed : seized.WellFormed) (account : AccountId)
    {trove : Trove ℝ} (sound : trove.Sound seized.terms) (price_pos : 0 < seized.price) :
    (seized.settleCapped account trove).2.WellFormed := by
  have indebted := sound.indebted wellFormed.secure
  have multiple : 0 ≤ trove.debt * seized.terms.mcr / seized.price :=
    div_nonneg (mul_nonneg indebted.le (by linarith [wellFormed.admissible.mcr])) price_pos.le
  have capped : 0 ≤ min (trove.debt * seized.terms.mcr / seized.price) trove.collateral :=
    le_min multiple sound.collateral.le
  simp only [Ledger.settleCapped, Number.min_real]
  have settled := wellFormed.offset trove.debt capped
  exact { settled with surplus := add_nonneg settled.surplus (sub_nonneg.mpr (min_le_right _ _)) }

theorem WellFormed.liquidates (wellFormed : ledger.WellFormed) {liquidator : AccountId} {liquidation : Liquidation ℝ}
    (liquidates : Liquidates liquidator ledger liquidation left) : left.WellFormed := by
  cases liquidates with
  | @capped account icr trove several worst found eligible recovery secured =>
    have sound := wellFormed.troves account trove found
    have price_pos := sound.price_pos wellFormed.secure secured
    exact (wellFormed.seize found liquidator).settleCapped account sound price_pos
  | @inFull account icr trove several worst found eligible unsecured =>
    have sound := wellFormed.troves account trove found
    exact (wellFormed.seize found liquidator).settleInFull account sound

theorem WellFormed.liquidations (wellFormed : ledger.WellFormed) {liquidator : AccountId}
    {liquidations : List (Liquidation ℝ)} (chain : Liquidations liquidator ledger liquidations left) :
    left.WellFormed := by
  induction chain with
  | none ledger => exact wellFormed
  | next first later ih => exact ih (wellFormed.liquidates first)

/-- What a walk keeps, seen from the ledger that it started on. -/
structure Walk.Sound (start : Ledger ℝ) (amount : ℝ) (walk : Walk ℝ) : Prop where
  wellFormed : walk.ledger.WellFormed
  balances : walk.ledger.balances = start.balances
  accounted : walk.taken.redeemed + walk.remaining = amount
  remaining : 0 ≤ walk.remaining
  redeemed : 0 ≤ walk.taken.redeemed
  drawn : 0 ≤ walk.taken.collateralDrawn
  untouched : walk.ledger = start ∨ tolerance < walk.taken.redeemed

theorem WellFormed.walkOf_sound (wellFormed : ledger.WellFormed) {amount : ℝ} (nonneg : 0 ≤ amount) :
    (ledger.walkOf amount).Sound ledger amount where
  wellFormed := wellFormed
  balances := rfl
  accounted := zero_add amount
  remaining := nonneg
  redeemed := le_rfl
  drawn := le_rfl
  untouched := .inl rfl

variable {walk next : Walk ℝ} {trove : Trove ℝ}

theorem Walk.step_wellFormed (step : Walk.Step walk next) (wellFormed : walk.ledger.WellFormed) :
    next.ledger.WellFormed := by
  cases step with
  | @take account trove wanted found eligible noDust =>
    have sound := wellFormed.troves account trove found
    by_cases closes : walk.kept trove ≤ tolerance
    · simp only [Walk.take, if_pos closes, Number.max_real]
      exact
        { wellFormed with
          troves := wellFormed.troves.erase account
          gasPool := wellFormed.gasPool_erased found
          surplus := add_nonneg wellFormed.surplus (le_max_right _ _) }
    · simp only [Walk.take, if_neg closes]
      exact
        { wellFormed with
          troves := wellFormed.troves.insert account (kept_sound wellFormed.secure sound eligible noDust closes)
          gasPool := by rw [Book.size_insert_found found]; exact wellFormed.gasPool }

theorem Walk.take_balances (walk : Walk ℝ) (account : AccountId) (trove : Trove ℝ) (taken left : ℝ) :
    (walk.take account trove taken left).ledger.balances = walk.ledger.balances := by
  unfold Walk.take
  dsimp only
  split <;> rfl

theorem Walk.Sound.step {start : Ledger ℝ} {amount : ℝ} (sound : walk.Sound start amount)
    (step : Walk.Step walk next) : next.Sound start amount := by
  have kept := Walk.step_wellFormed step sound.wellFormed
  cases step with
  | @take account trove wanted found eligible noDust =>
    have troveSound := sound.wellFormed.troves account trove found
    have price_pos := troveSound.price_pos sound.wellFormed.secure eligible
    have some := walk.lt_share sound.wellFormed.secure wanted troveSound
    have positive : 0 < walk.share trove := tolerance_pos.trans some
    refine
      { wellFormed := kept
        balances := (walk.take_balances account trove _ _).trans sound.balances
        accounted := ?_
        remaining := sub_nonneg.mpr (walk.share_le_remaining trove)
        redeemed := add_nonneg sound.redeemed positive.le
        drawn := add_nonneg sound.drawn (div_pos positive price_pos).le
        untouched := .inr (lt_add_of_nonneg_of_lt sound.redeemed some) }
    have accounted := sound.accounted
    simp only [Walk.take]
    linarith

/-- The walk of a redemption that has passed its checks. -/
theorem Walked.sound {redeemer : AccountId} {amount : ℝ} (walked : Walked ledger redeemer amount walk)
    (wellFormed : ledger.WellFormed) : walk.Sound ledger amount := by
  have positive := not_le.mp (not_or.mp walked.proper).1
  exact walked.keeps (wellFormed.walkOf_sound positive.le) fun _ _ sound step => sound.step step

theorem WellFormed.redeems (wellFormed : ledger.WellFormed) {redeemer : AccountId} {amount : ℝ}
    {result : Except (Refusal ℝ) (Redemption ℝ)} (redeems : Redeems ledger redeemer amount result left) :
    left.WellFormed := by
  cases redeems with
  | refused refusal => exact wellFormed
  | nothing walked dust => exact (walked.sound wellFormed).wellFormed
  | short walked something uncovered => exact (walked.sound wellFormed).wellFormed
  | @accepted walk paid baseRate fee walked something debited baseRate_eq fee_eq =>
    have sound := walked.sound wellFormed
    have kept := sound.wellFormed.debit debited
    have rate : 0 ≤ baseRate ∧ baseRate ≤ 1 := by
      rw [baseRate_eq]
      split
      · rename_i supplied
        have raise : 0 ≤ walk.taken.redeemed / ledger.supply / ledger.terms.redemptionBeta :=
          div_nonneg (div_nonneg sound.redeemed (tolerance_pos.trans supplied).le)
            wellFormed.admissible.redemptionBeta.le
        rw [Number.min_real]
        exact ⟨le_min (add_nonneg kept.baseRate_nonneg raise) zero_le_one, min_le_right _ _⟩
      · exact ⟨kept.baseRate_nonneg, kept.baseRate_le⟩
    have burned : { paid with supply := paid.supply - walk.taken.redeemed, baseRate }.WellFormed :=
      { kept with baseRate_nonneg := rate.1, baseRate_le := rate.2 }
    have fee_nonneg : 0 ≤ fee := by
      rw [fee_eq]
      exact mul_nonneg sound.drawn burned.redemptionRate_nonneg
    exact { burned with redemptionFees := add_nonneg burned.redemptionFees fee_nonneg }

/-! ### Every call and every run -/

theorem perform_wellFormed {ledger : Ledger ℝ} (call : Call ℝ) (wellFormed : ledger.WellFormed) :
    (ledger.perform call).2.WellFormed := by
  have performs := ledger.perform_performs call
  generalize (ledger.perform call).1 = answer at performs
  generalize (ledger.perform call).2 = left at performs ⊢
  cases performs with
  | priceSet price => exact wellFormed.setPrice price
  | periodPassed => exact wellFormed.advancePeriod
  | opened opening => exact opening.wellFormed wellFormed
  | closed closing => exact closing.wellFormed wellFormed
  | adjusted adjustment => exact adjustment.wellFormed wellFormed
  | liquidated something batch => exact wellFormed.liquidations (liquidations_of_batch batch)
  | redeemed redeems => exact wellFormed.redeems redeems
  | provided accepted => exact wellFormed.provide accepted
  | withdrawn withdrawal => exact withdrawal.wellFormed wellFormed
  | claimed owed => exact wellFormed.payOutGains _
  | issued amount => exact wellFormed.issueRewards amount
  | transferred accepted => exact wellFormed.transfer accepted
  | refused notRedeem refusal => exact wellFormed

theorem after_wellFormed {terms : Terms ℝ} (admissible : terms.Admissible) (price : ℝ) (calls : List (Call ℝ)) :
    ((new terms price).after calls).WellFormed :=
  after_keeps perform_wellFormed (new_wellFormed admissible price) calls

/-- Whatever calls were made at whatever prices, every trove has collateral and debt for
    its gas reserve and the minimum net debt, nothing that is held or owed is negative,
    the gas pool holds the reserve of each trove, and the base rate is a share. -/
theorem after_in_order {terms : Terms ℝ} (admissible : terms.Admissible) (price : ℝ) (calls : List (Call ℝ)) :
    (∀ account trove, ((new terms price).after calls).troves.get? account = some trove →
        0 < trove.collateral ∧ terms.gasCompensation + terms.minNetDebt - tolerance ≤ trove.debt) ∧
      ((new terms price).after calls).balances.Each (0 ≤ ·) ∧
      ((new terms price).after calls).deposits.Each (0 ≤ ·) ∧
      ((new terms price).after calls).collateralGains.Each (0 ≤ ·) ∧
      ((new terms price).after calls).rewardGains.Each (0 ≤ ·) ∧
      0 ≤ ((new terms price).after calls).feePool ∧
      0 ≤ ((new terms price).after calls).surplus ∧
      0 ≤ ((new terms price).after calls).redemptionFees ∧
      ((new terms price).after calls).gasPool =
        terms.gasCompensation * ((new terms price).after calls).troves.size ∧
      0 ≤ ((new terms price).after calls).baseRate ∧
      ((new terms price).after calls).baseRate ≤ 1 := by
  have wellFormed := after_wellFormed admissible price calls
  have secured := after_secured admissible.secure price calls
  have gasPool := wellFormed.gasPool
  rw [secured.terms_eq] at gasPool
  refine ⟨?_, wellFormed.balances, wellFormed.deposits, wellFormed.collateralGains, wellFormed.rewardGains,
    wellFormed.feePool, wellFormed.surplus, wellFormed.redemptionFees, gasPool, wellFormed.baseRate_nonneg,
    wellFormed.baseRate_le⟩
  intro account trove found
  have sound := secured.troves account trove found
  exact ⟨sound.collateral, sound.debt⟩

/-! ### A ledger with one trove -/

/-- A single trove, opened under the default terms with ten of collateral for two
    thousand. -/
noncomputable def lone : Ledger ℝ :=
  { new Parameters.defaultTerms 1000.0 with
    troves := ⟨[(7, ⟨10.0, 2210.0⟩)], by simp⟩
    balances := ⟨[(7, 2000.0)], by simp⟩
    feePool := 10.0
    gasPool := 200.0
    supply := 2210.0 }

theorem lone_eq : lone = ⟨Parameters.defaultTerms, 1000.0, ⟨[(7, ⟨10.0, 2210.0⟩)], by simp⟩, ⟨[(7, 2000.0)], by simp⟩,
    .empty, .empty, .empty, 0, 200.0, 10.0, 2210.0, 0, 0, 0⟩ := rfl

theorem lone_opened : (new Parameters.defaultTerms 1000.0).perform (.openTrove 7 10.0 2000.0) =
    (.ok (.changed ⟨10.0, 2210.0, 10.0⟩), lone) := by
  apply CalmOpening.perform
  constructor
  case calm => exact new_calm _ _
  all_goals norm_num [readings, lone_eq, new, Parameters.defaultTerms]

theorem lone_in_order :
    ((new Parameters.defaultTerms 1000.0).after [.openTrove 7 10.0 2000.0]).troves.get? 7 =
        some ⟨(10.0 : ℝ), 2210.0⟩ ∧
      (Parameters.defaultTerms : Terms ℝ).gasCompensation + Parameters.defaultTerms.minNetDebt - tolerance ≤ 2210.0 ∧
      ((new Parameters.defaultTerms 1000.0).after [.openTrove 7 10.0 2000.0]).gasPool =
        Parameters.defaultTerms.gasCompensation *
          (((new Parameters.defaultTerms 1000.0).after [.openTrove 7 (10.0 : ℝ) 2000.0]).troves.size : ℝ) := by
  have held : ((new Parameters.defaultTerms 1000.0).after [.openTrove 7 10.0 2000.0]).troves.get? 7 =
      some ⟨(10.0 : ℝ), 2210.0⟩ := by
    rw [after_cons, lone_opened]
    rfl
  have order := after_in_order defaultTerms_admissible 1000.0 [.openTrove 7 10.0 2000.0]
  obtain ⟨troves, _, _, _, _, _, _, _, gasPool, _⟩ := order
  exact ⟨held, (troves 7 _ held).2, gasPool⟩

end Stablecoin.Ledger
