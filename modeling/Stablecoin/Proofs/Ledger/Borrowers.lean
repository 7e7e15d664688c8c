import Stablecoin.Proofs.Ledger.WellFormed

/-!
What borrowers cannot do. No opening, closure or adjustment leads into recovery, and in
recovery none takes the ratio of the system down by more than the tolerance, nor any
trove below the minimum ratio (`borrower_harmless`).

Out of recovery the checks say so themselves, once the totals that they predict are seen
to be the totals that come about (`tcr_of_changes`). In recovery the system is compared
with the one trove that changes: worth that comes in at the ratio of the system or above
does not lower that ratio, and a trove that draws debt reaches the critical ratio, which
the system is below (`quotient_le`, `Adjustment.slack`).
-/
namespace Stablecoin
open Number (tolerance tolerance_pos)

/-- The account whose trove the call opens, closes or adjusts. -/
def Call.borrower? {α : Type} : Call α → Option AccountId
  | .openTrove account _ _ => some account
  | .closeTrove account => some account
  | .adjustTrove account _ _ => some account
  | _ => none

namespace Ledger
variable {terms : Terms ℝ} {ledger left : Ledger ℝ} {account : AccountId} {change : TroveChange ℝ}

/-- What a borrower's call comes to in recovery: an opening at the critical ratio or
    above, or an adjustment that withdraws no collateral and reaches the critical ratio
    if it draws debt. -/
def FitsRecovery (terms : Terms ℝ) (left : Ledger ℝ) : Call ℝ → Prop
  | .openTrove account _ _ => ∃ icr, left.icr? account = some icr ∧ ¬ icr.Below (.of terms.ccr)
  | .closeTrove _ => False
  | .adjustTrove account collateralDelta debtDelta => 0 ≤ collateralDelta ∧
      (0 < debtDelta → ∃ icr, left.icr? account = some icr ∧ ¬ icr.Below (.of terms.ccr))
  | _ => True

/-- The call of the account has put neither the system nor a trove at risk. -/
structure Harmless (terms : Terms ℝ) (ledger : Ledger ℝ) (account : AccountId) (call : Call ℝ) (left : Ledger ℝ) :
    Prop where
  /-- Out of recovery the system stays out, and the trove of the account is above the
      minimum ratio where it still exists. -/
  calm : ¬ ledger.InRecovery → ¬ left.InRecovery ∧
    ∀ icr, left.icr? account = some icr → ¬ icr.Below (.of terms.mcr)
  recovery : ledger.InRecovery → FitsRecovery terms left call ∧
    ∃ before after, ledger.tcr = .of before ∧ left.tcr = .of after ∧ before - tolerance ≤ after
  /-- No trove falls below the minimum ratio. -/
  troves : ∀ id before after, ledger.icr? id = some before → ¬ before.Below (.of terms.mcr) →
    left.icr? id = some after → ¬ after.Below (.of terms.mcr)

theorem ratio_of_some {collateral debt price : ℝ} (some : tolerance < debt) :
    ratio collateral debt price = .of (collateral * price / debt) :=
  if_neg (not_le.mpr some)

theorem icr_eq_ratio {trove : Trove ℝ} (sound : trove.Sound terms) (secure : terms.Secure) (price : ℝ) :
    trove.icr price = ratio trove.collateral trove.debt price := by
  have indebted := sound.indebted secure
  rw [ratio_of_some (sound.large secure)]
  exact if_neg (not_le.mpr indebted)

/-- A debt above the tolerance stands at or above a ratio by what it is worth. -/
theorem not_below_iff {collateral debt price minimum : ℝ} (some : tolerance < debt) :
    ¬ (ratio collateral debt price).Below (.of minimum) ↔ minimum * debt ≤ collateral * price := by
  rw [ratio_of_some some, Ratio.below_of_of, not_lt, le_div_iff₀ (tolerance_pos.trans some)]

/-- In recovery there is debt, and the collateral is worth less than the critical multiple
    of it. -/
theorem recovery_worth (recovery : ledger.InRecovery) :
    tolerance < ledger.totalDebt ∧ ledger.totalCollateral * ledger.price < ledger.terms.ccr * ledger.totalDebt := by
  have some : tolerance < ledger.totalDebt := by
    by_contra none
    rw [InRecovery, tcr, ratio, if_pos (not_lt.mp none)] at recovery
    exact recovery
  refine ⟨some, ?_⟩
  by_contra worth
  exact (not_below_iff some).mpr (not_lt.mp worth) recovery

/-- Where debt and worth are added, a quotient falls by no more than the slack of what is
    added. -/
theorem quotient_le {worth debt worthAdded debtAdded slack : ℝ} (debt_pos : 0 < debt) (left_pos : 0 < debt + debtAdded)
    (enough : worth / debt * debtAdded ≤ worthAdded + slack * (debt + debtAdded)) :
    worth / debt - slack ≤ (worth + worthAdded) / (debt + debtAdded) := by
  have whole : worth / debt * debt = worth := div_mul_cancel₀ worth debt_pos.ne'
  rw [le_div_iff₀ left_pos]
  linarith

/-- The ratio that a check predicts is the one that comes about. -/
theorem tcr_of_changes (changes : Changes ledger change left) (price : left.price = ledger.price) :
    left.tcr = ledger.tcrAfter change.collateral change.debt := by
  rw [tcr, tcrAfter, changes.collateral, changes.debt, price]

/-- In recovery the ratio of the system falls by no more than the tolerance, if what comes
    in is worth the ratio of the system up to the slack. -/
theorem tcr_of_slack (changes : Changes ledger change left) (price : left.price = ledger.price)
    (recovery : ledger.InRecovery) (some : tolerance < left.totalDebt)
    (enough : ledger.totalCollateral * ledger.price / ledger.totalDebt * change.debt ≤
      change.collateral * ledger.price + tolerance * (ledger.totalDebt + change.debt)) :
    ∃ before after, ledger.tcr = .of before ∧ left.tcr = .of after ∧ before - tolerance ≤ after := by
  have debt := (recovery_worth recovery).1
  refine ⟨_, _, ratio_of_some debt, ratio_of_some some, ?_⟩
  rw [changes.debt] at some ⊢
  rw [changes.collateral, price, add_mul]
  exact quotient_le (tolerance_pos.trans debt) (tolerance_pos.trans some) enough

/-- The ratio of the system in recovery, times some debt, is less than the critical
    multiple of it. -/
theorem recovery_share_le (recovery : ledger.InRecovery) {debt : ℝ} (nonneg : 0 ≤ debt) :
    ledger.totalCollateral * ledger.price / ledger.totalDebt * debt ≤ ledger.terms.ccr * debt := by
  obtain ⟨some, worth⟩ := recovery_worth recovery
  have below : ledger.totalCollateral * ledger.price / ledger.totalDebt ≤ ledger.terms.ccr :=
    ((div_lt_iff₀ (tolerance_pos.trans some)).mpr worth).le
  exact mul_le_mul_of_nonneg_right below nonneg

theorem Opening.icr_eq {collateral netDebt : ℝ} (opening : Opening ledger account collateral netDebt change left)
    (secured : ledger.Secured terms) :
    left.icr? account = some (ratio collateral change.debt ledger.price) := by
  have sound := opening.trove_sound secured
  rw [← icr_eq_ratio sound secured.secure ledger.price, opening.left_eq]
  simp [icr?]

theorem Opening.icr_other {collateral netDebt : ℝ} (opening : Opening ledger account collateral netDebt change left)
    {id : AccountId} (different : id ≠ account) : left.icr? id = ledger.icr? id := by
  rw [opening.left_eq]
  simp [icr?, different]

theorem Opening.harmless {collateral netDebt : ℝ} (opening : Opening ledger account collateral netDebt change left)
    (secured : ledger.Secured terms) :
    Harmless terms ledger account (.openTrove account collateral netDebt) left := by
  obtain rfl := secured.terms_eq
  have opened := opening.icr_eq secured
  have large : tolerance < change.debt := (opening.trove_sound secured).large secured.secure
  have price : left.price = ledger.price := by rw [opening.left_eq]
  have sameTerms : left.terms = ledger.terms := by rw [opening.left_eq]
  have checked := opening.secured
  refine ⟨?_, ?_, ?_⟩
  · intro calm
    have system := opening.systemSecured
    rw [if_neg calm] at checked
    constructor
    · rw [InRecovery, tcr_of_changes opening.changes price, opening.collateral_eq, sameTerms]
      exact fun below => system ⟨calm, below⟩
    · intro icr here
      rw [opened] at here
      rwa [← Option.some.inj here]
  · intro recovery
    rw [if_pos recovery] at checked
    refine ⟨⟨_, opened, checked⟩, ?_⟩
    have debt := (recovery_worth recovery).1
    have worth := (not_below_iff large).mp checked
    have share := recovery_share_le recovery (tolerance_pos.trans large).le
    have some : tolerance < left.totalDebt := by
      rw [opening.changes.debt]
      linarith [tolerance_pos]
    refine tcr_of_slack opening.changes price recovery some ?_
    have slack : 0 ≤ tolerance * (ledger.totalDebt + change.debt) :=
      mul_nonneg tolerance_pos.le (by linarith [tolerance_pos])
    rw [opening.collateral_eq]
    linarith
  · intro id before after recorded fine here
    by_cases same : id = account
    · subst same
      have missing := (Book.not_has_iff _ _).mp opening.fresh
      simp [icr?, missing] at recorded
    · rw [opening.icr_other same, recorded] at here
      rwa [← Option.some.inj here]

theorem Closing.harmless {trove : Trove ℝ} (closing : Closing ledger account trove change left)
    (sameTerms : ledger.terms = terms) : Harmless terms ledger account (.closeTrove account) left := by
  subst sameTerms
  have gone : left.icr? account = none := by
    rw [closing.left_eq]
    simp [icr?]
  have price : left.price = ledger.price := by rw [closing.left_eq]
  have kept : left.terms = ledger.terms := by rw [closing.left_eq]
  refine ⟨?_, ?_, ?_⟩
  · intro _
    constructor
    · rw [InRecovery, tcr_of_changes closing.changes price, closing.change_eq, kept]
      exact closing.systemSecured
    · intro icr here
      rw [gone] at here
      cases here
  · intro recovery
    exact absurd recovery closing.notInRecovery
  · intro id before after recorded fine here
    by_cases same : id = account
    · rw [same, gone] at here
      cases here
    · have other : left.icr? id = ledger.icr? id := by
        rw [closing.left_eq]
        simp [icr?, same]
      rw [other, recorded] at here
      rwa [← Option.some.inj here]

section Adjusting
variable {trove : Trove ℝ} {collateralDelta debtDelta : ℝ}

theorem Adjustment.large (adjustment : Adjustment ledger account collateralDelta debtDelta trove change left)
    (secured : ledger.Secured terms) : tolerance < trove.debt + debtDelta + change.fee := by
  obtain rfl := secured.terms_eq
  exact adjustment.trove_sound.large secured.secure

theorem Adjustment.icr_eq (adjustment : Adjustment ledger account collateralDelta debtDelta trove change left)
    (secured : ledger.Secured terms) :
    left.icr? account =
      some (ratio (trove.collateral + collateralDelta) (trove.debt + debtDelta + change.fee) ledger.price) := by
  obtain rfl := secured.terms_eq
  rw [← icr_eq_ratio adjustment.trove_sound secured.secure ledger.price, adjustment.left_eq]
  simp [icr?]

theorem Adjustment.lt_totalDebt (adjustment : Adjustment ledger account collateralDelta debtDelta trove change left)
    (secured : ledger.Secured terms) : tolerance < left.totalDebt := by
  have large := adjustment.large secured
  have found : left.troves.get? account =
      some ⟨trove.collateral + collateralDelta, trove.debt + debtDelta + change.fee⟩ := by
    rw [adjustment.left_eq]
    simp
  exact large.trans_le ((secured.adjusted adjustment).debt_le_totalDebt found)

theorem Adjustment.fee_recovery (adjustment : Adjustment ledger account collateralDelta debtDelta trove change left)
    (recovery : ledger.InRecovery) : change.fee = 0 := by
  rw [adjustment.fee_eq, if_neg (fun draws => draws.2 recovery)]

/-- A trove that draws debt in recovery reaches the critical ratio. -/
theorem Adjustment.critical (adjustment : Adjustment ledger account collateralDelta debtDelta trove change left)
    (recovery : ledger.InRecovery) (draws : 0 < debtDelta) :
    ¬ (ratio (trove.collateral + collateralDelta) (trove.debt + debtDelta + change.fee) ledger.price).Below
      (.of ledger.terms.ccr) := by
  intro below
  exact (adjustment.ratios.inRecovery recovery).1 ⟨draws, below⟩

/-- What an adjustment in recovery adds in collateral is worth the ratio of the system on
    the debt that it adds. A trove that draws keeps its own ratio up to the tolerance, and
    ends above that of the system. -/
theorem Adjustment.slack (adjustment : Adjustment ledger account collateralDelta debtDelta trove change left)
    (secured : ledger.Secured terms) (recovery : ledger.InRecovery) (positive : 0 < ledger.price) :
    ledger.totalCollateral * ledger.price / ledger.totalDebt * debtDelta ≤
      collateralDelta * ledger.price + tolerance * (ledger.totalDebt + debtDelta) := by
  have fee := adjustment.fee_recovery recovery
  have some := adjustment.lt_totalDebt secured
  rw [adjustment.changes.debt, adjustment.debt_eq, fee, add_zero] at some
  by_cases draws : 0 < debtDelta
  · have sound := secured.troves account trove adjustment.found
    have indebted := sound.indebted secured.secure
    have large := adjustment.large secured
    have critical := (not_below_iff large).mp (adjustment.critical recovery draws)
    have kept := (adjustment.ratios.inRecovery recovery).2
    have share := recovery_share_le recovery draws.le
    have whole := secured.debt_le_totalDebt adjustment.found
    rw [ratio_of_some large, icr_eq_ratio sound secured.secure, ratio_of_some (sound.large secured.secure), Ratio.raise,
      Ratio.below_of_of, not_lt, div_le_iff₀ indebted, add_mul] at kept
    rw [fee, add_zero] at large critical kept
    -- the worth of the trove beyond what its new ratio gives on the old debt
    have ratio_eq : (trove.collateral + collateralDelta) * ledger.price / (trove.debt + debtDelta) *
        (trove.debt + debtDelta) = (trove.collateral + collateralDelta) * ledger.price :=
      div_mul_cancel₀ _ (tolerance_pos.trans large).ne'
    have above : ledger.terms.ccr ≤ (trove.collateral + collateralDelta) * ledger.price / (trove.debt + debtDelta) :=
      (le_div_iff₀ (tolerance_pos.trans large)).mpr critical
    have drawn := mul_le_mul_of_nonneg_right above draws.le
    have within : tolerance * trove.debt ≤ tolerance * (ledger.totalDebt + debtDelta) :=
      mul_le_mul_of_nonneg_left (by linarith) tolerance_pos.le
    linarith
  · have added : 0 ≤ collateralDelta := by
      by_contra withdrawn
      exact adjustment.nothingWithdrawn ⟨recovery, not_le.mp withdrawn⟩
    have debt := (recovery_worth recovery).1
    have worth : 0 ≤ ledger.totalCollateral * ledger.price / ledger.totalDebt :=
      div_nonneg (mul_nonneg secured.totalCollateral_nonneg positive.le) (tolerance_pos.trans debt).le
    have nothing := mul_nonpos_of_nonneg_of_nonpos worth (not_lt.mp draws)
    have more := mul_nonneg added positive.le
    have spare := mul_nonneg tolerance_pos.le (tolerance_pos.trans some).le
    linarith

/-- In recovery no adjustment takes a trove below the minimum ratio. -/
theorem Adjustment.minimum (adjustment : Adjustment ledger account collateralDelta debtDelta trove change left)
    (secured : ledger.Secured terms) (recovery : ledger.InRecovery) (positive : 0 < ledger.price)
    (fine : ¬ (trove.icr ledger.price).Below (.of terms.mcr)) :
    ¬ (ratio (trove.collateral + collateralDelta) (trove.debt + debtDelta + change.fee) ledger.price).Below
      (.of terms.mcr) := by
  obtain rfl := secured.terms_eq
  have large := adjustment.large secured
  rw [not_below_iff large]
  by_cases draws : 0 < debtDelta
  · have critical := (not_below_iff large).mp (adjustment.critical recovery draws)
    exact (mul_le_mul_of_nonneg_right secured.secure.ccr (tolerance_pos.trans large).le).trans critical
  · have added : 0 ≤ collateralDelta := by
      by_contra withdrawn
      exact adjustment.nothingWithdrawn ⟨recovery, not_le.mp withdrawn⟩
    have sound := secured.troves account trove adjustment.found
    have worth := Trove.le_of_not_below (sound.indebted secured.secure) fine
    have repaid : trove.debt + debtDelta + change.fee ≤ trove.debt := by
      rw [adjustment.fee_recovery recovery]
      linarith
    have ratio_nonneg : 0 ≤ ledger.terms.mcr := by linarith [secured.secure.mcr]
    calc ledger.terms.mcr * (trove.debt + debtDelta + change.fee)
        ≤ ledger.terms.mcr * trove.debt := mul_le_mul_of_nonneg_left repaid ratio_nonneg
      _ ≤ trove.collateral * ledger.price := worth
      _ ≤ (trove.collateral + collateralDelta) * ledger.price :=
        mul_le_mul_of_nonneg_right (by linarith) positive.le

theorem Adjustment.harmless (adjustment : Adjustment ledger account collateralDelta debtDelta trove change left)
    (secured : ledger.Secured terms) (positive : 0 < ledger.price) :
    Harmless terms ledger account (.adjustTrove account collateralDelta debtDelta) left := by
  obtain rfl := secured.terms_eq
  have adjusted := adjustment.icr_eq secured
  have price : left.price = ledger.price := by rw [adjustment.left_eq]
  have sameTerms : left.terms = ledger.terms := by rw [adjustment.left_eq]
  refine ⟨?_, ?_, ?_⟩
  · intro calm
    obtain ⟨minimum, system⟩ := adjustment.ratios.outOfRecovery calm
    constructor
    · rw [InRecovery, tcr_of_changes adjustment.changes price, adjustment.collateral_eq, adjustment.debt_eq, sameTerms]
      exact system
    · intro icr here
      rw [adjusted] at here
      rwa [← Option.some.inj here]
  · intro recovery
    have slack := adjustment.slack secured recovery positive
    refine ⟨⟨?_, ?_⟩, tcr_of_slack adjustment.changes price recovery (adjustment.lt_totalDebt secured) ?_⟩
    · by_contra withdrawn
      exact adjustment.nothingWithdrawn ⟨recovery, not_le.mp withdrawn⟩
    · intro draws
      exact ⟨_, adjusted, adjustment.critical recovery draws⟩
    · rw [adjustment.collateral_eq, adjustment.debt_eq, adjustment.fee_recovery recovery, add_zero]
      exact slack
  · intro id before after recorded fine here
    by_cases same : id = account
    · subst same
      rw [adjusted] at here
      obtain rfl := Option.some.inj here
      by_cases recovery : ledger.InRecovery
      · have was : ledger.icr? id = some (trove.icr ledger.price) := by simp [icr?, adjustment.found]
        rw [was] at recorded
        obtain rfl := Option.some.inj recorded
        exact adjustment.minimum secured recovery positive fine
      · exact (adjustment.ratios.outOfRecovery recovery).1
    · have other : left.icr? id = ledger.icr? id := by
        rw [adjustment.left_eq]
        simp [icr?, same]
      rw [other, recorded] at here
      rwa [← Option.some.inj here]

end Adjusting

theorem perform_harmless (secured : ledger.Secured terms) (positive : 0 < ledger.price) {call : Call ℝ}
    (acts : call.borrower? = some account) {answer : Answer ℝ} (accepted : (ledger.perform call).1 = .ok answer) :
    Harmless terms ledger account call (ledger.perform call).2 := by
  have performs := ledger.perform_performs call
  generalize (ledger.perform call).2 = left at performs ⊢
  rw [accepted] at performs
  generalize answered : (Except.ok answer : Except (Refusal ℝ) (Answer ℝ)) = result at performs
  cases performs with
  | opened opening =>
    obtain rfl := Option.some.inj acts
    exact opening.harmless secured
  | closed closing =>
    obtain rfl := Option.some.inj acts
    exact closing.harmless secured.terms_eq
  | adjusted adjustment =>
    obtain rfl := Option.some.inj acts
    exact adjustment.harmless secured positive
  | refused => cases answered
  | _ => cases acts

/-- After any calls, an accepted opening, closure or adjustment at a positive price puts
    neither the system nor a trove at risk. -/
theorem borrower_harmless (secure : terms.Secure) (price : ℝ) (calls : List (Call ℝ)) {call : Call ℝ}
    (acts : call.borrower? = some account) {answer : Answer ℝ}
    (accepted : (((new terms price).after calls).perform call).1 = .ok answer)
    (positive : 0 < ((new terms price).after calls).price) :
    Harmless terms ((new terms price).after calls) account call (((new terms price).after calls).perform call).2 :=
  perform_harmless (after_secured secure price calls) positive acts accepted

/-! ### A trove that draws in recovery -/

theorem lone_priced : (new Parameters.defaultTerms 1000.0).after [.openTrove 7 10.0 2000.0, .setPrice (300.0 : ℝ)] =
    { lone with price := 300.0 } := by
  rw [after_cons, lone_opened]
  rfl

theorem lone_recovery : { lone with price := 300.0 }.InRecovery := by
  norm_num [inRecovery_iff, readings, lone_eq, Parameters.defaultTerms, Number.tolerance_real]

theorem lone_adjusted :
    ({ lone with price := 300.0 }.perform (.adjustTrove 7 10.0 100.0)).1 = .ok (.changed ⟨10.0, 100.0, 0⟩) := by
  have found : { lone with price := 300.0 }.troves.get? 7 = some ⟨(10.0 : ℝ), 2210.0⟩ := rfl
  simp only [perform, adjustTrove, checkAdjusted, found, lone_recovery, if_true]
  norm_num [lone_eq, Number.tolerance_real, Parameters.defaultTerms, ratio, Ratio.raise, Trove.icr, move, pure_eq_ok]

theorem lone_harmless :
    ((new Parameters.defaultTerms 1000.0).after [.openTrove 7 10.0 2000.0, .setPrice (300.0 : ℝ)]).InRecovery ∧
      Harmless Parameters.defaultTerms
        ((new Parameters.defaultTerms 1000.0).after [.openTrove 7 10.0 2000.0, .setPrice 300.0]) 7
        (.adjustTrove 7 10.0 100.0)
        (((new Parameters.defaultTerms 1000.0).after [.openTrove 7 10.0 2000.0, .setPrice 300.0]).perform
          (.adjustTrove 7 10.0 100.0)).2 := by
  have accepted := lone_adjusted
  have recovery := lone_recovery
  have positive : 0 < { lone with price := 300.0 }.price := by norm_num
  rw [← lone_priced] at accepted recovery positive
  exact ⟨recovery, borrower_harmless defaultTerms_admissible.secure 1000.0 _ rfl accepted positive⟩

end Ledger
end Stablecoin
