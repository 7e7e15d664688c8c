import Stablecoin.Proofs.Market.Turns
import Stablecoin.Proofs.Run.Agreement

/-!
What the adjustments of a period achieve. Each of the four kinds solves for the amount that
brings the trove to its target ratio, and an accepted one does so exactly
(`Ledger.Adjustment.reaches`), except that a draw in recovery pays no fee and falls short of the
debt that was aimed at. A turn touches the trove of its own account and no other, so what one
turn has restored the later ones leave alone, and the sums of a period are those of its turns
(`adjust_restores`).
-/
namespace Stablecoin
open Ledger
open Number (tolerance tolerance_pos)

theorem Trove.icr_of_collateral {debt price target : ℝ} (indebted : 0 < debt) (positive : 0 < price) :
    (Trove.mk (debt * target / price) debt).icr price = .of target := by
  rw [Trove.icr, if_neg (not_le.mpr indebted)]
  field_simp

theorem Trove.icr_of_debt {collateral price target : ℝ} (held : 0 < collateral) (positive : 0 < price)
    (target_pos : 0 < target) : (Trove.mk collateral (collateral * price / target)).icr price = .of target := by
  have indebted : 0 < collateral * price / target := div_pos (mul_pos held positive) target_pos
  rw [Trove.icr, if_neg (not_le.mpr indebted)]
  field_simp

/-- The ratio lies below the target where the trove is worth less than that multiple. -/
theorem Borrower.deviation_neg_iff {borrower : Borrower ℝ} (target : 0 < borrower.targetCr) {trove : Trove ℝ}
    (indebted : 0 < trove.debt) (price : ℝ) :
    borrower.deviation (trove.icr price).toNumber < 0 ↔ trove.collateral * price < borrower.targetCr * trove.debt := by
  have icr : (trove.icr price).toNumber = trove.collateral * price / trove.debt := by
    simp [Trove.icr, not_le.mpr indebted, Ratio.toNumber]
  rw [icr, deviation, if_neg (not_le.mpr target), div_lt_iff₀ target, zero_mul, sub_neg, div_lt_iff₀ indebted]

/-- The adjustment moves collateral or debt to where the ratio is at its target, a draw up to
    its fee. -/
inductive Rebalance.Aims (trove : Trove ℝ) (target price rate : ℝ) : Rebalance ℝ → Prop
  | addCollateral (short : 0 ≤ trove.debt * target / price - trove.collateral) :
      Aims trove target price rate (.addCollateral (trove.debt * target / price - trove.collateral))
  | repay (much : 0 < trove.debt - trove.collateral * price / target) :
      Aims trove target price rate (.repay (trove.debt - trove.collateral * price / target))
  | withdrawCollateral (much : 0 ≤ trove.collateral - trove.debt * target / price) :
      Aims trove target price rate (.withdrawCollateral (trove.collateral - trove.debt * target / price))
  | draw (short : 0 ≤ (trove.collateral * price / target - trove.debt) / (1 + rate)) :
      Aims trove target price rate (.draw ((trove.collateral * price / target - trove.debt) / (1 + rate)))

theorem rebalance_aims {borrower : Borrower ℝ} (target : 0 < borrower.targetCr) {trove : Trove ℝ}
    (indebted : 0 < trove.debt) {price rate : ℝ} (positive : 0 < price) (nonneg : 0 ≤ rate) (viaCollateral : Bool) :
    Rebalance.Aims trove borrower.targetCr price rate (rebalance trove borrower.targetCr price rate
      (decide (borrower.deviation (trove.icr price).toNumber < 0)) viaCollateral) := by
  have sign := Borrower.deviation_neg_iff target indebted price
  by_cases fell : borrower.deviation (trove.icr price).toNumber < 0
  · have less := sign.mp fell
    rw [decide_eq_true fell]
    cases viaCollateral with
    | true =>
      refine .addCollateral (sub_nonneg.mpr ((le_div_iff₀ positive).mpr ?_))
      linarith
    | false =>
      refine .repay (sub_pos.mpr ((div_lt_iff₀ target).mpr ?_))
      linarith
  · have more := not_lt.mp (mt sign.mpr fell)
    rw [decide_eq_false fell]
    cases viaCollateral with
    | true =>
      refine .withdrawCollateral (sub_nonneg.mpr ((div_le_iff₀ positive).mpr ?_))
      linarith
    | false =>
      refine .draw (div_nonneg (sub_nonneg.mpr ((le_div_iff₀ target).mpr ?_)) (by linarith))
      linarith

/-- The collateral of the account, which is nothing without a trove. -/
def Ledger.collateralOf (ledger : Ledger ℝ) (account : AccountId) : ℝ :=
  ((ledger.troves.get? account).map (·.collateral)).getD 0

/-- The debt of the account, which is nothing without a trove. -/
def Ledger.debtOf (ledger : Ledger ℝ) (account : AccountId) : ℝ :=
  ((ledger.troves.get? account).map (·.debt)).getD 0

/-- The collateral that the account has in its trove beyond what it had there before. -/
noncomputable def Ledger.collateralGrown (ledger left : Ledger ℝ) (account : AccountId) : ℝ :=
  max (left.collateralOf account - ledger.collateralOf account) 0

/-- The debt that the account has beyond what it had before. -/
noncomputable def Ledger.debtGrown (ledger left : Ledger ℝ) (account : AccountId) : ℝ :=
  max (left.debtOf account - ledger.debtOf account) 0

/-- The turn of the account has changed its trove, and what was counted grew by what was added
    to it. The trove is at the target unless it drew debt in recovery. -/
structure Rebalanced (ledger : Ledger ℝ) (account : AccountId) (target : ℝ) (outcome : Issuance ℝ) (left : Ledger ℝ)
    (last : Issuance ℝ) (trove after : Trove ℝ) : Prop where
  found : ledger.troves.get? account = some trove
  troves : left.troves = ledger.troves.insert account after
  restored : ¬ (trove.debt < after.debt ∧ ledger.InRecovery) → after.icr ledger.price = .of target
  accounts : last.accounts = outcome.accounts ++ [account]
  collateralAdded : last.collateralAdded = outcome.collateralAdded + max (after.collateral - trove.collateral) 0
  issued : last.stableIssued + last.fee = outcome.stableIssued + outcome.fee + max (after.debt - trove.debt) 0

namespace Ledger
variable {ledger left : Ledger ℝ} {account : AccountId} {collateralDelta debtDelta : ℝ} {trove : Trove ℝ}
  {change : TroveChange ℝ}

theorem Adjustment.fee_of_not_drawn
    (adjustment : Adjustment ledger account collateralDelta debtDelta trove change left) (kept : ¬ 0 < debtDelta) :
    change.fee = 0 := by
  rw [adjustment.fee_eq, if_neg fun draws => kept draws.1]

theorem Adjustment.left_troves (adjustment : Adjustment ledger account collateralDelta debtDelta trove change left) :
    left.troves = ledger.troves.insert account
      ⟨trove.collateral + collateralDelta, trove.debt + debtDelta + change.fee⟩ := by
  rw [adjustment.left_eq]

end Ledger

section
open Rebalance (collateralDelta debtDelta book)

/-- An accepted adjustment moves the trove to its target. -/
theorem Ledger.Adjustment.reaches {ledger left : Ledger ℝ} {account : AccountId} {trove : Trove ℝ} {target : ℝ}
    {change : TroveChange ℝ} {rebalance : Rebalance ℝ}
    (adjustment : Adjustment ledger account rebalance.collateralDelta rebalance.debtDelta trove change left)
    (aims : rebalance.Aims trove target ledger.price ledger.borrowingRate)
    (wellFormed : ledger.WellFormed) (positive : 0 < ledger.price) (target_pos : 0 < target) (outcome : Issuance ℝ) :
    Rebalanced ledger account target outcome left (rebalance.book account change outcome) trove
      ⟨trove.collateral + rebalance.collateralDelta, trove.debt + rebalance.debtDelta + change.fee⟩ := by
  have sound := wellFormed.troves account trove adjustment.found
  have indebted := sound.indebted wellFormed.secure
  have rate := wellFormed.secured.borrowingRate_nonneg
  cases aims with
  | addCollateral short =>
    have fee := adjustment.fee_of_not_drawn (lt_irrefl 0)
    refine ⟨adjustment.found, adjustment.left_troves, fun _ => ?_, rfl, ?_, ?_⟩
    · simp only [collateralDelta, debtDelta, fee, add_zero, add_sub_cancel]
      exact Trove.icr_of_collateral indebted positive
    · simp only [collateralDelta, book, add_sub_cancel_left, max_eq_left short]
    · simp only [debtDelta, book, fee, add_zero, sub_self, max_self]
  | repay much =>
    have fee := adjustment.fee_of_not_drawn (not_lt.mpr (neg_nonpos.mpr much.le))
    refine ⟨adjustment.found, adjustment.left_troves, fun _ => ?_, rfl, ?_, ?_⟩
    · simp only [collateralDelta, debtDelta, fee, add_zero, neg_sub, add_sub_cancel]
      exact Trove.icr_of_debt sound.collateral positive target_pos
    · simp only [collateralDelta, book, add_zero, sub_self, max_self]
    · simp only [debtDelta, book, fee, add_zero, add_sub_cancel_left, max_eq_right (neg_nonpos.mpr much.le)]
  | withdrawCollateral much =>
    have fee := adjustment.fee_of_not_drawn (lt_irrefl 0)
    refine ⟨adjustment.found, adjustment.left_troves, fun _ => ?_, rfl, ?_, ?_⟩
    · simp only [collateralDelta, debtDelta, fee, add_zero, neg_sub, add_sub_cancel]
      exact Trove.icr_of_collateral indebted positive
    · simp only [collateralDelta, book, add_sub_cancel_left, max_eq_right (neg_nonpos.mpr much), add_zero]
    · simp only [debtDelta, book, fee, add_zero, sub_self, max_self]
  | draw short =>
    have drawn : 0 < (trove.collateral * ledger.price / target - trove.debt) / (1 + ledger.borrowingRate) := by
      -- A draw of nothing would not have been accepted.
      refine lt_of_le_of_ne short fun none => adjustment.moves ?_
      simp only [collateralDelta, debtDelta, ← none, Number.abs_real, abs_zero]
      exact ⟨tolerance_pos.le, tolerance_pos.le⟩
    have fee_nonneg := adjustment.fee_nonneg wellFormed.secured
    refine ⟨adjustment.found, adjustment.left_troves, fun exempt => ?_, rfl, ?_, ?_⟩
    · simp only [debtDelta, collateralDelta, add_zero] at exempt ⊢
      have calm : ¬ ledger.InRecovery := fun recovery => exempt ⟨by linarith, recovery⟩
      have fee : change.fee = _ := adjustment.fee_eq.trans (if_pos ⟨drawn, calm⟩)
      have debt : trove.debt + (trove.collateral * ledger.price / target - trove.debt) / (1 + ledger.borrowingRate) +
          change.fee = trove.collateral * ledger.price / target := by
        rw [fee, debtDelta, add_assoc, ← mul_one_add, div_mul_cancel₀ _ (by linarith), add_sub_cancel]
      rw [debt]
      exact Trove.icr_of_debt sound.collateral positive target_pos
    · simp only [collateralDelta, book, add_zero, sub_self, max_self]
    · simp only [debtDelta, book]
      rw [max_eq_left (by linarith)]
      ring

end

namespace Market
variable {context : Context ℝ} {market left : Market ℝ} {account : AccountId} {outcome last : Issuance ℝ}

/-! ### One turn -/

/-- How a turn ends: with the troves as they were and nothing counted, or with the trove of
    the account moved. -/
inductive Turned (market : Market ℝ) (account : AccountId) (outcome : Issuance ℝ) : Ledger ℝ → Issuance ℝ → Prop
  | idle {left : Ledger ℝ} {last : Issuance ℝ} (troves : left.troves = market.ledger.troves)
      (counted : last = { outcome with tally := last.tally }) : Turned market account outcome left last
  | moved {left : Ledger ℝ} {last : Issuance ℝ} {borrower : Borrower ℝ} {trove after : Trove ℝ}
      (known : market.roster.get? account = some borrower)
      (moves : Rebalanced market.ledger account borrower.targetCr outcome left last trove after) :
      Turned market account outcome left last

/-- What every turn leaves as it was. -/
structure Frame (market left : Market ℝ) : Prop where
  roster : left.roster = market.roster
  price : left.ledger.price = market.ledger.price
  wellFormed : market.ledger.WellFormed → left.ledger.WellFormed

theorem rebalance?_some {rebalance : Rebalance ℝ} (chosen : market.rebalance? context account = some rebalance) :
    ∃ borrower trove fell viaCollateral, market.roster.get? account = some borrower ∧
      market.ledger.troves.get? account = some trove ∧
      fell = decide (borrower.deviation (trove.icr context.collateralPrice).toNumber < 0) ∧
      rebalance = Stablecoin.rebalance trove borrower.targetCr context.collateralPrice market.ledger.borrowingRate fell
        viaCollateral := by
  unfold rebalance? at chosen
  split at chosen
  · split at chosen
    · rename_i borrower trove known found
      exact ⟨borrower, trove, _, _, known, found, rfl, (Option.some.inj chosen).symm⟩
    · cases chosen
  · cases chosen

theorem fund_steady {ledger funded : Ledger ℝ} {need? : Option ℝ} (topped : ledger.fund account need? = .ok funded) :
    Steady ledger funded := by
  cases need? with
  | none =>
    cases topped
    exact Steady.refl _
  | some need => exact topUp_steady topped

theorem adjustTurn_turned (wellFormed : market.ledger.WellFormed)
    (price : context.collateralPrice = market.ledger.price) (positive : 0 < market.ledger.price)
    (targets : ∀ borrower, market.roster.get? account = some borrower → 0 < borrower.targetCr) (outcome : Issuance ℝ) :
    Turned market account outcome (adjustTurn context (market, outcome) account).1.ledger
        (adjustTurn context (market, outcome) account).2 ∧
      Frame market (adjustTurn context (market, outcome) account).1 := by
  rw [adjustTurn_eq]
  cases chosen : market.rebalance? context account with
  | none => exact ⟨.idle rfl rfl, rfl, rfl, id⟩
  | some rebalance =>
    obtain ⟨borrower, trove, fell, viaCollateral, known, found, rfl, chosen_eq⟩ := rebalance?_some chosen
    have target := targets borrower known
    have sound := wellFormed.troves account trove found
    have aims : rebalance.Aims trove borrower.targetCr market.ledger.price market.ledger.borrowingRate := by
      rw [chosen_eq, price]
      exact rebalance_aims target (sound.indebted wellFormed.secure) positive
        wellFormed.secured.borrowingRate_nonneg viaCollateral
    simp only [rebalance.apply_eq]
    cases topped : market.ledger.fund account rebalance.need? with
    | error refusal => exact ⟨.idle rfl rfl, rfl, rfl, id⟩
    | ok funded =>
      have kept := (fund_steady topped).wellFormed wellFormed
      obtain ⟨balances, rfl⟩ := fund_ok topped
      dsimp only
      cases adjusted : Ledger.adjustTrove _ account rebalance.collateralDelta rebalance.debtDelta with
      | error refusal => exact ⟨.idle rfl rfl, rfl, rfl, fun _ => kept⟩
      | ok result =>
        obtain ⟨change, left⟩ := result
        obtain ⟨held, adjustment⟩ := adjustTrove_ok adjusted
        obtain rfl : trove = held := Option.some.inj (found.symm.trans adjustment.found)
        have moves := adjustment.reaches aims kept positive target outcome
        refine ⟨.moved known { moves with }, rfl, ?_, fun _ => adjustment.wellFormed kept⟩
        rw [adjustment.left_eq]

/-! ### A period -/

/-- The market and what was counted once the accounts have taken their turns. -/
noncomputable def afterTurns (context : Context ℝ) (market : Market ℝ) (turns : List AccountId) :
    Market ℝ × Issuance ℝ :=
  turns.foldl (adjustTurn context) (market, Issuance.none)

/-- The account draws debt when the system is in recovery at its turn. -/
def DrawsInRecovery (context : Context ℝ) (market : Market ℝ) (turns : List AccountId) (left : Ledger ℝ)
    (account : AccountId) : Prop :=
  market.ledger.debtOf account < left.debtOf account ∧
    (afterTurns context market (turns.takeWhile (· != account))).1.ledger.InRecovery

/-- The trove of the account is at the target of its borrower. -/
def AtTarget (market : Market ℝ) (left : Ledger ℝ) (account : AccountId) : Prop :=
  ∃ borrower, market.roster.get? account = some borrower ∧ left.icr? account = some (.of borrower.targetCr)

/-- What the turns have achieved. The accounts that were adjusted are different ones, each is
    at its target unless it drew debt while the system was in recovery, and no other trove
    has changed. What was counted is the collateral that was added, apart from what was
    withdrawn, and the debt that was drawn, apart from what was repaid. -/
structure Restores (context : Context ℝ) (market : Market ℝ) (turns : List AccountId) (left : Ledger ℝ)
    (outcome : Issuance ℝ) : Prop where
  among : ∀ account ∈ outcome.accounts, account ∈ turns
  nodup : outcome.accounts.Nodup
  restored : ∀ account ∈ outcome.accounts,
    ¬ DrawsInRecovery context market turns left account → AtTarget market left account
  unchanged : ∀ account ∉ outcome.accounts, left.troves.get? account = market.ledger.troves.get? account
  collateralAdded : outcome.collateralAdded = (outcome.accounts.map (market.ledger.collateralGrown left)).sum
  issued : outcome.stableIssued + outcome.fee = (outcome.accounts.map (market.ledger.debtGrown left)).sum

theorem takeWhile_append_of_mem {turns : List AccountId} (member : account ∈ turns) (next : AccountId) :
    (turns ++ [next]).takeWhile (· != account) = turns.takeWhile (· != account) := by
  induction turns with
  | nil => cases member
  | cons first rest ih =>
    by_cases here : first = account
    · simp [here]
    · have there : account ∈ rest := (List.mem_cons.mp member).resolve_left (Ne.symm here)
      simp [here, ih there]

theorem takeWhile_append_of_not_mem {turns : List AccountId} (fresh : account ∉ turns) :
    (turns ++ [account]).takeWhile (· != account) = turns := by
  rw [List.takeWhile_append_of_pos, List.takeWhile_cons_of_neg (by simp), List.append_nil]
  intro other member
  simpa using fun same : other = account => fresh (same ▸ member)

/-- A turn leaves the troves of the other accounts as they are. -/
theorem Turned.other {after : Ledger ℝ} (turned : Turned market account outcome after last) {id : AccountId}
    (different : id ≠ account) : after.troves.get? id = market.ledger.troves.get? id := by
  cases turned with
  | idle troves counted => rw [troves]
  | moved known moves => rw [moves.troves, Book.get?_insert, if_neg different]

section
variable {turns : List AccountId} {mid after : Ledger ℝ} {next : AccountId}

/-- What was restored stays so while the troves of those accounts and the price do. -/
theorem Restores.kept (restores : Restores context market turns mid outcome) (price : after.price = mid.price)
    (same : ∀ id ∈ outcome.accounts, after.troves.get? id = mid.troves.get? id) (next : AccountId) :
    (∀ account ∈ outcome.accounts,
        ¬ DrawsInRecovery context market (turns ++ [next]) after account → AtTarget market after account) ∧
      outcome.collateralAdded = (outcome.accounts.map (market.ledger.collateralGrown after)).sum ∧
      outcome.stableIssued + outcome.fee = (outcome.accounts.map (market.ledger.debtGrown after)).sum := by
  refine ⟨fun account member exempt => ?_, ?_, ?_⟩
  · have restored := restores.restored account member
    rw [AtTarget, icr?, same account member, price]
    rw [DrawsInRecovery, takeWhile_append_of_mem (restores.among account member), debtOf, debtOf, same account member]
      at exempt
    exact restored exempt
  · rw [restores.collateralAdded]
    refine congrArg List.sum (List.map_congr_left fun account member => ?_)
    rw [collateralGrown, collateralGrown, collateralOf, collateralOf, collateralOf, same account member]
  · rw [restores.issued]
    refine congrArg List.sum (List.map_congr_left fun account member => ?_)
    rw [debtGrown, debtGrown, debtOf, debtOf, debtOf, same account member]

/-- One more account takes its turn. -/
theorem Restores.turn {state : Market ℝ} (restores : Restores context market turns state.ledger outcome)
    (reached : (afterTurns context market turns).1 = state) (roster : state.roster = market.roster)
    (fresh : next ∉ turns) (turned : Turned state next outcome after last) (price : after.price = state.ledger.price) :
    Restores context market (turns ++ [next]) after last := by
  have absent : next ∉ outcome.accounts := fun member => fresh (restores.among next member)
  have others (id : AccountId) (member : id ∈ outcome.accounts) :
      after.troves.get? id = state.ledger.troves.get? id :=
    turned.other fun same => absent (same ▸ member)
  obtain ⟨restored, collateralAdded, issued⟩ := restores.kept price others next
  have among (id : AccountId) (member : id ∈ outcome.accounts) : id ∈ turns ++ [next] :=
    List.mem_append_left _ (restores.among id member)
  cases turned with
  | idle troves counted =>
    rw [counted]
    refine ⟨among, restores.nodup, restored, fun id unlisted => ?_, collateralAdded, issued⟩
    rw [troves]
    exact restores.unchanged id unlisted
  | @moved borrower trove now known moves =>
    have found : after.troves.get? next = some now := by rw [moves.troves, Book.get?_insert, if_pos rfl]
    have was : market.ledger.troves.get? next = some trove := (restores.unchanged next absent).symm.trans moves.found
    have debts : after.debtOf next = now.debt ∧ market.ledger.debtOf next = trove.debt := by
      simp [debtOf, found, was]
    have collaterals : after.collateralOf next = now.collateral ∧
        market.ledger.collateralOf next = trove.collateral := by
      simp [collateralOf, found, was]
    have own (exempt : ¬ DrawsInRecovery context market (turns ++ [next]) after next) : AtTarget market after next := by
      rw [DrawsInRecovery, takeWhile_append_of_not_mem fresh, reached, debts.1, debts.2] at exempt
      refine ⟨borrower, by rw [← roster, known], ?_⟩
      rw [icr?, found, price, Option.map_some, moves.restored exempt]
    constructor
    case among =>
      rw [moves.accounts]
      intro id member
      rcases List.mem_append.mp member with earlier | this
      · exact among id earlier
      · exact List.mem_append_right _ this
    case nodup =>
      rw [moves.accounts]
      refine restores.nodup.append (List.nodup_singleton next) ?_
      rwa [List.disjoint_singleton]
    case restored =>
      rw [moves.accounts]
      intro id member exempt
      rcases List.mem_append.mp member with earlier | this
      · exact restored id earlier exempt
      · obtain rfl := List.mem_singleton.mp this
        exact own exempt
    case unchanged =>
      rw [moves.accounts]
      intro id unlisted
      obtain ⟨unlisted, different⟩ := not_or.mp (mt List.mem_append.mpr unlisted)
      rw [moves.troves, Book.get?_insert, if_neg (mt List.mem_singleton.mpr different)]
      exact restores.unchanged id unlisted
    case collateralAdded =>
      rw [moves.collateralAdded, collateralAdded, moves.accounts, List.map_append, List.sum_append, List.map_singleton,
        List.sum_singleton, collateralGrown, collaterals.1, collaterals.2]
    case issued =>
      rw [moves.issued, issued, moves.accounts, List.map_append, List.sum_append, List.map_singleton,
        List.sum_singleton, debtGrown, debts.1, debts.2]

end

theorem afterTurns_append (context : Context ℝ) (market : Market ℝ) (turns : List AccountId) (next : AccountId) :
    afterTurns context market (turns ++ [next]) = adjustTurn context (afterTurns context market turns) next := by
  rw [afterTurns, List.foldl_append]
  rfl

theorem restores_none (context : Context ℝ) (market : Market ℝ) :
    Restores context market [] market.ledger Issuance.none where
  among _ member := member
  nodup := List.nodup_nil
  restored _ member := absurd member List.not_mem_nil
  unchanged _ _ := rfl
  collateralAdded := rfl
  issued := add_zero 0

theorem Frame.trans {mid : Market ℝ} (first : Frame market mid) (second : Frame mid left) : Frame market left :=
  ⟨second.roster.trans first.roster, second.price.trans first.price, fun wellFormed =>
    second.wellFormed (first.wellFormed wellFormed)⟩

/-- Different accounts take their turns one after another. -/
theorem afterTurns_restores (wellFormed : market.ledger.WellFormed)
    (price : context.collateralPrice = market.ledger.price) (positive : 0 < market.ledger.price)
    (turns : List AccountId) (nodup : turns.Nodup)
    (targets : ∀ account ∈ turns, ∀ borrower, market.roster.get? account = some borrower → 0 < borrower.targetCr) :
    Restores context market turns (afterTurns context market turns).1.ledger (afterTurns context market turns).2 ∧
      Frame market (afterTurns context market turns).1 := by
  induction turns using List.reverseRecOn with
  | nil => exact ⟨restores_none context market, rfl, rfl, id⟩
  | append_singleton turns next ih =>
    obtain ⟨distinct, -, apart⟩ := List.nodup_append.mp nodup
    have fresh : next ∉ turns := fun member => apart next member next (List.mem_singleton.mpr rfl) rfl
    obtain ⟨restores, frame⟩ := ih distinct fun account member => targets account (List.mem_append_left _ member)
    have target (borrower : Borrower ℝ) (known : (afterTurns context market turns).1.roster.get? next = some borrower) :
        0 < borrower.targetCr := by
      rw [frame.roster] at known
      exact targets next (List.mem_append_right _ (List.mem_singleton.mpr rfl)) borrower known
    have turned := adjustTurn_turned (frame.wellFormed wellFormed) (price.trans frame.price.symm)
      (positive.trans_eq frame.price.symm) target (afterTurns context market turns).2
    rw [afterTurns_append]
    exact ⟨restores.turn rfl frame.roster fresh turned.1 turned.2.price, frame.trans turned.2⟩

/-- After any calls, with the price of the collateral as the ledger has it, the adjustments of
    a period restore the ratios that the borrowers aim at, and count no less collateral than
    nothing. -/
theorem adjust_restores {p : Parameters ℝ} (valid : p.Valid) (conventional : p.terms.Conventional) (price : ℝ)
    (calls : List (Call ℝ)) {roster : Roster ℝ} (division : roster.Division)
    (targets : ∀ account ∈ roster.activeBorrowers, ∀ borrower, roster.get? account = some borrower →
      0 < borrower.targetCr)
    (context : Context ℝ) :
    let market : Market ℝ := ⟨(new p.terms price).after calls, roster⟩
    let left := adjust context market
    context.collateralPrice = market.ledger.price → 0 < market.ledger.price →
      Restores context market roster.activeBorrowers left.1.ledger left.2 ∧ 0 ≤ left.2.collateralAdded := by
  intro market left collateralPrice positive
  have wellFormed : market.ledger.WellFormed := after_wellFormed (valid.admissible conventional) price calls
  have nodup : roster.activeBorrowers.Nodup := division.nodup.filter _
  have restores : Restores context market roster.activeBorrowers left.1.ledger left.2 :=
    (afterTurns_restores wellFormed collateralPrice positive roster.activeBorrowers nodup targets).1
  refine ⟨restores, ?_⟩
  rw [restores.collateralAdded]
  refine List.sum_nonneg fun added member => ?_
  obtain ⟨account, _, rfl⟩ := List.mem_map.mp member
  exact le_max_right _ _

/-! ### A draw and a top-up -/

/-- The first borrower aims at two, and the second at one and a half. -/
noncomputable def unequal : Roster ℝ := coupleAiming 2.0 1.5

theorem unequal_active : unequal.activeBorrowers = [7, 8] := by
  simp [Roster.activeBorrowers, unequal, coupleAiming_active, whale]

theorem unequal_first : unequal.get? 7 = some ⟨7, true, 2.0, 0.1, some 1, none⟩ := rfl

theorem unequal_second : unequal.get? 8 = some ⟨8, true, 1.5, 0.1, some 1, none⟩ := rfl

theorem unequal_targets : ∀ account ∈ unequal.activeBorrowers, ∀ borrower, unequal.get? account = some borrower →
    0 < borrower.targetCr := by
  simp only [unequal_active, List.forall_mem_cons, unequal_first, unequal_second, Option.some.injEq]
  refine ⟨?_, ?_, List.forall_mem_nil _⟩ <;> rintro borrower rfl <;> norm_num

/-- A period in which all borrowers look at their troves. The price has fallen to where one of
    them is short. -/
noncomputable def shortPeriod : Context ℝ :=
  { fallenPeriod with
    parameters := { Parameters.default with
      borrowing := { Parameters.defaultBorrowing with checkProbability := 1 } }
    period := 11
    collateralPrice := 700.0 }

/-- The period asks both borrowers. The one coin is for debt, and the other for collateral. -/
theorem shortPeriod_asks {account : AccountId} (asked : account = 7 ∨ account = 8) :
    isAttentive shortPeriod.parameters.borrowing.checkProbability shortPeriod.streams shortPeriod.period account = true ∧
      coinFlip shortPeriod.streams shortPeriod.period account = decide (account = 8) := by
  rcases asked with rfl | rfl <;>
    exact ⟨decide_eq_true (realOfFloat_lt_one (by decide +kernel)), by decide +kernel⟩

/-- The first borrower has drawn up to its target. -/
noncomputable def pairDrawn : Ledger ℝ :=
  { pair with
    troves := ⟨[(7, ⟨10.0, 3500.0⟩), (8, ⟨3.0, 2210.0⟩)], by simp⟩
    balances := ⟨[(7, 220000 / 67), (8, 2000.0)], by simp⟩
    feePool := 1770 / 67
    supply := 5710.0 }

/-- The second borrower has added what it lacked. -/
noncomputable def pairRestored : Ledger ℝ :=
  { pairDrawn with troves := ⟨[(7, ⟨10.0, 3500.0⟩), (8, ⟨663 / 140, 2210.0⟩)], by simp⟩ }

theorem pair_drawn : CalmAdjustment pair 7 0 (86000 / 67) (430 / 67) ⟨10.0, 2210.0⟩ pairDrawn := by
  constructor <;>
    norm_num [inRecovery_iff, readings, pairDrawn, pair_eq, Parameters.defaultTerms, Number.tolerance_real]

theorem pair_restored : CalmAdjustment pairDrawn 8 (243 / 140) 0 0 ⟨3.0, 2210.0⟩ pairRestored := by
  constructor <;>
    norm_num [inRecovery_iff, readings, pairRestored, pairDrawn, pair_eq, Parameters.defaultTerms,
      Number.tolerance_real]

theorem pair_rebalances : rebalance? shortPeriod ⟨pair, unequal⟩ 7 = some (.draw (86000 / 67)) ∧
    rebalance? shortPeriod ⟨pairDrawn, unequal⟩ 8 = some (.addCollateral (243 / 140)) := by
  have price : shortPeriod.collateralPrice = 700 := by norm_num [shortPeriod]
  constructor
  · obtain ⟨asked, debt⟩ := shortPeriod_asks (.inl rfl)
    norm_num [rebalance?, isTriggered, asked, debt, price, unequal_first, readings, icr?, pair_eq, Trove.icr,
      Ratio.toNumber, Borrower.deviation, rebalance, Parameters.defaultTerms]
  · obtain ⟨asked, collateral⟩ := shortPeriod_asks (.inr rfl)
    norm_num [rebalance?, isTriggered, asked, collateral, price, unequal_second, readings, icr?, pairDrawn, pair_eq,
      Trove.icr, Ratio.toNumber, Borrower.deviation, rebalance, Parameters.defaultTerms, abs_lt, lt_abs]

/-- The first borrower draws what takes it down to two, the fee included, and the second adds
    what takes it up to one and a half. -/
theorem pair_adjusted : ∃ tally, adjust shortPeriod ⟨pair, unequal⟩ =
    (⟨pairRestored, unequal⟩, ⟨[7, 8], 243 / 140, 86000 / 67, 430 / 67, tally⟩) := by
  obtain ⟨draws, adds⟩ := pair_rebalances
  have accepted : pair.adjustTrove 7 0 (86000 / 67) = _ := pair_drawn.accepted
  have added : pairDrawn.adjustTrove 8 (243 / 140) 0 = _ := pair_restored.accepted
  simp only [adjust, unequal_active, List.foldl_cons, List.foldl_nil, adjustTurn_eq, draws, adds, Rebalance.apply,
    accepted, added, Issuance.none, List.nil_append, List.cons_append, zero_add]
  exact ⟨_, rfl⟩

theorem couple_restores :
    let market : Market ℝ :=
      ⟨(new Parameters.defaultTerms 1000.0).after [.openTrove 7 10.0 2000.0, .openTrove 8 3.0 2000.0, .setPrice 700.0],
        unequal⟩
    let left := adjust shortPeriod market
    (∀ account ∈ unequal.activeBorrowers, ∀ borrower, unequal.get? account = some borrower → 0 < borrower.targetCr) ∧
      market.ledger.price = 700 ∧ Restores shortPeriod market unequal.activeBorrowers left.1.ledger left.2 ∧
      left.2.accounts = [7, 8] ∧ left.1.ledger.icr? 7 = some (.of 2) ∧ left.1.ledger.icr? 8 = some (.of 1.5) ∧
      left.2.stableIssued + left.2.fee = 1290 ∧ left.2.collateralAdded = 243 / 140 := by
  intro market left
  have reached : market.ledger = pair := by
    simp only [market, after_cons, lone_opened, lone_joined]
    rfl
  have price : market.ledger.price = 700 := by norm_num [reached, pair]
  have positive : 0 < market.ledger.price := by norm_num [price]
  have division : unequal.Division := ((Roster.ofSize_division 10).activate 7 2.0 0.1 1).activate 8 1.5 0.1 1
  have restores := adjust_restores quiet_valid defaultTerms_conventional 1000.0
    [.openTrove 7 10.0 2000.0, .openTrove 8 3.0 2000.0, .setPrice 700.0] division unequal_targets shortPeriod rfl
    positive
  obtain ⟨tally, adjusted⟩ := pair_adjusted
  have ended : left = (⟨pairRestored, unequal⟩, ⟨[7, 8], 243 / 140, 86000 / 67, 430 / 67, tally⟩) := by
    rw [← adjusted, ← reached]
  refine ⟨unequal_targets, price, restores.1, ?_⟩
  rw [ended]
  norm_num [icr?, pairRestored, pairDrawn, pair, Trove.icr]

end Market
end Stablecoin
