import Mathlib.Tactic.IntervalCases
import Stablecoin.Proofs.Ledger.Atomicity

/-!
The supply is backed by the debt of the troves. Borrowing moves both by the same
amount; a liquidation cancels debt against the pool and leaves the rest with the other
troves; a redemption burns the debt that it takes and the gas reserve of every trove
that it closes (`Accounted`, `perform_accounted`). The two totals part only over what
a liquidation forgives where the pool is too small to cancel against, and over the
remainder of a trove that a redemption closes, so along a run by at most two
tolerances for each trove that was settled (`supply_backed`).
-/
namespace Stablecoin.Ledger
open Number (tolerance tolerance_pos)
variable {ledger left : Ledger ℝ}

/-- The supply that no debt stands behind. -/
noncomputable def unbacked (ledger : Ledger ℝ) : ℝ := ledger.supply - ledger.totalDebt

/-- How many troves an answer tells of that were liquidated or closed by redemption. -/
def settledTroves {α : Type} : Except (Refusal α) (Answer α) → Nat
  | .ok (.liquidated liquidations) => liquidations.length
  | .ok (.redeemed redemption) => redemption.closed.length
  | _ => 0

/-- After each liquidation of the call the troves that are left hold collateral
    together, so that they can take debt over. -/
def LeavesCollateral (ledger : Ledger ℝ) : Call ℝ → Prop
  | .liquidateTroves liquidator count => ∀ done ≤ count, (ledger.liquidateUpTo liquidator done).1 ≠ [] →
      tolerance < (ledger.liquidateUpTo liquidator done).2.totalCollateral
  | _ => True

/-- How an answer accounts for the change of the supply and of the debt. -/
def Accounted (ledger left : Ledger ℝ) : Except (Refusal ℝ) (Answer ℝ) → Prop
  | .ok (.changed change) =>
    left.supply = ledger.supply + change.debt ∧ left.totalDebt = ledger.totalDebt + change.debt
  | .ok (.liquidated liquidations) =>
    left.totalDebt = ledger.totalDebt - (liquidations.map (·.debtOffset)).sum ∧
      |left.supply - (ledger.supply - (liquidations.map (·.debtOffset)).sum)| ≤ tolerance * (2 * liquidations.length : ℕ)
  | .ok (.redeemed redemption) =>
    left.supply = ledger.supply - (redemption.redeemed + ledger.terms.gasCompensation * redemption.closed.length) ∧
      |left.totalDebt -
          (ledger.totalDebt - (redemption.redeemed + ledger.terms.gasCompensation * redemption.closed.length))| ≤
        tolerance * redemption.closed.length
  | _ => left.supply = ledger.supply ∧ left.totalDebt = ledger.totalDebt

theorem Accounted.unbacked_le {answer : Except (Refusal ℝ) (Answer ℝ)} (accounted : Accounted ledger left answer) :
    |left.unbacked - ledger.unbacked| ≤ 2 * tolerance * settledTroves answer := by
  have same (supply : left.supply - ledger.supply = left.totalDebt - ledger.totalDebt) :
      |left.unbacked - ledger.unbacked| ≤ 2 * tolerance * (0 : ℕ) := by
    have equal : left.unbacked - ledger.unbacked = 0 := by
      unfold unbacked
      linarith
    rw [equal, abs_zero, Nat.cast_zero, mul_zero]
  have kept (untouched : left.supply = ledger.supply ∧ left.totalDebt = ledger.totalDebt) :
      |left.unbacked - ledger.unbacked| ≤ 2 * tolerance * (0 : ℕ) :=
    same (by rw [untouched.1, untouched.2, sub_self, sub_self])
  rcases answer with _ | answer
  · exact kept accounted
  cases answer with
  | done => exact kept accounted
  | amount amount => exact kept accounted
  | claimed gains => exact kept accounted
  | changed change =>
    obtain ⟨supply, debt⟩ := accounted
    exact same (by rw [supply, debt]; ring)
  | liquidated liquidations =>
    obtain ⟨debt, supply⟩ := accounted
    have moved : left.unbacked - ledger.unbacked =
        left.supply - (ledger.supply - (liquidations.map (·.debtOffset)).sum) := by
      unfold unbacked
      rw [debt]
      ring
    rw [moved]
    refine supply.trans (le_of_eq ?_)
    push_cast [settledTroves]
    ring
  | redeemed redemption =>
    obtain ⟨supply, debt⟩ := accounted
    have moved : left.unbacked - ledger.unbacked = -(left.totalDebt -
        (ledger.totalDebt - (redemption.redeemed + ledger.terms.gasCompensation * redemption.closed.length))) := by
      unfold unbacked
      rw [supply]
      ring
    rw [moved, abs_neg]
    refine debt.trans ?_
    have closed : (0 : ℝ) ≤ redemption.closed.length := Nat.cast_nonneg _
    simp only [settledTroves]
    linarith [mul_nonneg tolerance_pos.le closed]

theorem Opening.accounted {account : AccountId} {collateral netDebt : ℝ} {change : TroveChange ℝ}
    (opening : Opening ledger account collateral netDebt change left) :
    Accounted ledger left (.ok (.changed change)) :=
  ⟨by rw [opening.left_eq], opening.changes.debt⟩

theorem Closing.accounted {account : AccountId} {trove : Trove ℝ} {change : TroveChange ℝ}
    (closing : Closing ledger account trove change left) : Accounted ledger left (.ok (.changed change)) := by
  refine ⟨?_, closing.changes.debt⟩
  rw [closing.left_eq, closing.change_eq]
  exact sub_eq_add_neg _ _

theorem Adjustment.accounted {account : AccountId} {collateralDelta debtDelta : ℝ} {trove : Trove ℝ}
    {change : TroveChange ℝ} (adjustment : Adjustment ledger account collateralDelta debtDelta trove change left) :
    Accounted ledger left (.ok (.changed change)) :=
  ⟨by rw [adjustment.left_eq, adjustment.debt_eq], adjustment.changes.debt⟩

/-- The supply falls by the debt, unless the pool is too small and so is the debt. -/
theorem offset_supply_le (ledger : Ledger ℝ) {debt bound : ℝ} (collateral : ℝ) (nonneg : 0 ≤ debt)
    (small : ledger.totalDeposits ≤ tolerance → debt ≤ bound) (bound_nonneg : 0 ≤ bound) :
    |(ledger.offset debt collateral).supply - (ledger.supply - debt)| ≤ bound := by
  rcases le_or_gt ledger.totalDeposits tolerance with none | some
  · rw [offset_of_none none, sub_sub_cancel, abs_of_nonneg nonneg]
    exact small none
  · rw [offset_of_some some, sub_self, abs_zero]
    exact bound_nonneg

theorem offset_totalDebt (ledger : Ledger ℝ) (debt collateral : ℝ) :
    (ledger.offset debt collateral).totalDebt = ledger.totalDebt := by
  rw [totalDebt, offset_troves, totalDebt]

theorem redistribute_supply (ledger : Ledger ℝ) (debt collateral : ℝ) :
    (ledger.redistribute debt collateral).supply = ledger.supply := by
  obtain ⟨troves, changed⟩ := ledger.redistribute_eq debt collateral
  rw [changed]

theorem seize_totalDebt {account : AccountId} {trove : Trove ℝ} (found : ledger.troves.get? account = some trove)
    (liquidator : AccountId) : (ledger.seize account liquidator trove).totalDebt = ledger.totalDebt - trove.debt := by
  rw [totalDebt_eq, totalDebt_eq]
  exact Book.sumOf_erase_found _ found

theorem liquidates_accounted (wellFormed : ledger.WellFormed) {liquidator : AccountId} {liquidation : Liquidation ℝ}
    (liquidates : Liquidates liquidator ledger liquidation left) (collateral : tolerance < left.totalCollateral) :
    left.totalDebt = ledger.totalDebt - liquidation.debtOffset ∧
      |left.supply - (ledger.supply - liquidation.debtOffset)| ≤ 2 * tolerance := by
  have small := tolerance_pos
  cases liquidates with
  | @capped account icr trove several worst found eligible recovery secured =>
    have indebted := (wellFormed.troves account trove found).indebted wellFormed.secure
    have covered := eligible.covered secured
    constructor
    · exact (offset_totalDebt _ _ _).trans (seize_totalDebt found liquidator)
    · refine offset_supply_le (ledger.seize account liquidator trove) _ indebted.le (fun none => ?_) (by linarith)
      have deposits : ledger.totalDeposits ≤ tolerance := none
      linarith
  | @inFull account icr trove several worst found eligible unsecured =>
    have indebted := (wellFormed.troves account trove found).indebted wellFormed.secure
    have deposits : 0 ≤ (ledger.seize account liquidator trove).totalDeposits := wellFormed.totalDeposits_nonneg
    simp only [settleInFull, Number.min_real] at collateral ⊢
    constructor
    · rw [redistribute_totalDebt, offset_totalDebt, seize_totalDebt found]
      · ring
      · -- Had the others no collateral, none would be left either.
        by_contra none
        rw [redistribute_of_none (not_lt.mp none)] at collateral
        exact none collateral
    · rw [redistribute_supply]
      refine offset_supply_le (ledger.seize account liquidator trove) _ (le_min indebted.le deposits)
        (fun none => ?_) (by linarith)
      exact (min_le_right _ _).trans (by linarith)

theorem liquidateUpTo_accounted (liquidator : AccountId) (count : Nat) (wellFormed : ledger.WellFormed)
    (collateral : ledger.LeavesCollateral (.liquidateTroves liquidator count)) :
    Accounted ledger (ledger.liquidateUpTo liquidator count).2
      (.ok (.liquidated (ledger.liquidateUpTo liquidator count).1)) := by
  induction count generalizing ledger with
  | zero => simp [Accounted, liquidateUpTo]
  | succ count ih =>
    cases next : ledger.nextLiquidation?.bind (ledger.liquidateOne? · liquidator) with
    | none => simp [Accounted, liquidateUpTo, next]
    | some done =>
      obtain ⟨liquidation, mid⟩ := done
      have unfolded (more : Nat) : ledger.liquidateUpTo liquidator (more + 1) =
          (liquidation :: (mid.liquidateUpTo liquidator more).1, (mid.liquidateUpTo liquidator more).2) := by
        simp [liquidateUpTo, next]
      have liquidates := liquidates_of_next next
      have first : tolerance < mid.totalCollateral := by
        have one := collateral 1 (Nat.le_add_left 1 count)
        rw [unfolded 0] at one
        exact one (by simp)
      have later : mid.LeavesCollateral (.liquidateTroves liquidator count) := by
        intro done within some
        have more := collateral (done + 1) (Nat.succ_le_succ within)
        rw [unfolded done] at more
        exact more (by simp)
      obtain ⟨debt, supply⟩ := liquidates_accounted wellFormed liquidates first
      obtain ⟨debts, supplies⟩ := ih (wellFormed.liquidates liquidates) later
      rw [unfolded count]
      simp only [Accounted, List.map_cons, List.sum_cons, List.length_cons]
      constructor
      · rw [debts, debt]
        ring
      · have together := abs_add_le
          ((mid.liquidateUpTo liquidator count).2.supply -
            (mid.supply - ((mid.liquidateUpTo liquidator count).1.map (·.debtOffset)).sum))
          (mid.supply - (ledger.supply - liquidation.debtOffset))
        calc _ = _ := by congr 1; ring
          _ ≤ _ := together
          _ ≤ tolerance * (2 * ((mid.liquidateUpTo liquidator count).1.length + 1) : ℕ) := by
            push_cast at supplies ⊢
            linarith

/-- What a walk has burned so far: the gas reserve of every trove that it closed from
    the supply, and that with what it has redeemed from the debt. -/
structure Walk.Burned (start : Ledger ℝ) (walk : Walk ℝ) : Prop where
  terms : walk.ledger.terms = start.terms
  supply : walk.ledger.supply = start.supply - start.terms.gasCompensation * walk.taken.closed.length
  debt : |walk.ledger.totalDebt -
      (start.totalDebt - (walk.taken.redeemed + start.terms.gasCompensation * walk.taken.closed.length))| ≤
    tolerance * walk.taken.closed.length

theorem walkOf_burned (ledger : Ledger ℝ) (amount : ℝ) : (ledger.walkOf amount).Burned ledger where
  terms := rfl
  supply := by simp [walkOf]
  debt := by simp [walkOf]

theorem Walk.kept_nonneg (walk : Walk ℝ) (trove : Trove ℝ) : 0 ≤ walk.kept trove :=
  sub_nonneg.mpr (walk.share_le_net trove)

theorem Walk.Burned.step {walk next : Walk ℝ} {start : Ledger ℝ} (burned : walk.Burned start)
    (step : Walk.Step walk next) : next.Burned start := by
  cases step with
  | @take account trove wanted found eligible noDust =>
    have terms := burned.terms
    have supply := burned.supply
    have debt := burned.debt
    have kept := walk.kept_nonneg trove
    by_cases closes : walk.kept trove ≤ tolerance
    · have left : walk.kept trove = trove.debt - start.terms.gasCompensation - walk.share trove := by
        rw [Walk.kept, terms]
      have length : ((walk.taken.closed ++ [account]).length : ℝ) = walk.taken.closed.length + 1 := by simp
      refine ⟨(walk.take_terms account trove _ _).trans terms, ?_, ?_⟩
      · simp only [Walk.take, if_pos closes, terms, supply, length]
        ring
      · simp only [Walk.take, if_pos closes, length]
        rw [totalDebt_eq, Book.sumOf_erase_found _ found, ← totalDebt_eq]
        rw [abs_le] at debt ⊢
        constructor <;> linarith
    · refine ⟨(walk.take_terms account trove _ _).trans terms, ?_, ?_⟩
      · simp only [Walk.take, if_neg closes]
        exact supply
      · simp only [Walk.take, if_neg closes]
        rw [totalDebt_eq, Book.sumOf_insert_found _ found, ← totalDebt_eq]
        rw [abs_le] at debt ⊢
        constructor <;> linarith

theorem Walked.burned {redeemer : AccountId} {amount : ℝ} {walk : Walk ℝ}
    (walked : Walked ledger redeemer amount walk) : walk.Burned ledger :=
  walked.keeps (ledger.walkOf_burned amount) fun _ _ burned step => burned.step step

theorem redeems_accounted (wellFormed : ledger.WellFormed) {redeemer : AccountId} {amount : ℝ}
    {result : Except (Refusal ℝ) (Redemption ℝ)} (redeems : Redeems ledger redeemer amount result left) :
    Accounted ledger left (result.map .redeemed) := by
  cases result with
  | error refusal =>
    rw [redeems_refused wellFormed redeems]
    exact ⟨rfl, rfl⟩
  | ok redemption =>
    cases redeems with
    | @accepted walk paid baseRate fee walked something debited baseRate_eq fee_eq =>
      have burned := walked.burned
      obtain ⟨_, rfl⟩ := debit_ok debited
      refine ⟨?_, burned.debt⟩
      simp only [burned.supply]
      ring

theorem perform_accounted (wellFormed : ledger.WellFormed) {call : Call ℝ} (collateral : ledger.LeavesCollateral call) :
    Accounted ledger (ledger.perform call).2 (ledger.perform call).1 := by
  have performs := ledger.perform_performs call
  generalize (ledger.perform call).1 = answer at performs ⊢
  generalize (ledger.perform call).2 = left at performs ⊢
  cases performs with
  | priceSet price => exact ⟨rfl, rfl⟩
  | periodPassed => exact ⟨rfl, rfl⟩
  | opened opening => exact opening.accounted
  | closed closing => exact closing.accounted
  | adjusted adjustment => exact adjustment.accounted
  | @liquidated liquidator count liquidations left something batch =>
    have settled := liquidateUpTo_accounted liquidator count wellFormed collateral
    rw [batch] at settled
    exact settled
  | redeemed redeems => exact redeems_accounted wellFormed redeems
  | provided accepted =>
    obtain ⟨_, paid, debited, rfl⟩ := provide_ok accepted
    obtain ⟨_, rfl⟩ := debit_ok debited
    exact ⟨rfl, rfl⟩
  | withdrawn withdrawal =>
    rw [withdrawal.left_eq]
    exact ⟨rfl, rfl⟩
  | claimed owed => exact ⟨rfl, rfl⟩
  | issued amount =>
    unfold issueRewards
    dsimp only
    split <;> exact ⟨rfl, rfl⟩
  | transferred accepted =>
    obtain ⟨_, paid, debited, rfl⟩ := transfer_ok accepted
    obtain ⟨_, rfl⟩ := debit_ok debited
    exact ⟨rfl, rfl⟩
  | refused notRedeem refusal => exact ⟨rfl, rfl⟩

theorem new_unbacked (terms : Terms ℝ) (price : ℝ) : (new terms price).unbacked = 0 := by
  simp [unbacked, totalDebt_eq, new]

/-- After calls whose liquidations leave collateral, the supply differs from the debt
    of the troves by at most two tolerances for each trove that was liquidated or
    closed by redemption, and every further call of that kind accounts for what it
    changes. -/
theorem supply_backed {terms : Terms ℝ} (admissible : terms.Admissible) (price : ℝ) (calls : List (Call ℝ))
    (collateral : (new terms price).Along LeavesCollateral calls) :
    |((new terms price).after calls).supply - ((new terms price).after calls).totalDebt| ≤
        2 * tolerance * (((new terms price).answers calls).map settledTroves).sum ∧
      ∀ call, ((new terms price).after calls).LeavesCollateral call →
        Accounted ((new terms price).after calls) (((new terms price).after calls).perform call).2
          (((new terms price).after calls).perform call).1 := by
  refine ⟨?_, fun call leaves => perform_accounted (after_wellFormed admissible price calls) leaves⟩
  have moved := after_moves perform_wellFormed
    (fun {_ _} wellFormed leaves => (perform_accounted wellFormed leaves).unbacked_le)
    (new_wellFormed admissible price) collateral
  rw [new_unbacked, sub_zero] at moved
  exact moved

/-! ### A liquidation that leaves one trove -/

/-- Two troves under the default terms, of which a fallen price has put the second
    below the minimum ratio. -/
noncomputable def pair : Ledger ℝ :=
  { lone with
    price := 700.0
    troves := ⟨[(7, ⟨10.0, 2210.0⟩), (8, ⟨3.0, 2210.0⟩)], by simp⟩
    balances := ⟨[(7, 2000.0), (8, 2000.0)], by simp⟩
    feePool := 20.0
    gasPool := 400.0
    supply := 4420.0 }

theorem pair_eq : pair = ⟨Parameters.defaultTerms, 700.0, ⟨[(7, ⟨10.0, 2210.0⟩), (8, ⟨3.0, 2210.0⟩)], by simp⟩,
    ⟨[(7, 2000.0), (8, 2000.0)], by simp⟩, .empty, .empty, .empty, 0, 400.0, 20.0, 4420.0, 0, 0, 0⟩ := rfl

/-- The calls that lead to the two troves, and the liquidation of the second. -/
noncomputable def pairCalls : List (Call ℝ) :=
  [.openTrove 7 10.0 2000.0, .openTrove 8 3.0 2000.0, .setPrice 700.0, .liquidateTroves 9 1]

theorem lone_joined : lone.perform (.openTrove 8 3.0 2000.0) =
    (.ok (.changed ⟨3.0, 2210.0, 10.0⟩), { pair with price := 1000.0 }) := by
  apply CalmOpening.perform
  constructor <;>
    norm_num [inRecovery_iff, readings, pair_eq, lone_eq, Parameters.defaultTerms, Number.tolerance_real]

theorem pair_sorted : pair.sortedTroves = [(8, .of (2100 / 2210)), (7, .of (7000 / 2210))] := by
  norm_num [pair, sortedTroves, place, Precedes, Trove.icr]

theorem pair_unsecured : (Trove.icr ⟨3.0, 2210.0⟩ pair.price).Below (.of pair.terms.mcr) := by
  norm_num [pair_eq, Trove.icr, Parameters.defaultTerms]

/-- The second trove goes. -/
theorem pair_next : pair.nextLiquidation?.bind (pair.liquidateOne? · 9) =
    some ((pair.seize 8 9 ⟨3.0, 2210.0⟩).settleInFull 8 ⟨3.0, 2210.0⟩) :=
  next_of_unsecured (by decide) (congrArg List.head? pair_sorted) rfl pair_unsecured 9

theorem pair_leavesCollateral : pair.LeavesCollateral (.liquidateTroves 9 1) := by
  intro done within several
  interval_cases done
  · simp [liquidateUpTo] at several
  · have settled : (pair.liquidateUpTo 9 1).2 = ((pair.seize 8 9 ⟨3.0, 2210.0⟩).settleInFull 8 ⟨3.0, 2210.0⟩).2 := by
      simp [liquidateUpTo, pair_next]
    rw [settled]
    norm_num [settleInFull, seize, offset, redistribute, readings, pair_eq, credit, Number.tolerance_real]

theorem pairCalls_leaveCollateral : (new Parameters.defaultTerms 1000.0).Along LeavesCollateral pairCalls := by
  refine ⟨trivial, ?_⟩
  rw [lone_opened]
  refine ⟨trivial, ?_⟩
  rw [lone_joined]
  exact ⟨trivial, pair_leavesCollateral, trivial⟩

theorem pairCalls_backed :
    (new Parameters.defaultTerms 1000.0).Along LeavesCollateral pairCalls ∧
      |((new Parameters.defaultTerms 1000.0).after pairCalls).supply -
          ((new Parameters.defaultTerms 1000.0).after pairCalls).totalDebt| ≤
        2 * tolerance * (((new Parameters.defaultTerms 1000.0).answers pairCalls).map settledTroves).sum :=
  ⟨pairCalls_leaveCollateral, (supply_backed defaultTerms_admissible 1000.0 pairCalls pairCalls_leaveCollateral).1⟩

end Stablecoin.Ledger
