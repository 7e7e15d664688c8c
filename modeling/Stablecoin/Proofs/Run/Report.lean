import Stablecoin.Proofs.Market.Floor
import Stablecoin.Proofs.Run.Outset

/-!
The reports of a run. Each period tells which accounts lost or gave up their troves and
which opened one, and these lists explain how the active accounts changed (`Explains`):
the steps of a period move no account that they do not list (`runSteps_turnover`).

On a roster without accounts nobody is active and nobody joins or leaves, but the trove of
the whale can still be redeemed. A report is wrong exactly where that happens
(`report_explains_iff`).
-/
namespace Stablecoin
open Ledger

section AnyNumbers
variable {α : Type}

/-- The accounts that were active and have kept their troves, or lost them to redemption
    only. -/
def Report.stayed (report : Report α) (before : Roster α) : Finset AccountId :=
  before.active.toFinset \ (report.liquidated.toFinset ∪ report.closed.toFinset)

/-- The report explains how the active accounts have changed. An account may be listed as
    closed and as opened, or as opened and as redeemed out. -/
structure Report.Explains (report : Report α) (before after : Roster α) : Prop where
  liquidated_nodup : report.liquidated.Nodup
  closed_nodup : report.closed.Nodup
  apart : Disjoint report.liquidated.toFinset report.closed.toFinset
  left : report.liquidated.toFinset ∪ report.closed.toFinset ⊆ before.active.toFinset
  opened_nodup : report.opened.Nodup
  fresh : Disjoint report.opened.toFinset (report.stayed before)
  redeemedOut_nodup : report.redeemedOut.Nodup
  redeemedOut : report.redeemedOut.toFinset ⊆ report.stayed before ∪ report.opened.toFinset
  active : after.active.toFinset =
    (report.stayed before ∪ report.opened.toFinset) \ report.redeemedOut.toFinset
  whale : whale ∉ report.opened ∧ whale ∉ report.closed

/-- A report explains what its lists do one after another. -/
theorem Report.explains_of_turnover {report : Report α} {before mid last after : Roster α}
    (divided : before.Division) (divides : after.Division)
    (leaves : before.Leaves (report.liquidated ++ report.closed) mid) (joins : mid.Joins report.opened last)
    (redeemed : last.Leaves report.redeemedOut after)
    (whale : whale ∉ report.opened ∧ whale ∉ report.closed) : report.Explains before after := by
  have stayed (id : AccountId) : id ∈ report.stayed before ↔ mid.IsActive id := by
    rw [leaves.isActive, ← divided.mem_active, stayed, Finset.mem_sdiff, Finset.mem_union, List.mem_toFinset,
      List.mem_toFinset, List.mem_toFinset, List.mem_append]
  have held (id : AccountId) : id ∈ report.stayed before ∪ report.opened.toFinset ↔ last.IsActive id := by
    rw [joins.isActive, Finset.mem_union, stayed, List.mem_toFinset]
  obtain ⟨liquidated, closed, apart⟩ := List.nodup_append.mp leaves.nodup
  constructor
  case liquidated_nodup => exact liquidated
  case closed_nodup => exact closed
  case apart =>
    rw [Finset.disjoint_left]
    intro id first second
    exact apart id (List.mem_toFinset.mp first) id (List.mem_toFinset.mp second) rfl
  case left =>
    intro id member
    rw [← List.toFinset_append, List.mem_toFinset] at member
    exact List.mem_toFinset.mpr ((divided.mem_active id).mpr (leaves.active id member))
  case opened_nodup => exact joins.nodup
  case fresh =>
    rw [Finset.disjoint_left]
    intro id opened active
    exact joins.inactive id (List.mem_toFinset.mp opened) ((stayed id).mp active)
  case redeemedOut_nodup => exact redeemed.nodup
  case redeemedOut =>
    intro id member
    exact (held id).mpr (redeemed.active id (List.mem_toFinset.mp member))
  case active =>
    ext id
    rw [List.mem_toFinset, divides.mem_active, redeemed.isActive, Finset.mem_sdiff, held, List.mem_toFinset]
  case whale => exact whale

end AnyNumbers

namespace Simulation
open Number (tolerance)
variable {α : Type} [Number α] {sim start left : Simulation α} {parameters : Parameters α} {size : Nat}

/-- The lists of the steps tell who leaves and who joins from one market to the next.
    Only borrowers close, and only idle ones open. -/
structure Steps.Turnover (steps : Steps α) (market first second third last left : Market α) : Prop where
  liquidated : market.Departs steps.liquidated.liquidated first
  nobody : market.roster.active = [] → steps.liquidated.liquidated = []
  closed : first.Departs steps.closed.closed second
  borrowers : ∀ id ∈ steps.closed.closed, id ∈ first.roster.activeBorrowers
  opened : second.Arrives steps.opened.accounts third
  idle : ∀ id ∈ steps.opened.accounts, id ∈ second.roster.idleBorrowers
  issued : third.Arrives steps.peg.issuance.accounts last
  arbitrage : ∀ id ∈ steps.peg.issuance.accounts, id ∈ third.roster.idleBorrowers
  redeemed : last.Departs steps.peg.redeemedOut left

theorem runSteps_turnover (context : Context α) (market : Market α) (state : MarketState α) :
    ∃ first second third last, (runSteps context market state).2.Turnover market first second third last
      (runSteps context market state).1 := by
  unfold runSteps
  have liquidated := Market.liquidate_departs context market state
  have nobody (empty : market.roster.active = []) := Market.liquidate_nobody context empty state
  generalize liquidate context market state = done at liquidated nobody ⊢
  obtain ⟨first, liquidations⟩ := done
  dsimp only at liquidated nobody ⊢
  obtain ⟨borrowers, closed⟩ := Market.close_departs context first
  generalize close context first = done at borrowers closed ⊢
  obtain ⟨kept, closures⟩ := done
  dsimp only at borrowers closed ⊢
  have adjusted := Market.adjust_departs context kept
  generalize adjust context kept = done at adjusted ⊢
  obtain ⟨second, adjustments⟩ := done
  replace closed := closed.trans adjusted
  rw [List.append_nil] at closed
  dsimp only at closed ⊢
  have opened := Market.openTroves_opens context second
  generalize openTroves context second = done at opened ⊢
  obtain ⟨joined, openings⟩ := done
  dsimp only at opened ⊢
  have same := Market.updateDeposits_troves context joined liquidations.stabilityReturn
  generalize updateDeposits context joined liquidations.stabilityReturn = done at same ⊢
  obtain ⟨ledger, deposits⟩ := done
  dsimp only at same ⊢
  have deposited : Market.Arrives joined [] ⟨ledger, joined.roster⟩ := .fewer fun id held => same ▸ held
  replace deposited := opened.arrives.trans deposited
  rw [List.append_nil] at deposited
  obtain ⟨arbitrage, last, issued, redeemed⟩ :=
    Market.stabilizePrice_turnover context ⟨ledger, joined.roster⟩ state.liquidityDemand
  exact ⟨first, second, ⟨ledger, joined.roster⟩, last, liquidated, nobody, closed, borrowers, deposited, opened.idle,
    issued, arbitrage, redeemed⟩

namespace Steps.Turnover
variable {steps : Steps α} {market first second third last left : Market α}

omit [Number α] in
theorem tracked (turnover : steps.Turnover market first second third last left) (tracked : market.Tracked size) :
    left.Tracked size :=
  turnover.redeemed.tracked (turnover.issued.tracked (turnover.opened.tracked (turnover.closed.tracked
    (turnover.liquidated.tracked tracked))))

omit [Number α] in
theorem whale (turnover : steps.Turnover market first second third last left) :
    whale ∉ steps.opened.accounts ++ steps.peg.issuance.accounts ∧ whale ∉ steps.closed.closed := by
  constructor
  · intro member
    rcases List.mem_append.mp member with opened | issued
    · simpa using (List.mem_filter.mp (turnover.idle _ opened)).2
    · simpa using (List.mem_filter.mp (turnover.arbitrage _ issued)).2
  · intro closed
    simpa using (List.mem_filter.mp (turnover.borrowers _ closed)).2

omit [Number α] in
/-- Without accounts the steps list nobody but those whose troves were redeemed. -/
theorem deserted (turnover : steps.Turnover market first second third last left) (tracked : market.Tracked 0) :
    steps.liquidated.liquidated = [] ∧ steps.closed.closed = [] ∧
      steps.opened.accounts ++ steps.peg.issuance.accounts = [] := by
  have liquidated := turnover.liquidated.tracked tracked
  have closed := turnover.closed.tracked liquidated
  have opened := turnover.opened.tracked closed
  refine ⟨turnover.nobody tracked.nobody.1, ?_, List.append_eq_nil_iff.mpr ⟨?_, ?_⟩⟩
  · refine List.eq_nil_iff_forall_not_mem.mpr fun id member => ?_
    have active := (List.mem_filter.mp (turnover.borrowers id member)).1
    rw [liquidated.nobody.1] at active
    exact List.not_mem_nil active
  · refine List.eq_nil_iff_forall_not_mem.mpr fun id member => ?_
    have idle := turnover.idle id member
    rw [closed.nobody.2] at idle
    exact List.not_mem_nil idle
  · refine List.eq_nil_iff_forall_not_mem.mpr fun id member => ?_
    have idle := turnover.arbitrage id member
    rw [opened.nobody.2] at idle
    exact List.not_mem_nil idle

/-- The report of the steps explains the change of the active accounts, unless there are no
    accounts and a trove was redeemed. -/
theorem explains_iff (turnover : steps.Turnover market first second third last left) (tracked : market.Tracked size)
    (period : Nat) (rewardMarket : RewardMarket α) :
    (steps.report period rewardMarket).Explains market.roster left.roster ↔ size ≠ 0 ∨ steps.peg.redeemedOut = [] := by
  rcases Nat.eq_zero_or_pos size with none | some
  · subst none
    obtain ⟨liquidated, closed, opened⟩ := turnover.deserted tracked
    have before := tracked.nobody.1
    have after := (turnover.tracked tracked).nobody.1
    have stayed : (steps.report period rewardMarket).stayed market.roster = ∅ := by simp [Report.stayed, before]
    constructor
    · intro explains
      have listed := explains.redeemedOut
      rw [stayed, Steps.report, opened] at listed
      exact .inr (List.toFinset_eq_empty_iff _ |>.mp (Finset.subset_empty.mp (by simpa using listed)))
    · rintro (some | redeemed)
      · exact absurd rfl some
      · constructor <;> simp [Report.stayed, Steps.report, liquidated, closed, opened, redeemed, before, after]
  · refine iff_of_true ?_ (.inl (Nat.ne_of_gt some))
    have liquidated := turnover.liquidated.tracked tracked
    have closed := turnover.closed.tracked liquidated
    have opened := turnover.opened.tracked closed
    have issued := turnover.issued.tracked opened
    exact Report.explains_of_turnover tracked.division (turnover.tracked tracked).division
      ((turnover.liquidated.leaves tracked some).trans (turnover.closed.leaves liquidated some))
      ((turnover.opened.joins closed some).trans (turnover.issued.joins opened some))
      (turnover.redeemed.leaves issued some) turnover.whale

end Steps.Turnover

theorem Starts.tracked (starts : Starts parameters sim) :
    sim.market.Tracked (parameters.accounts % UInt32.size) := by
  have made (drawn : Simulation α) (fresh : Simulation.new parameters = .ok drawn) :
      drawn.market.Tracked (parameters.accounts % UInt32.size) := by
    obtain ⟨_, _, _, rfl⟩ := new_eq fresh
    refine ⟨Roster.ofSize_division _, Roster.size_ofSize _, fun _ id held => ?_⟩
    simp [Ledger.new, Book.Has, Book.empty] at held
  rcases starts with fresh | ⟨drawn, prices, fresh, replayed⟩
  · exact made sim fresh
  · obtain ⟨_, rfl⟩ := withPrices_ok replayed
    exact made drawn fresh

theorem bootstrap_tracked (tracked : sim.market.Tracked size) : sim.bootstrap.2.market.Tracked size := by
  unfold bootstrap
  dsimp only
  split
  · exact tracked
  · have priced := tracked.setPrice (sim.collateralPrices[0]?.getD 0)
    split
    · exact priced
    · rename_i ledger opened
      have followed := priced.opened id (openTrove_ok opened)
        ((ledger.icr? whale).getD .unbounded).toNumber Number.infinity 0
      split
      · exact followed
      · rename_i seeded provided
        have kept : seeded.troves = ledger.troves := by
          split at provided
          · exact provide_troves provided
          · cases provided
            rfl
        split <;> exact followed.fewer fun _ held => kept ▸ held

theorem seedTrove_tracked (tracked : sim.market.Tracked size) (account : AccountId)
    (collateral netDebt targetCr inattention : α) :
    (sim.seedTrove account collateral netDebt targetCr inattention).2.market.Tracked size := by
  unfold seedTrove
  dsimp only
  split
  · exact tracked
  · split
    · exact tracked
    · rename_i available
      split
      · exact tracked
      · rename_i opened
        have known : account < size := by
          rw [← tracked.size_eq]
          by_contra unknown
          have missing : sim.market.roster.get? account = none := Array.getElem?_eq_none (not_lt.mp unknown)
          exact available (.inr (by rw [missing]; rfl))
        exact Market.Tracked.opened tracked (fun _ => known) (openTrove_ok opened) targetCr inattention _

theorem work_turnover (sim : Simulation α) (period : Nat) : ∃ first second third last,
    (sim.work period).2.Turnover ⟨sim.market.ledger.setPrice (sim.priceIn period), sim.market.roster⟩
      first second third last (sim.work period).1 := by
  rw [work]
  exact runSteps_turnover _ _ _

theorem work_tracked (tracked : sim.market.Tracked size) (period : Nat) : (sim.work period).1.Tracked size := by
  obtain ⟨_, _, _, _, turnover⟩ := sim.work_turnover period
  exact turnover.tracked (tracked.setPrice _)

theorem advance_tracked (tracked : sim.market.Tracked size) (period : Nat) :
    (sim.advance period).2.market.Tracked size := by
  have worked := work_tracked tracked period
  have advanced := sim.advance_advanced period
  generalize (sim.advance period).1 = answer at advanced
  generalize (sim.advance period).2 = left at advanced ⊢
  cases advanced with
  | unpriced => exact worked
  | broken => exact worked
  | passed => exact worked.advancePeriod

theorem after_tracked (starts : Starts parameters sim) (calls : List (Call α)) :
    (sim.after calls).market.Tracked (parameters.accounts % UInt32.size) :=
  after_keeps (motive := Market.Tracked _) (fun _ => bootstrap_tracked)
    (fun _ _ _ _ _ _ tracked => seedTrove_tracked tracked _ _ _ _ _)
    (fun _ period tracked => advance_tracked tracked period)
    calls starts.tracked

/-- A period that passes reports its lists last. -/
theorem advance_reports {period : Nat} {row : Row α} (advanced : sim.advance period = (.ok row, left)) :
    row.iteration = period ∧ left.market.roster = (sim.work period).1.roster ∧
      left.reports = sim.reports.push ((sim.work period).2.report period (sim.rewards period)) := by
  have passed := sim.advance_advanced period
  rw [advanced] at passed
  cases passed with
  | passed => exact ⟨rfl, rfl, rfl⟩

/-- After any calls the report of a period explains how the active accounts have changed
    in it, unless the number of accounts is a multiple of 2³² and a trove was redeemed. -/
theorem report_explains_iff (starts : Starts parameters sim) (calls : List (Call α)) {ε : Type}
    (failed : RunError α → ε) (append : Row α → Except ε Unit) {row : Row α}
    (given : ((sim.after calls).stepInto failed append).1 = .ok (some row)) :
    ∃ report, ((sim.after calls).stepInto failed append).2.reports.back? = some report ∧
      report.period = row.iteration ∧
      (report.Explains (sim.after calls).ready.2.market.roster
          ((sim.after calls).stepInto failed append).2.market.roster ↔
        parameters.accounts % UInt32.size ≠ 0 ∨ report.redeemedOut = []) := by
  have tracked := ready_keeps (motive := Market.Tracked _) (fun _ => bootstrap_tracked) (after_tracked starts calls)
  have stepped := stepInto_stepped failed append (sim.after calls)
  rw [given] at stepped
  generalize ((sim.after calls).stepInto failed append).2 = left at stepped ⊢
  cases stepped with
  | @taken mid last row booted remains advanced taken =>
    rw [booted] at tracked ⊢
    obtain ⟨iteration, roster, reports⟩ := advance_reports advanced
    obtain ⟨_, _, _, _, turnover⟩ := mid.work_turnover mid.nextPeriod
    refine ⟨(mid.work mid.nextPeriod).2.report mid.nextPeriod (mid.rewards mid.nextPeriod), ?_, iteration.symm, ?_⟩
    · rw [moveOn, reports, Array.back?_push]
    · rw [moveOn, roster]
      exact turnover.explains_iff (tracked.setPrice _) _ _

namespace Outset
variable {sim : Simulation ℝ} {parameters : Parameters ℝ} {ledger : Ledger ℝ}

/-- The period passes at a positive price. -/
theorem passes (outset : sim.Outset parameters ledger) (collateral : 0 ≤ parameters.bootstrap.whaleCollateral)
    (positive : 0 < (sim.work 1).2.peg.stablePrice) (added : 0 ≤ (sim.work 1).2.peg.issuance.collateralAdded)
    (divided : (sim.work 1).1.roster.isPartitioned = true) : ∃ row, (sim.advance 1).1 = .ok row := by
  obtain ⟨_, _, _, _, nobody⟩ := outset.worked
  refine advance_passes ⟨positive, rfl⟩ ?_ divided
  have adjusted := congrArg Issuance.collateralAdded nobody.adjusted
  have opened := congrArg Issuance.collateralAdded nobody.opened
  simp only [carried, Steps.carry, nobody.collateralLiquidated, adjusted, opened, outset.state]
  simp only [openingState, MarketState.initial, Issuance.none, Number.tolerance_real]
  linarith

/-- A step into a table that takes every row gives the row of the period and its report. -/
theorem stepped (outset : sim.Outset parameters ledger) (collateral : 0 ≤ parameters.bootstrap.whaleCollateral)
    (positive : 0 < (sim.work 1).2.peg.stablePrice) (added : 0 ≤ (sim.work 1).2.peg.issuance.collateralAdded)
    (divided : (sim.work 1).1.roster.isPartitioned = true) :
    ∃ row left, sim.stepInto some (table fun _ => true) = (.ok (some row), left) ∧
      left.reports.back? = some ((sim.work 1).2.report 1 (sim.rewards 1)) ∧
      left.market.roster = (sim.work 1).1.roster := by
  obtain ⟨row, passes⟩ := outset.passes collateral positive added divided
  have booted : sim.ready = (.ok (), sim) := ready_of_started (by simp [outset.running])
  have remains : sim.Remains := ⟨by simp [outset.running], by rw [outset.first, outset.periods]⟩
  obtain ⟨last, advanced⟩ : ∃ last, sim.advance sim.nextPeriod = (.ok row, last) :=
    ⟨_, by rw [outset.first, ← passes]⟩
  obtain ⟨_, roster, reports⟩ := advance_reports advanced
  rw [outset.first] at roster reports
  refine ⟨row, _, stepInto_of_passes booted remains advanced rfl, ?_, roster⟩
  rw [moveOn, reports, Array.back?_push]

end Outset

/-- The slim market, bootstrapped a little above its ceiling. -/
noncomputable def joining : Parameters ℝ :=
  { Market.slimParameters with
    periods := 1
    bootstrap := ⟨10.0, 2000.0, 0, 2225.0 / 2210.0⟩ }

theorem joining_valid : joining.Valid :=
  { Market.slimParameters_valid with
    initialStablePrice := by norm_num [joining]
    stabilityInitial := by norm_num [joining] }

theorem joining_outset {sim : Simulation ℝ} (made : Simulation.new joining = .ok sim) :
    sim.bootstrap.2.Outset joining Market.slim :=
  bootstrap_outset made ⟨rfl, rfl, rfl, rfl, rfl⟩ Market.slim_opened (le_refl 1)
    (by norm_num [readings, Market.slim, Ledger.new]) (by norm_num [Market.slim])

theorem joining_slim {sim : Simulation ℝ} (outset : sim.Outset joining Market.slim) {funded : Ledger ℝ}
    (gains : GainsApart (Market.slim.setPrice 2000.0) funded) (roster : Roster ℝ) :
    Market.Slim (sim.context 1 2000.0) ⟨funded, roster⟩ where
  liquidity := by rw [context, outset.parameters_eq]; rfl
  terms := by rw [context, outset.parameters_eq]; rfl
  price := rfl
  gains := gains

/-- In the only period an account opens a trove beside the whale's. -/
theorem joining_works {sim : Simulation ℝ} (outset : sim.Outset joining Market.slim) :
    ∃ targetCr inattention issuance, issuance.accounts = [1] ∧ 0 ≤ issuance.collateralAdded ∧
      (sim.work 1).1.roster = sim.market.roster.activate 1 targetCr inattention 1 ∧
      (sim.work 1).2.peg = ⟨2225 / (2410 + 1800 * 1.005), 2225, 0, 0, [], {}, issuance⟩ ∧
      (sim.work 1).2.opened = Issuance.none := by
  obtain ⟨funded, gains, left, peg, nobody⟩ := outset.worked
  have demand : sim.state.liquidityDemand = 2225 := by
    norm_num [outset.state, openingState, joining, Market.slim, Market.slimParameters, Number.pow_real,
      Real.rpow_neg_one]
  have first : sim.market.roster.idleBorrowers.head? = some 1 := by
    obtain ⟨ratio, market⟩ := outset.market
    rw [market]
    rfl
  obtain ⟨ledger, inattention, issuance, -, -, accounts, added, issued⟩ :=
    (joining_slim outset gains sim.market.roster).issued first (by norm_num : (1.005 : ℝ) * 2210 < 2225)
      (by norm_num : 1800 = max (((2225 : ℝ) / 1.005 - 2410) / 1.005) 1800) (by norm_num)
  rw [demand, issued] at left peg
  exact ⟨_, inattention, issuance, accounts, added, congrArg Market.roster left, peg, nobody.opened⟩

/-- The report says that the account has opened a trove, and it has become active. -/
theorem joining_explains : ∃ (sim : Simulation ℝ) (report : Report ℝ), Starts joining sim ∧
    (∃ row, ((sim.after [.bootstrap]).stepInto some (table fun _ => true)).1 = .ok (some row)) ∧
    ((sim.after [.bootstrap]).stepInto some (table fun _ => true)).2.reports.back? = some report ∧
      report.opened = [1] ∧ (sim.after [.bootstrap]).ready.2.market.roster.active = [whale] ∧
      ((sim.after [.bootstrap]).stepInto some (table fun _ => true)).2.market.roster.active = [whale, 1] ∧
      report.Explains (sim.after [.bootstrap]).ready.2.market.roster
        ((sim.after [.bootstrap]).stepInto some (table fun _ => true)).2.market.roster := by
  obtain ⟨sim, made⟩ := new_of_valid joining_valid
  have starts : Starts joining sim := .inl made
  have outset := joining_outset made
  obtain ⟨targetCr, inattention, issuance, accounts, added, joined, peg, unopened⟩ := joining_works outset
  obtain ⟨ratio, market⟩ := outset.market
  rw [market] at joined
  have divided : (sim.bootstrap.2.work 1).1.roster.isPartitioned = true := by
    rw [joined]
    exact (((Roster.ofSize_division 2).activate _ _ _ _).activate _ _ _ _).isPartitioned
      (((Roster.ofSize_numbered 2).activate _ _ _ _).activate _ _ _ _)
  obtain ⟨row, left, stepped, last, roster⟩ := outset.stepped (by norm_num [joining]) (by norm_num [peg])
    (by rw [peg]; exact added) divided
  have given : (sim.after [.bootstrap]).stepInto some (table fun _ => true) = (.ok (some row), left) := stepped
  obtain ⟨report, reported, _, explains⟩ := report_explains_iff starts [.bootstrap] some (table fun _ => true)
    (congrArg Prod.fst given)
  have size : joining.accounts % UInt32.size ≠ 0 := by decide
  refine ⟨sim, report, starts, ⟨row, by rw [given]⟩, reported, ?_, ?_, ?_, explains.mpr (.inl size)⟩
  · rw [given, last] at reported
    rw [← Option.some.inj reported, Steps.report, unopened, peg]
    exact accounts
  · rw [ready_of_started (by simp [after, perform, outset.running])]
    exact congrArg (·.roster.active) market
  · rw [given, roster, joined]
    rfl

/-- As many accounts as there are 32-bit words. The whale borrows without a fee, and demand
    collapses in the first period, so that all of its debt is redeemed. -/
noncomputable def drained : Parameters ℝ :=
  { Parameters.quiet with
    periods := 1
    accounts := 4294967296
    terms := { Parameters.defaultTerms with borrowingFeeFloor := 0 }
    bootstrap := { Parameters.defaultBootstrap with stabilityInitial := 0 }
    liquidity := { Parameters.quiet.liquidity with drift := 0.00001, elasticity := -1 } }

theorem drained_valid : drained.Valid :=
  { quiet_valid with
    accounts := by decide
    elasticity := by norm_num [drained]
    stabilityInitial := by norm_num [drained, Parameters.defaultBootstrap] }

/-- The whale has opened its trove. -/
noncomputable def drainedLedger : Ledger ℝ :=
  { Ledger.new drained.terms 2000.0 with
    troves := ⟨[(whale, ⟨30000.0, 10000200.0⟩)], by simp⟩
    balances := quietOpened.balances
    gasPool := 200.0
    supply := 10000200.0 }

theorem drained_opened : ((Ledger.new drained.terms 2000.0).setPrice 2000.0).openTrove whale 30000.0 10000000.0 =
    .ok (⟨30000.0, 10000200.0, 0.0⟩, drainedLedger) := by
  apply CalmOpening.accepted
  constructor
  case calm => exact new_calm _ _
  all_goals norm_num [readings, drainedLedger, drained, quietOpened, Ledger.new, setPrice, Parameters.defaultTerms]

theorem drained_redeemed {ledger : Ledger ℝ} (gains : GainsApart (drainedLedger.setPrice 2000.0) ledger) :
    ∃ redemption left, ledger.redeem whale 10000000.0 = (.ok redemption, left) ∧ redemption.closed = [whale] := by
  obtain ⟨collateralGains, rewardGains, poolCollateral, same⟩ := gains
  have sole : SoleRedemption ledger whale 10000000.0 whale ⟨30000.0, 10000200.0⟩ := by
    rw [same]
    constructor <;>
      norm_num [readings, drainedLedger, drained, quietOpened, Ledger.new, setPrice, Parameters.defaultTerms,
        Number.tolerance_real]
  obtain ⟨redemption, left, accepted, -, closed⟩ := sole.accepted
  refine ⟨redemption, left, accepted, closed.trans (if_pos ?_)⟩
  norm_num [same, drainedLedger, drained, Ledger.new, setPrice, Parameters.defaultTerms, Number.tolerance_real]

theorem drained_readings {ledger : Ledger ℝ} (gains : GainsApart (drainedLedger.setPrice 2000.0) ledger) :
    ledger.supply = 10000200.0 ∧ ledger.totalDeposits = 0 ∧ ledger.balance whale = 10000000.0 ∧
      ledger.borrowingRate = 0 ∧ ledger.redemptionRate = 0.005 := by
  obtain ⟨collateralGains, rewardGains, poolCollateral, rfl⟩ := gains
  norm_num [readings, drainedLedger, drained, quietOpened, setPrice, Ledger.new, Parameters.defaultTerms]

/-- The price of the stablecoin collapses, and what the whale holds is redeemed against its
    own trove. -/
theorem drained_pegged {context : Context ℝ} (parameters : context.parameters = drained) {ledger : Ledger ℝ}
    (gains : GainsApart (drainedLedger.setPrice 2000.0) ledger) (roster : Roster ℝ) :
    (stabilizePrice context ⟨ledger, roster⟩ 10000200.0).2.redeemedOut = [whale] ∧
      0 < (stabilizePrice context ⟨ledger, roster⟩ 10000200.0).2.stablePrice ∧
      (stabilizePrice context ⟨ledger, roster⟩ 10000200.0).2.issuance.collateralAdded = 0 := by
  obtain ⟨redemption, left, redeemed, closed⟩ := drained_redeemed gains
  obtain ⟨supply, pool, held, borrowing, redemptions⟩ := drained_readings gains
  have liquidity : context.parameters.liquidity = ⟨0.00001, 0, -1, 1.1, 1.2⟩ := by
    rw [parameters]
    norm_num [drained, Parameters.quiet, Parameters.default, Parameters.defaultLiquidity]
  have price : clearingPrice ((10000200.0 : ℝ) - 0) (10000200.0 * 0.00001 * (1 + 0)) (-1) = 0.00001 := by
    norm_num [clearingPrice, Number.tolerance_real, Number.pow_real, Real.rpow_neg_one]
  have ceiling : ¬ (1.1 : ℝ) + 0 < 0.00001 := by norm_num
  have floor : (0.00001 : ℝ) < 1 - 0.005 := by norm_num
  have amount : Number.min ((10000200.0 : ℝ) - (0 + 10000200.0 * 0.00001 * (1 + 0) * Number.pow (1 - 0.005) (-1)))
      10000000.0 = 10000000.0 := by
    norm_num [Number.pow_real, Real.rpow_neg_one]
  have something : tolerance < (10000000.0 : ℝ) := by norm_num [Number.tolerance_real]
  have positive : 0 < clearingPrice (left.supply - 0) ((10000200.0 : ℝ) * 0.00001 * (1 + 0)) (-1) := by
    refine Real.rpow_pos_of_pos (div_pos ?_ (by norm_num)) _
    rw [Number.max_real]
    exact lt_max_of_lt_right Number.tolerance_pos
  unfold stabilizePrice defendCeiling defendFloor
  simp only [liquidity, Market.normalShock_zero, supply, pool, held, borrowing, redemptions, price, if_neg ceiling,
    if_pos floor, amount, if_pos something, redeemed]
  exact ⟨closed, positive, rfl⟩

theorem drained_outset {sim : Simulation ℝ} (made : Simulation.new drained = .ok sim) :
    sim.bootstrap.2.Outset drained drainedLedger :=
  bootstrap_outset made ⟨rfl, rfl, rfl, rfl, rfl⟩ drained_opened (le_refl 1)
    (by norm_num [readings, drainedLedger, Ledger.new]) (by norm_num [drainedLedger])

/-- In the only period everything is redeemed. -/
theorem drained_works {sim : Simulation ℝ} (outset : sim.Outset drained drainedLedger) :
    (sim.work 1).2.peg.redeemedOut = [whale] ∧ 0 < (sim.work 1).2.peg.stablePrice ∧
      (sim.work 1).2.peg.issuance.collateralAdded = 0 := by
  obtain ⟨funded, gains, -, peg, -⟩ := outset.worked
  have demand : sim.state.liquidityDemand = 10000200.0 := by
    norm_num [outset.state, openingState, Number.pow_real, drained, drainedLedger, Parameters.defaultBootstrap]
  rw [peg, demand]
  exact drained_pegged outset.parameters_eq gains _

/-- The report says that the whale was redeemed out, who was not active before. -/
theorem drained_unexplained : ∃ (sim : Simulation ℝ) (report : Report ℝ), Starts drained sim ∧
    (∃ row, ((sim.after [.bootstrap]).stepInto some (table fun _ => true)).1 = .ok (some row)) ∧
    ((sim.after [.bootstrap]).stepInto some (table fun _ => true)).2.reports.back? = some report ∧
      report.redeemedOut = [whale] ∧ (sim.after [.bootstrap]).ready.2.market.roster.active = [] ∧
      ¬ report.Explains (sim.after [.bootstrap]).ready.2.market.roster
        ((sim.after [.bootstrap]).stepInto some (table fun _ => true)).2.market.roster := by
  obtain ⟨sim, made⟩ := new_of_valid drained_valid
  have outset := drained_outset made
  have deserted : sim.bootstrap.2.market.Tracked 0 := bootstrap_tracked (Starts.tracked (.inl made))
  obtain ⟨redeemed, positive, unissued⟩ := drained_works outset
  obtain ⟨row, left, stepped, last, roster⟩ := outset.stepped (by norm_num [drained, Parameters.defaultBootstrap])
    positive unissued.ge (work_tracked deserted 1).isPartitioned
  have booted : (sim.after [.bootstrap]).ready = (.ok (), sim.bootstrap.2) :=
    ready_of_started (by simp [after, perform, outset.running])
  have given : (sim.after [.bootstrap]).stepInto some (table fun _ => true) = (.ok (some row), left) := stepped
  refine ⟨sim, _, .inl made, ⟨row, by rw [given]⟩, by rw [given]; exact last, redeemed, ?_, ?_⟩
  · rw [booted]
    exact deserted.nobody.1
  · intro explains
    rw [given, booted, roster] at explains
    obtain ⟨_, _, _, _, turnover⟩ := sim.bootstrap.2.work_turnover 1
    rcases (turnover.explains_iff (deserted.setPrice _) 1 _).mp explains with some | none
    · exact some rfl
    · rw [redeemed] at none
      cases none

end Simulation
end Stablecoin
