import Stablecoin.Proofs.Run.Shape

/-!
The bundle without shocks is a fixed point of the loop over the periods. Once the whale has
opened its trove and seeded the pool, every period finds the run as the bootstrap left it
and leaves it so (`Still`), whatever becomes of the price of the collateral: the last trove
is not liquidated in recovery or below the minimum ratio, and with nobody else in debt no
step has anything to do. So every row repeats the values of the bootstrap, every report is
empty, and a step fails only where its table refuses the row (`quiet_fixed_point`).
-/
namespace Stablecoin

/-- The row tells the values of the run with the stablecoin at par, one trove, and nothing
    liquidated or redeemed. -/
structure Row.Repeats (row : Row ℝ) (start : Simulation ℝ) : Prop where
  stablePrice : row.stablePrice = 1
  numTroves : row.numTroves = 1
  totalCollateral : row.totalCollateral = start.market.ledger.totalCollateral
  totalDebt : row.totalDebt = start.market.ledger.totalDebt
  poolStable : row.poolStable = start.market.ledger.totalDeposits
  totalCollateralAdded : row.totalCollateralAdded = start.state.totalCollateralAdded
  totalCollateralLiquidated : row.totalCollateralLiquidated = 0
  totalStableRedeemed : row.totalStableRedeemed = 0

namespace Simulation
open Ledger
variable {start sim left : Simulation ℝ} {size periods accounts : Nat} {seed : UInt64} {row : Row ℝ}

/-- The run has one trove and has neither liquidated nor redeemed anything. -/
structure Starting (sim : Simulation ℝ) : Prop where
  single : sim.market.ledger.troves.size = 1
  liquidated : sim.state.totalCollateralLiquidated = 0
  redeemed : sim.state.totalStableRedeemed = 0

/-- The run is at rest, with the troves, the deposits and the totals of an earlier state of
    it, and has reported nothing. -/
structure Still (size : Nat) (start sim : Simulation ℝ) : Prop extends Resting size start.state.totals sim where
  troves : sim.market.ledger.troves = start.market.ledger.troves
  deposits : sim.market.ledger.deposits = start.market.ledger.deposits
  reports : ∀ report ∈ sim.reports, report.Idle

/-- What a number of steps gives and leaves, where nothing happens: rows that repeat the
    start, an error of the table only, which has refused such a row, and empty reports. -/
structure Constant {ε : Type} (start : Simulation ℝ) (append : Row ℝ → Except ε Unit)
    (done : List (Row ℝ) × Option ε × Simulation ℝ) : Prop extends Told (·.Repeats start) append done.1 done.2.1 where
  reports : ∀ report ∈ done.2.2.reports, report.Idle

/-- A period gives the readings of the ledger and the state that it leaves. -/
theorem Still.repeats {period : Nat} (still : Still size start (sim.advance period).2) (starting : start.Starting)
    (done : (sim.advance period).1 = .ok row) : row.Repeats start := by
  have advanced := sim.advance_advanced period
  rw [done] at advanced
  generalize (sim.advance period).2 = left at advanced still
  obtain ⟨⟨rests, _, _, totals⟩, troves, deposits, _⟩ := still
  obtain ⟨added, others⟩ := Prod.mk.inj totals
  obtain ⟨liquidated, redeemed⟩ := Prod.mk.inj others
  have par := rests.par
  cases advanced with
  | passed priced =>
    dsimp only [advancePeriod] at troves deposits added liquidated redeemed par
    constructor
    case stablePrice => exact par
    case numTroves => exact (congrArg Book.size troves).trans starting.single
    case totalCollateral =>
      exact congrArg (fun troves : Book (Trove ℝ) => Number.sum (troves.values.map (·.collateral))) troves
    case totalDebt => exact congrArg (fun troves : Book (Trove ℝ) => Number.sum (troves.values.map (·.debt))) troves
    case poolStable => exact congrArg (fun deposits : Book ℝ => Number.sum deposits.values) deposits
    case totalCollateralAdded => exact added
    case totalCollateralLiquidated => exact liquidated.trans starting.liquidated
    case totalStableRedeemed => exact redeemed.trans starting.redeemed

theorem Passes.still {price : ℝ} (passes : sim.Passes price left) (still : Still size start sim)
    (resting : Resting size start.state.totals left) : Still size start left := by
  obtain ⟨_, _, ⟨ledger, ⟨_, _, _, rfl⟩, market⟩, _, _, _, ⟨report, idle, reports⟩⟩ := passes
  refine { resting with troves := ?_, deposits := ?_, reports := ?_ }
  · rw [market]
    exact still.troves
  · rw [market]
    exact still.deposits
  · intro other member
    rw [reports, Array.mem_push] at member
    rcases member with old | rfl
    · exact still.reports other old
    · exact idle

theorem still_passing (size : Nat) (starting : start.Starting) : Passing (Still size start) (·.Repeats start) where
  started _ still := still.started
  passes sim still period := by
    obtain ⟨⟨row, passed⟩, passes⟩ := advance_resting still.rests still.sound period
    have resting := ((resting_passing size start.state.totals).passes sim still.toResting period).2
    have left := passes.still still resting
    exact ⟨⟨row, passed, left.repeats starting passed⟩, left⟩
  moves sim nextPeriod phase still started :=
    { still with toResting := (resting_passing size _).moves sim nextPeriod phase still.toResting started }

theorem Settled.reports (settled : Settled (Still size start) sim) : ∀ report ∈ sim.reports, report.Idle := by
  obtain ⟨mid, booted, still⟩ := settled
  have same : sim.ready.2.reports = sim.reports := ready_frame fun _ _ _ => rfl
  rw [booted] at same
  rw [← same]
  exact still.reports

theorem stepsInto_constant {ε : Type} (failed : RunError ℝ → ε) (append : Row ℝ → Except ε Unit) (count : Nat)
    (settled : Settled (Still size start) sim) (starting : start.Starting) :
    Constant start append (sim.stepsInto failed append count) := by
  obtain ⟨last, told⟩ := stepsInto_passing (still_passing size starting) count settled
  refine { told with reports := ?_ }
  rcases last with same | still
  · rw [same]
    exact settled.reports
  · exact still.reports

/-! ### The bundle without shocks -/

/-- The bundle without shocks over any periods, seed and accounts. -/
noncomputable def quietOver (periods : Nat) (seed : UInt64) (accounts : Nat) : Parameters ℝ :=
  { Parameters.quiet with periods, seed, accounts }

theorem Starts.fresh (starts : Starts (quietOver periods seed accounts) sim) : sim.Fresh accounts := by
  have made (drawn : Simulation ℝ) (fresh : Simulation.new (quietOver periods seed accounts) = .ok drawn) :
      drawn.Fresh accounts := by
    obtain ⟨_, parameters, unstarted, _, market⟩ := new_ok fresh
    exact ⟨⟨periods, seed, parameters⟩, unstarted, market⟩
  rcases starts with fresh | ⟨drawn, prices, fresh, replayed⟩
  · exact made sim fresh
  · obtain ⟨_, rfl⟩ := withPrices_ok replayed
    exact { made drawn fresh with }

theorem Fresh.started (fresh : sim.Fresh accounts) (accepted : sim.bootstrap.1 = .ok ()) :
    sim.bootstrap.2.phase = .running ∧ sim.bootstrap.2.Starting := by
  obtain ⟨_, _, opens⟩ := fresh.opens accepted
  obtain ⟨ratio, booted⟩ := fresh.bootstrapped opens
  rw [booted]
  exact ⟨rfl, rfl, rfl, rfl⟩

theorem Starts.settled (starts : Starts (quietOver periods seed accounts) sim) (accepted : sim.bootstrap.1 = .ok ()) :
    Settled (Still (accounts % UInt32.size) sim.bootstrap.2) sim := by
  have fresh := starts.fresh
  have reports : sim.bootstrap.2.reports = sim.reports := bootstrap_frame fun _ _ _ => rfl
  have blank : sim.reports = #[] := Array.size_eq_zero_iff.mp (starts.counts.1.reports.trans (Nat.zero_min _))
  refine ⟨sim.bootstrap.2, by rw [ready, if_pos fresh.unstarted, ← accepted], ?_⟩
  exact
    { rests := fresh.rests accepted
      sound := bootstrap_sound (starts.sound defaultTerms_conventional)
      started := by simp [(fresh.started accepted).1]
      totals := rfl
      troves := rfl
      deposits := rfl
      reports := by simp [reports, blank] }

/-- The whale opens its trove at the price of the path that is drawn. -/
theorem quiet_drawn (periods : Nat) (seed : UInt64) (populated : 0 < accounts) :
    ∃ drawn, Simulation.new (quietOver periods seed accounts) = .ok drawn ∧ drawn.bootstrap.1 = .ok () ∧
      ∀ period ≤ periods, drawn.priceIn period = 2000 := by
  have valid : (quietOver periods seed accounts).Valid := { quiet_valid with accounts := Nat.not_lt.mpr populated }
  obtain ⟨drawn, made⟩ := new_of_valid valid
  have steady {period : Nat} (within : period ≤ periods) : drawn.priceIn period = 2000 := by
    have volatility : (quietOver periods seed accounts).collateral.volatility ≤ 0 := by
      norm_num [quietOver, Parameters.quiet]
    have drift : (quietOver periods seed accounts).collateral.drift = 0 := by norm_num [quietOver, Parameters.quiet]
    have still : (quietOver periods seed accounts).stability.naturalRateSd = 0 := by
      norm_num [quietOver, Parameters.quiet]
    have rate : 0 ≤ (quietOver periods seed accounts).stability.naturalRateInitial := by
      norm_num [quietOver, Parameters.quiet, Parameters.default, Parameters.defaultStability]
    have found := (new_still made volatility drift still rate within).1
    norm_num [priceIn, found, quietOver, Parameters.quiet, Parameters.default, Parameters.defaultCollateral]
  have price : drawn.priceIn 0 = 2000.0 := by norm_num [steady (Nat.zero_le periods)]
  obtain ⟨change, opened⟩ := quiet_opened 0.005
  obtain ⟨_, booted⟩ := (Starts.fresh (.inl made)).bootstrapped (price.symm ▸ opened)
  exact ⟨drawn, made, by rw [booted], fun period => steady⟩

theorem Starts.run_length (starts : Starts (quietOver periods seed accounts) sim)
    (accepted : sim.bootstrap.1 = .ok ()) : sim.run.2.1 = none ∧ sim.run.1.length = sim.periods := by
  have fresh := starts.fresh
  obtain ⟨running, starting⟩ := fresh.started accepted
  have passes : sim.run.2.1 = none := by
    have constant : Constant sim.bootstrap.2 (fun _ => pure ()) sim.run :=
      stepsInto_constant _ _ _ (starts.settled accepted) starting
    refine Option.eq_none_iff_forall_not_mem.mpr fun fault fails => ?_
    obtain ⟨row, _, refused⟩ := constant.refused fault fails
    cases refused
  have next : sim.bootstrap.2.nextPeriod = sim.nextPeriod := bootstrap_frame fun _ _ _ => rfl
  have periods : sim.bootstrap.2.periods = sim.periods := bootstrap_frame fun _ _ _ => rfl
  have remaining : sim.ready.2.remaining = sim.periods := by
    rw [ready, if_pos fresh.unstarted, Simulation.remaining, running, next, periods, starts.counts.1.next]
    simp
  refine ⟨passes, ?_⟩
  rw [run, runInto, stepsInto_length passes, remaining]
  omega

/-- The bundle without shocks is a fixed point of the loop over the periods. The path that
    is drawn is constant and its bootstrap is accepted. On it, and on every replay whose
    bootstrap is accepted, a run gives a row for each period. Whatever the prices do, and
    however the run is stepped, every row repeats what the bootstrap left, every report is
    empty, and no error is one of the run. -/
theorem quiet_fixed_point (periods : Nat) (seed : UInt64) (populated : 0 < accounts) :
    (∃ drawn, Simulation.new (quietOver periods seed accounts) = .ok drawn ∧ drawn.bootstrap.1 = .ok () ∧
      ∀ period ≤ periods, drawn.priceIn period = 2000) ∧
    ∀ sim, Starts (quietOver periods seed accounts) sim → sim.bootstrap.1 = .ok () →
      (sim.run.2.1 = none ∧ sim.run.1.length = sim.periods) ∧
      ∀ calls, (∀ call ∈ calls, call.isSeed = false) →
        ∀ {ε : Type} (failed : RunError ℝ → ε) (append : Row ℝ → Except ε Unit) (count : Nat),
          Constant sim.bootstrap.2 append ((sim.after calls).stepsInto failed append count) := by
  refine ⟨quiet_drawn periods seed populated, fun sim starts accepted => ⟨starts.run_length accepted, ?_⟩⟩
  intro calls unseeded ε failed append count
  have starting := (starts.fresh.started accepted).2
  exact stepsInto_constant failed append count ((starts.settled accepted).after (still_passing _ starting) unseeded)
    starting

/-- The price falls so far that the collateral is worth less than the debt. -/
noncomputable def crash : Array ℝ := #[2000.0, 300.0, 2000.0]

theorem exists_crash : ∃ sim, Starts (quietOver 2 0 200) sim ∧ sim.periods = 2 ∧ sim.bootstrap.1 = .ok () ∧
    (sim.bootstrap.2.market.ledger.setPrice (sim.priceIn 1)).tcr.Below (.of 1) := by
  obtain ⟨drawn, made, _⟩ := quiet_drawn 2 0 (by decide : 0 < 200)
  have long : 2 ≤ crash.size := (by decide : 2 ≤ 3)
  have positive : crash.find? (fun price => ¬ (0 < price ∧ Number.isFinite price)) = none := by
    norm_num [crash, Number.isFinite_real]
  have replays := withPrices_of_positive (new_ok made).2.2.1 long positive
  have starts : Starts (quietOver 2 0 200) _ := .inr ⟨drawn, crash, made, replays⟩
  obtain ⟨change, opened⟩ := quiet_opened 0.005
  obtain ⟨_, booted⟩ := starts.fresh.bootstrapped opened
  refine ⟨_, starts, ?_, by rw [booted], ?_⟩
  · rw [(new_ok made).2.1]
    rfl
  · rw [booted]
    norm_num [priceIn, crash, tcr, ratio_below_iff, readings, quietLedger, quietOpened, Ledger.new, setPrice,
      Number.tolerance_real]

/-- In the crash the whale is not liquidated, and the stablecoin stays at par. -/
theorem crash_repeats : ∃ sim, Starts (quietOver 2 0 200) sim ∧
    (sim.bootstrap.2.market.ledger.setPrice (sim.priceIn 1)).tcr.Below (.of 1) ∧
    sim.run.1.length = 2 ∧ ∀ row ∈ sim.run.1, row.Repeats sim.bootstrap.2 := by
  obtain ⟨sim, starts, periods, accepted, uncovered⟩ := exists_crash
  obtain ⟨⟨_, long⟩, constant⟩ := (quiet_fixed_point 2 0 (by decide : 0 < 200)).2 sim starts accepted
  exact ⟨sim, starts, uncovered, long.trans periods,
    (constant [] (List.forall_mem_nil _) id (fun _ => pure ()) (sim.periods + 1)).rows⟩

end Simulation
end Stablecoin
