import Stablecoin.Proofs.Run.Quiet

/-!
The past of a run and its horizon. The steps of a period never look at the number of
periods that the run is configured with (`runSteps_toward`), and of the paths they see the
values of their own period. So a run over a longer horizon whose paths start alike goes
the same way for as long as the shorter run lasts: the two move in lock step, with equal
rows, reports, states and markets (`horizon_unseen`).
-/
namespace Stablecoin
variable {α : Type} [Number α]

/-- The same knowledge of a period, under another number of configured periods. -/
def Context.toward (context : Context α) (periods : Nat) : Context α :=
  { context with parameters.periods := periods }

section Contexts
variable (context : Context α) (periods : Nat)

theorem liquidateBatches_toward (batches : Nat) (state : Market α × LiquidationOutcome α) :
    liquidateBatches (context.toward periods) batches state = liquidateBatches context batches state := by
  induction batches generalizing state with
  | zero => rfl
  | succ batches ih =>
    unfold liquidateBatches
    simp only [ih]
    rfl

theorem liquidate_toward (market : Market α) (state : MarketState α) :
    liquidate (context.toward periods) market state = liquidate context market state := by
  unfold liquidate
  simp only [liquidateBatches_toward]
  rfl

theorem closeTurns_toward (accounts : List AccountId) (state : Market α × ClosureOutcome) :
    closeTurns (context.toward periods) accounts state = closeTurns context accounts state := by
  induction accounts generalizing state with
  | nil => rfl
  | cons account rest ih =>
    unfold closeTurns
    simp only [ih]
    rfl

theorem close_toward (market : Market α) : close (context.toward periods) market = close context market := by
  unfold close
  simp only [closeTurns_toward]
  rfl

theorem adjust_toward (market : Market α) : adjust (context.toward periods) market = adjust context market := rfl

theorem openTroves_toward (market : Market α) :
    openTroves (context.toward periods) market = openTroves context market := rfl

theorem updateDeposits_toward (market : Market α) (poolReturn : α) :
    updateDeposits (context.toward periods) market poolReturn = updateDeposits context market poolReturn := rfl

theorem stabilizePrice_toward (market : Market α) (demand : α) :
    stabilizePrice (context.toward periods) market demand = stabilizePrice context market demand := rfl

/-- The steps of a period do not know how many periods there are. -/
theorem runSteps_toward (market : Market α) (state : MarketState α) :
    Simulation.runSteps (context.toward periods) market state = Simulation.runSteps context market state := by
  simp only [Simulation.runSteps, liquidate_toward, close_toward, adjust_toward, openTroves_toward,
    updateDeposits_toward, stabilizePrice_toward]

end Contexts

/-- What a run knows of its length: the number of periods it is configured with and the
    number it will execute, and the paths through them. -/
structure Horizon (α : Type) where
  configured : Nat
  periods : Nat
  collateralPrices : Array α
  naturalRates : Array α

namespace Simulation
variable {sim short long mid left : Simulation α} {parameters : Parameters α} {far : Horizon α}

def horizon (sim : Simulation α) : Horizon α :=
  ⟨sim.parameters.periods, sim.periods, sim.collateralPrices, sim.naturalRates⟩

/-- The run over another horizon. -/
def toward (sim : Simulation α) (far : Horizon α) : Simulation α :=
  { sim with
    parameters.periods := far.configured
    periods := far.periods
    collateralPrices := far.collateralPrices
    naturalRates := far.naturalRates }

/-- Both paths of the horizon have the values that the run has for the period. -/
structure Agrees (far : Horizon α) (sim : Simulation α) (period : Nat) : Prop where
  price : far.collateralPrices[period]? = sim.collateralPrices[period]?
  rate : far.naturalRates[period]? = sim.naturalRates[period]?

theorem bootstrap_toward (agrees : Agrees far sim 0) :
    (sim.toward far).bootstrap = (sim.bootstrap.1, sim.bootstrap.2.toward far) := by
  by_cases unstarted : sim.phase = .bootstrapping
  case neg => simp only [bootstrap, toward, ne_eq, unstarted, not_false_eq_true, if_true]
  cases opened : (sim.market.ledger.setPrice (sim.collateralPrices[0]?.getD 0)).openTrove whale
      sim.parameters.bootstrap.whaleCollateral sim.parameters.bootstrap.whaleDebt with
  | error refusal =>
    simp only [bootstrap, toward, ne_eq, unstarted, not_true_eq_false, if_false, agrees.price, opened]
  | ok answer =>
    obtain ⟨change, ledger⟩ := answer
    cases funded : (if 0 < sim.parameters.bootstrap.stabilityInitial then
        ledger.provide whale sim.parameters.bootstrap.stabilityInitial else pure ledger) with
    | error refusal =>
      simp only [bootstrap, toward, ne_eq, unstarted, not_true_eq_false, if_false, agrees.price, opened, funded]
    | ok left =>
      by_cases idle : left.supply - left.totalDeposits ≤ 0
      · simp only [bootstrap, toward, ne_eq, unstarted, not_true_eq_false, if_false, agrees.price, opened, funded, idle,
          if_true]
      · simp only [bootstrap, toward, ne_eq, unstarted, not_true_eq_false, if_false, agrees.price, opened, funded, idle]
        rfl

theorem Agrees.priceIn {period : Nat} (agrees : Agrees far sim period) :
    (sim.toward far).priceIn period = sim.priceIn period := by
  simp only [Simulation.priceIn, toward, agrees.price]

theorem Agrees.context {period : Nat} (agrees : Agrees far sim period) (price : α) :
    (sim.toward far).context period price = (sim.context period price).toward far.configured := by
  simp only [Simulation.context, Context.toward, toward, agrees.rate]

theorem work_toward {period : Nat} (agrees : Agrees far sim period) :
    (sim.toward far).work period = sim.work period := by
  rw [work, work, agrees.priceIn, agrees.context, runSteps_toward]
  rfl

theorem conclude_toward (sim : Simulation α) (far : Horizon α) (context : Context α) (steps : Steps α) :
    (sim.toward far).conclude (context.toward far.configured) steps =
      ((sim.conclude context steps).1, (sim.conclude context steps).2.toward far) := by
  by_cases priced : 0 < steps.peg.stablePrice ∧ Number.isFinite steps.peg.stablePrice
  case neg => simp only [conclude, toward, Context.toward, priced, not_false_eq_true, if_true]
  by_cases overdrawn : (steps.carry context.period sim.state).totalCollateralAdded + Number.tolerance <
      (steps.carry context.period sim.state).totalCollateralLiquidated
  · simp only [conclude, toward, Context.toward, priced, overdrawn, if_true]
    rfl
  · by_cases divided : sim.market.roster.isPartitioned = true
    · simp only [conclude, toward, Context.toward, priced, overdrawn, divided, not_true_eq_false, if_false]
      rfl
    · simp only [conclude, toward, Context.toward, priced, overdrawn, divided, if_false]
      rfl

theorem advance_toward {period : Nat} (agrees : Agrees far sim period) :
    (sim.toward far).advance period = ((sim.advance period).1, (sim.advance period).2.toward far) := by
  rw [advance_eq, advance_eq, work_toward agrees, agrees.priceIn, agrees.context]
  exact conclude_toward { sim with market := (sim.work period).1 } far _ _

theorem ready_toward (agrees : Agrees far sim 0) : (sim.toward far).ready = (sim.ready.1, sim.ready.2.toward far) := by
  by_cases unstarted : sim.phase = .bootstrapping
  · have unstarts : (sim.toward far).phase = .bootstrapping := unstarted
    rw [ready, ready, if_pos unstarted, if_pos unstarts, bootstrap_toward agrees]
  · have starts : (sim.toward far).phase ≠ .bootstrapping := unstarted
    rw [ready_of_started unstarted, ready_of_started starts]

omit [Number α] in
theorem Agrees.of_horizon {period : Nat} (agrees : Agrees far sim period) (same : left.horizon = sim.horizon) :
    Agrees far left period := by
  have prices : left.collateralPrices = sim.collateralPrices := congrArg Horizon.collateralPrices same
  have rates : left.naturalRates = sim.naturalRates := congrArg Horizon.naturalRates same
  exact ⟨prices ▸ agrees.price, rates ▸ agrees.rate⟩

theorem ready_horizon (sim : Simulation α) : sim.ready.2.horizon = sim.horizon := ready_frame fun _ _ _ => rfl

theorem advance_horizon (sim : Simulation α) (period : Nat) : (sim.advance period).2.horizon = sim.horizon :=
  advance_frame (fun _ _ _ => rfl) period

theorem Stepped.horizon {ε : Type} {failed : RunError α → ε} {append : Row α → Except ε Unit}
    {answer : Except ε (Option (Row α))} (stepped : Stepped failed append sim answer left) :
    left.horizon = sim.horizon :=
  stepped.keeps sim.ready_horizon (fun mid same => (mid.advance_horizon mid.nextPeriod).trans same)
    fun _ _ _ same => same

/-! ### Two runs in lock step -/

/-- The long run is the short one over another horizon, which agrees with it in every
    period that the short one executes. Where the short one has finished, the long one may
    go on. -/
structure Extends (long short : Simulation α) : Prop where
  same : long = { short.toward long.horizon with phase := long.phase }
  phase : short.phase ≠ .finished → long.phase = short.phase
  periods : short.periods ≤ long.periods
  agrees : ∀ period ≤ short.periods, Agrees long.horizon short period

omit [Number α] in
theorem Extends.toward_eq (longer : long.Extends short) (unfinished : short.phase ≠ .finished) :
    long = short.toward long.horizon := by
  have same := longer.same
  rw [longer.phase unfinished] at same
  exact same

omit [Number α] in
theorem Extends.moveOn {period : Nat} (periods : sim.periods ≤ far.periods) (within : period ≤ sim.periods)
    (agrees : ∀ period ≤ sim.periods, Agrees far sim period) :
    ((sim.toward far).moveOn period).Extends (sim.moveOn period) where
  same := rfl
  phase unfinished := by
    have more : period ≠ sim.periods := fun last => unfinished (if_pos last)
    have goes : period ≠ (sim.toward far).periods := (lt_of_le_of_ne within more |>.trans_le periods).ne
    exact (if_neg goes).trans (if_neg more).symm
  periods := periods
  agrees := fun period within => ⟨(agrees period within).price, (agrees period within).rate⟩

section Tables
variable {ε : Type} {failed : RunError α → ε} {append : Row α → Except ε Unit}

/-- A step of the short run that gives a row is a step of the long one. -/
theorem Extends.stepInto (longer : long.Extends short) {row : Row α}
    (given : short.stepInto failed append = (.ok (some row), left)) :
    ∃ farther, long.stepInto failed append = (.ok (some row), farther) ∧ farther.Extends left := by
  have stepped := stepInto_stepped failed append short
  rw [given] at stepped
  cases stepped with
  | @taken mid last _ booted remains advanced taken =>
    have unfinished : short.phase ≠ .finished := by
      intro finished
      have started : short.phase ≠ .bootstrapping := by
        rw [finished]
        exact Phase.noConfusion
      cases (ready_of_started started).symm.trans booted
      exact remains.unfinished finished
    have readied : mid.horizon = short.horizon := by simpa [booted] using short.ready_horizon
    have moved : last.horizon = mid.horizon := by simpa [advanced] using mid.advance_horizon mid.nextPeriod
    have inMid : ∀ period ≤ mid.periods, Agrees long.horizon mid period := fun period within =>
      (longer.agrees period (within.trans_eq (congrArg Horizon.periods readied))).of_horizon readied
    have inLast : ∀ period ≤ last.periods, Agrees long.horizon last period := fun period within =>
      (inMid period (within.trans_eq (congrArg Horizon.periods moved))).of_horizon moved
    have fits : mid.periods ≤ long.horizon.periods := (congrArg Horizon.periods readied).trans_le longer.periods
    -- The long run prepares and executes the same period under its own horizon.
    have prepared : long.ready = (.ok (), mid.toward long.horizon) := by
      have readies := ready_toward (longer.agrees 0 short.periods.zero_le)
      rw [← longer.toward_eq unfinished, booted] at readies
      exact readies
    have executed : (mid.toward long.horizon).advance mid.nextPeriod = (.ok row, last.toward long.horizon) := by
      rw [advance_toward (inMid _ remains.within), advanced]
    have goesOn : (mid.toward long.horizon).Remains := ⟨remains.unfinished, remains.within.trans fits⟩
    have lastPeriods : last.periods = mid.periods := congrArg Horizon.periods moved
    exact ⟨_, stepInto_of_passes prepared goesOn executed taken,
      Extends.moveOn (lastPeriods.trans_le fits) (remains.within.trans_eq lastPeriods.symm) inLast⟩

/-- As long as the short run gives rows, the long one gives the same. -/
theorem Extends.stepsInto (longer : long.Extends short) {count : Nat}
    (given : (short.stepsInto failed append count).1.length = count) :
    (long.stepsInto failed append count).1 = (short.stepsInto failed append count).1 ∧
      (long.stepsInto failed append count).2.1 = none ∧
      (long.stepsInto failed append count).2.2.Extends (short.stepsInto failed append count).2.2 := by
  induction count generalizing long short with
  | zero => exact ⟨rfl, rfl, longer⟩
  | succ count ih =>
    unfold Simulation.stepsInto at given ⊢
    cases answered : short.stepInto failed append with
    | mk answer left =>
      rw [answered] at given
      cases answer with
      | error fault => cases given
      | ok row =>
        cases row with
        | none => cases given
        | some row =>
          obtain ⟨farther, answers, onward⟩ := longer.stepInto answered
          obtain ⟨rows, unbroken, onward⟩ := ih onward (Nat.succ_injective given)
          rw [answers]
          exact ⟨congrArg (row :: ·) rows, unbroken, onward⟩

end Tables

/-! ### Runs that start alike -/

/-- The short run, and the long one that is configured with more periods. Both have drawn
    prices or both replayed ones, of which the short one has the beginning. -/
inductive Paired (parameters : Parameters α) (more : Nat) (short long : Simulation α) : Prop
  | drawn (made : Simulation.new parameters = .ok short)
      (madeLong : Simulation.new { parameters with periods := more } = .ok long)
  | replayed {drawn drawnLong : Simulation α} {prices recorded : Array α}
      (made : Simulation.new parameters = .ok drawn)
      (madeLong : Simulation.new { parameters with periods := more } = .ok drawnLong)
      (begins : prices.toList <+: recorded.toList) (replays : drawn.withPrices prices = .ok short)
      (replaysLong : drawnLong.withPrices recorded = .ok long)

omit [Number α] in
theorem getElem?_of_begins {path longer : Array α} (begins : path.toList <+: longer.toList) {period : Nat}
    (within : period < path.size) : longer[period]? = path[period]? := by
  have inside := List.prefix_iff_getElem?.mp begins period within
  rw [Array.getElem?_toList] at inside
  rw [inside, Array.getElem?_eq_getElem within]
  rfl

theorem new_extends {more : Nat} (longer : parameters.periods ≤ more) (made : Simulation.new parameters = .ok short)
    (madeLong : Simulation.new { parameters with periods := more } = .ok long) : long.Extends short := by
  obtain ⟨_, traits, model, rfl⟩ := new_eq made
  obtain ⟨_, _, again, rfl⟩ := new_eq madeLong
  cases model.symm.trans again
  constructor
  case same => rfl
  case phase => exact fun _ => rfl
  case periods => exact longer
  case agrees =>
    intro period within
    constructor
    · refine getElem?_of_begins (collateralPath_begins _ _ longer) ?_
      rw [size_collateralPath]
      exact Nat.lt_succ_of_le within
    · refine getElem?_of_begins (naturalRatePath_begins _ _ longer) ?_
      rw [size_naturalRatePath]
      exact Nat.lt_succ_of_le within

theorem withPrices_extends {prices recorded : Array α} (longer : long.Extends short)
    (periods : short.periods = short.parameters.periods) (periodsLong : long.periods = long.parameters.periods)
    (begins : prices.toList <+: recorded.toList) (replays : short.withPrices prices = .ok left)
    (replaysLong : long.withPrices recorded = .ok last) : last.Extends left := by
  obtain ⟨some, rfl⟩ := withPrices_ok replays
  obtain ⟨_, rfl⟩ := withPrices_ok replaysLong
  have size : prices.size ≤ recorded.size := begins.length_le
  have fewer := longer.periods
  rw [periods, periodsLong] at fewer
  constructor
  case same =>
    exact congrArg (fun run : Simulation α => { run with
      periods := min long.parameters.periods (recorded.size - 1), collateralPrices := recorded }) longer.same
  case phase => exact longer.phase
  case periods => exact min_le_min fewer (Nat.sub_le_sub_right size 1)
  case agrees =>
    intro period within
    obtain ⟨drawn, recorded⟩ : period ≤ short.parameters.periods ∧ period ≤ prices.size - 1 := le_min_iff.mp within
    exact ⟨getElem?_of_begins begins (by omega), (longer.agrees period (periods ▸ drawn)).rate⟩

theorem Paired.extended {more : Nat} (paired : Paired parameters more short long) (longer : parameters.periods ≤ more) :
    long.Extends short := by
  cases paired with
  | drawn made madeLong => exact new_extends longer made madeLong
  | replayed made madeLong begins replays replaysLong =>
    refine withPrices_extends (new_extends longer made madeLong) ?_ ?_ begins replays replaysLong
    · rw [(new_path made).1, (new_ok made).2.1]
    · rw [(new_path madeLong).1, (new_ok madeLong).2.1]

/-- The horizon does not influence the past. The paths over fewer periods are the beginning
    of those over more, and as long as a run over fewer periods gives rows, whatever table
    takes them, a run over more gives the same rows, with the same reports, carried state
    and market after them. -/
theorem horizon_unseen {periods more : Nat} (longer : periods ≤ more) :
    (∀ (collateral : CollateralWalk α) (streams : Random.Streams),
      (collateralPath collateral periods streams).toList <+: (collateralPath collateral more streams).toList) ∧
    (∀ (stability : Stability α) (streams : Random.Streams),
      (naturalRatePath stability periods streams).toList <+: (naturalRatePath stability more streams).toList) ∧
    ∀ (parameters : Parameters α) (short long : Simulation α), parameters.periods = periods →
      Paired parameters more short long → ∀ {ε : Type} (failed : RunError α → ε) (append : Row α → Except ε Unit)
        (count : Nat), (short.stepsInto failed append count).1.length = count →
        (long.stepsInto failed append count).1 = (short.stepsInto failed append count).1 ∧
        (long.stepsInto failed append count).2.1 = none ∧
        (long.stepsInto failed append count).2.2.reports = (short.stepsInto failed append count).2.2.reports ∧
        (long.stepsInto failed append count).2.2.state = (short.stepsInto failed append count).2.2.state ∧
        (long.stepsInto failed append count).2.2.market = (short.stepsInto failed append count).2.2.market := by
  refine ⟨fun collateral streams => collateralPath_begins collateral streams longer,
    fun stability streams => naturalRatePath_begins stability streams longer, ?_⟩
  intro parameters short long configured paired ε failed append count given
  obtain ⟨rows, unbroken, onward⟩ := (paired.extended (configured.trans_le longer)).stepsInto given
  have reports := congrArg Simulation.reports onward.same
  have state := congrArg Simulation.state onward.same
  have market := congrArg Simulation.market onward.same
  exact ⟨rows, unbroken, reports, state, market⟩

/-- The bundle without shocks over its periods and over eighty more, replayed with prices
    that differ after the second period. -/
theorem quiet_horizon_unseen : ∃ short long : Simulation ℝ, Paired Parameters.quiet 800 short long ∧
    (short.stepsInto id (fun _ => .ok ()) 1).1.length = 1 ∧
    (long.stepsInto id (fun _ => .ok ()) 1).1 = (short.stepsInto id (fun _ => .ok ()) 1).1 ∧
    (long.stepsInto id (fun _ => .ok ()) 1).2.2.market = (short.stepsInto id (fun _ => .ok ()) 1).2.2.market := by
  obtain ⟨drawn, made⟩ := new_of_valid quiet_valid
  obtain ⟨drawnLong, madeLong⟩ := @new_of_valid { Parameters.quiet with periods := 800 } { quiet_valid with }
  obtain ⟨short, replays, replayed⟩ := replay_quiet made
  have positive : (steadyPrices.push 1000.0).find? (fun price => ¬ (0 < price ∧ Number.isFinite price)) = none := by
    norm_num [steadyPrices, Number.isFinite_real]
  have long : 2 ≤ (steadyPrices.push 1000.0).size := (by decide : 2 ≤ 4)
  have replaysLong := withPrices_of_positive (new_ok madeLong).2.2.1 long positive
  have begins : steadyPrices.toList <+: (steadyPrices.push 1000.0).toList := ⟨[1000.0], by simp⟩
  have paired : Paired Parameters.quiet 800 short _ := .replayed made madeLong begins replays replaysLong
  have starts : Starts Parameters.quiet short := .inr ⟨drawn, steadyPrices, made, replays⟩
  have sound := bootstrap_sound (starts.sound defaultTerms_conventional)
  obtain ⟨ratio, booted⟩ := quiet_bootstrapped replayed
  have onward : short.stepInto id (fun _ => .ok ()) = short.bootstrap.2.stepInto id fun _ => .ok () := by
    rw [stepInto_of_bootstrapped id _ replayed.unstarted booted rfl, booted]
  obtain ⟨⟨row, stepped⟩, _⟩ := quiet_stepped replayed sound id fun _ => rfl
  have given : (short.stepsInto id (fun _ => .ok ()) 1).1.length = 1 := by
    unfold stepsInto
    generalize short.stepInto id (fun _ => .ok ()) = answer at onward ⊢
    obtain ⟨answer, left⟩ := answer
    obtain rfl : answer = .ok (some row) := (congrArg Prod.fst onward).trans stepped
    rfl
  have longer : (Parameters.quiet : Parameters ℝ).periods ≤ 800 := by decide
  obtain ⟨rows, _, _, _, market⟩ := (horizon_unseen longer).2.2 _ _ _ rfl paired id (fun _ => .ok ()) 1 given
  exact ⟨short, _, paired, given, rows, market⟩

end Simulation
end Stablecoin
