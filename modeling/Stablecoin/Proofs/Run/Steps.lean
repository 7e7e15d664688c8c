import Stablecoin.Proofs.Market.Paths
import Stablecoin.Proofs.Parameters
import Stablecoin.Run.Call

/-!
What the operations of a run answer and what they leave, each as a relation with one case
for each outcome. A step bootstraps the run first if that is still to come, and then
executes a period or finds that none is left (`stepInto_stepped`). The numbers may be any.
-/
namespace Stablecoin.Simulation
variable {α ε : Type} [Number α] {parameters : Parameters α} {sim start : Simulation α}

theorem new_eq (made : Simulation.new parameters = .ok sim) :
    parameters.Valid ∧ ∃ traits, TraitModel.ofParameters? parameters.borrowing parameters.terms.mcr = some traits ∧
      sim =
        { parameters, traits
          streams := ⟨parameters.seed⟩
          market := ⟨Ledger.new parameters.terms parameters.collateral.initial, Roster.ofSize parameters.accounts⟩
          state := MarketState.initial
          reports := #[]
          phase := .bootstrapping
          nextPeriod := 1
          periods := parameters.periods
          collateralPrices := collateralPath parameters.collateral parameters.periods ⟨parameters.seed⟩
          naturalRates := naturalRatePath parameters.stability parameters.periods ⟨parameters.seed⟩ } := by
  unfold Simulation.new at made
  obtain ⟨_, passed, made⟩ := bind_eq_ok.mp made
  split at made
  · rename_i traits model
    cases made
    exact ⟨(Parameters.validate_ok_iff parameters).mp (ok_of_mapError passed), traits, model, rfl⟩
  · cases made

theorem new_ok (made : Simulation.new parameters = .ok sim) :
    parameters.Valid ∧ sim.parameters = parameters ∧ sim.phase = .bootstrapping ∧
      sim.collateralPrices[0]? = some parameters.collateral.initial ∧
      sim.market = ⟨Ledger.new parameters.terms parameters.collateral.initial, Roster.ofSize parameters.accounts⟩ := by
  obtain ⟨valid, _, _, rfl⟩ := new_eq made
  exact ⟨valid, rfl, rfl, rfl, rfl⟩

theorem new_path (made : Simulation.new parameters = .ok sim) :
    sim.periods = parameters.periods ∧ sim.periods < sim.collateralPrices.size ∧ sim.state = MarketState.initial ∧
      sim.nextPeriod = 1 := by
  obtain ⟨_, _, _, rfl⟩ := new_eq made
  refine ⟨rfl, ?_, rfl, rfl⟩
  rw [size_collateralPath]
  exact Nat.lt_succ_self _

theorem withPrices_ok {prices : Array α} (replayed : start.withPrices prices = .ok sim) :
    2 ≤ prices.size ∧
      sim = { start with periods := min start.parameters.periods (prices.size - 1), collateralPrices := prices } := by
  unfold withPrices at replayed
  obtain ⟨_, replayed⟩ := ok_of_check replayed
  obtain ⟨long, replayed⟩ := ok_of_check replayed
  split at replayed
  · cases replayed
  · cases replayed
    exact ⟨not_lt.mp long, rfl⟩

/-- A path of positive prices is replayed before the bootstrap. -/
theorem withPrices_of_positive {prices : Array α} (unstarted : start.phase = .bootstrapping) (long : 2 ≤ prices.size)
    (positive : prices.find? (fun price => ¬ (0 < price ∧ Number.isFinite price)) = none) :
    start.withPrices prices =
      .ok { start with periods := min start.parameters.periods (prices.size - 1), collateralPrices := prices } := by
  unfold withPrices
  simp only [unstarted, ne_eq, not_true_eq_false, if_false, not_lt.mpr long, positive]
  rfl

/-- What a bootstrap answers and the run that it leaves. Where it is refused, the market
    may have changed. -/
inductive Booted (sim : Simulation α) : Except (RunError α) Unit → Simulation α → Prop
  | again (started : sim.phase ≠ .bootstrapping) : Booted sim (.error (.setup .alreadyBootstrapped)) sim
  | refused (unstarted : sim.phase = .bootstrapping) (fault : SetupFault α) (market : Market α) :
      Booted sim (.error (.setup fault)) { sim with market }
  | accepted (unstarted : sim.phase = .bootstrapping) (market : Market α) (circulating : α) :
      Booted sim (.ok ()) { sim with market, state := openingState sim.parameters circulating, phase := .running }

theorem bootstrap_booted (sim : Simulation α) : Booted sim sim.bootstrap.1 sim.bootstrap.2 := by
  unfold bootstrap
  dsimp only
  split
  · exact .again ‹_›
  · rename_i unstarted
    replace unstarted := not_not.mp unstarted
    split
    · exact .refused unstarted _ _
    · split
      · exact .refused unstarted _ _
      · split
        · exact .refused unstarted _ _
        · exact .accepted unstarted _ _

/-- The bootstrap is accepted where the whale's trove opens, the stability pool is seeded
    and some stablecoin circulates. -/
theorem bootstrap_eq (unstarted : sim.phase = .bootstrapping) {change : TroveChange α} {opened funded : Ledger α}
    (opens : (sim.market.ledger.setPrice (sim.collateralPrices[0]?.getD 0)).openTrove whale
      sim.parameters.bootstrap.whaleCollateral sim.parameters.bootstrap.whaleDebt = .ok (change, opened))
    (seeds : (if 0 < sim.parameters.bootstrap.stabilityInitial then
      opened.provide whale sim.parameters.bootstrap.stabilityInitial else pure opened) = .ok funded)
    (circulates : ¬ funded.supply - funded.totalDeposits ≤ 0) :
    ∃ ratio, sim.bootstrap =
      (.ok (), { sim with
        market := ⟨funded, sim.market.roster.activate whale ratio Number.infinity 0⟩
        state := openingState sim.parameters (funded.supply - funded.totalDeposits)
        phase := .running }) := by
  unfold bootstrap
  simp only [unstarted, ne_eq, not_true_eq_false, if_false, opens, seeds, circulates]
  exact ⟨_, rfl⟩

/-- What a seeded trove is answered with and the run that it leaves. -/
inductive Seeded (sim : Simulation α) : Except (RunError α) Unit → Simulation α → Prop
  | refused (fault : SetupFault α) : Seeded sim (.error (.setup fault)) sim
  | accepted (running : sim.phase = .running) (market : Market α) (added : α) :
      Seeded sim (.ok ()) { sim with market, state.totalCollateralAdded := added }

theorem seedTrove_seeded (sim : Simulation α) (account : AccountId) (collateral netDebt targetCr inattention : α) :
    Seeded sim (sim.seedTrove account collateral netDebt targetCr inattention).1
      (sim.seedTrove account collateral netDebt targetCr inattention).2 := by
  unfold seedTrove
  dsimp only
  split
  · exact .refused _
  · rename_i running
    split
    · exact .refused _
    · split
      · exact .refused _
      · exact .accepted (not_not.mp running) _ _

/-- The price of the collateral in a period. -/
def priceIn (sim : Simulation α) (period : Nat) : α := sim.collateralPrices[period]?.getD 0

/-- What the steps of a period make of the market and what they report, at the price of
    the period. Nothing below looks into it but by its equation. -/
@[irreducible]
def work (sim : Simulation α) (period : Nat) : Market α × Steps α :=
  runSteps (sim.context period (sim.priceIn period))
    ⟨sim.market.ledger.setPrice (sim.priceIn period), sim.market.roster⟩ sim.state

/-- The price of the stablecoin that the steps of a period arrive at is one. -/
def IsPriced (sim : Simulation α) (period : Nat) : Prop :=
  0 < (sim.work period).2.peg.stablePrice ∧ Number.isFinite (sim.work period).2.peg.stablePrice

/-- The market of the reward token at the end of a period. -/
def rewards (sim : Simulation α) (period : Nat) : RewardMarket α :=
  rewardMarket (sim.context period (sim.priceIn period)) ((sim.work period).2.carry period sim.state)

/-- The run with the work of a period done and its state carried over, before the period
    is concluded. -/
def carried (sim : Simulation α) (period : Nat) : Simulation α :=
  { sim with
    market := (sim.work period).1
    state := { (sim.work period).2.carry period sim.state with rewardPrice := (sim.rewards period).price } }

/-- What the execution of a period answers and the run that it leaves. -/
inductive Advanced (sim : Simulation α) (period : Nat) : Except (RunError α) (Row α) → Simulation α → Prop
  | unpriced (unpriced : ¬ sim.IsPriced period) (error : RunError α) :
      Advanced sim period (.error error) { sim with market := (sim.work period).1 }
  | broken (priced : sim.IsPriced period) (error : RunError α) :
      Advanced sim period (.error error) (sim.carried period)
  | passed (priced : sim.IsPriced period) :
      Advanced sim period (.ok ((sim.carried period).row period (sim.priceIn period)))
        { sim.carried period with
          reports := sim.reports.push ((sim.work period).2.report period (sim.rewards period))
          market.ledger := (sim.work period).1.ledger.advancePeriod }

theorem advance_eq (sim : Simulation α) (period : Nat) :
    sim.advance period = { sim with market := (sim.work period).1 }.conclude
      (sim.context period (sim.priceIn period)) (sim.work period).2 := by
  unfold advance work priceIn
  dsimp only

theorem advance_advanced (sim : Simulation α) (period : Nat) :
    Advanced sim period (sim.advance period).1 (sim.advance period).2 := by
  rw [advance_eq]
  unfold conclude
  dsimp only
  split
  · exact .unpriced ‹_› _
  · rename_i priced
    replace priced : sim.IsPriced period := not_not.mp priced
    split
    · exact .broken priced _
    · split
      · exact .broken priced _
      · exact .passed priced

/-- A period passes at a price of the stablecoin that is one, if no more was liquidated
    than added and the roster is divided. -/
theorem advance_passes {period : Nat} (priced : sim.IsPriced period)
    (covered : ¬ (sim.carried period).state.totalCollateralAdded + Number.tolerance <
      (sim.carried period).state.totalCollateralLiquidated)
    (divided : (sim.work period).1.roster.isPartitioned = true) : ∃ row, (sim.advance period).1 = .ok row := by
  rw [advance_eq]
  unfold conclude
  dsimp only
  split
  · rename_i unpriced
    exact absurd priced unpriced
  · split
    · rename_i overdrawn
      exact absurd overdrawn covered
    · exact ⟨_, rfl⟩

/-- The run as a step finds it, bootstrapped. -/
def ready (sim : Simulation α) : Except (RunError α) Unit × Simulation α :=
  if sim.phase = .bootstrapping then sim.bootstrap else (pure (), sim)

/-- A run that has been bootstrapped and goes on has a period to execute. -/
structure Remains (sim : Simulation α) : Prop where
  unfinished : sim.phase ≠ .finished
  within : sim.nextPeriod ≤ sim.periods

/-- The run after its period. -/
def moveOn (left : Simulation α) (period : Nat) : Simulation α :=
  { left with
    nextPeriod := period + 1
    phase := if period = left.periods then .finished else left.phase }

/-- What a step answers and the run that it leaves. -/
inductive Stepped (failed : RunError α → ε) (append : Row α → Except ε Unit) (sim : Simulation α) :
    Except ε (Option (Row α)) → Simulation α → Prop
  | unready {error : RunError α} {left : Simulation α} (booting : sim.ready = (.error error, left)) :
      Stepped failed append sim (.error (failed error)) left
  | ended {mid : Simulation α} (booted : sim.ready = (.ok (), mid)) (finished : mid.phase = .finished) :
      Stepped failed append sim (.ok none) mid
  | past {mid : Simulation α} (booted : sim.ready = (.ok (), mid)) (unfinished : mid.phase ≠ .finished)
      (past : mid.periods < mid.nextPeriod) :
      Stepped failed append sim (.ok none) { mid with phase := .finished }
  | broken {mid left : Simulation α} {error : RunError α} (booted : sim.ready = (.ok (), mid)) (remains : mid.Remains)
      (advanced : mid.advance mid.nextPeriod = (.error error, left)) :
      Stepped failed append sim (.error (failed error)) left
  | refused {mid left : Simulation α} {row : Row α} {fault : ε} (booted : sim.ready = (.ok (), mid))
      (remains : mid.Remains) (advanced : mid.advance mid.nextPeriod = (.ok row, left))
      (refused : append row = .error fault) :
      Stepped failed append sim (.error fault) left
  | taken {mid left : Simulation α} {row : Row α} (booted : sim.ready = (.ok (), mid)) (remains : mid.Remains)
      (advanced : mid.advance mid.nextPeriod = (.ok row, left)) (taken : append row = .ok ()) :
      Stepped failed append sim (.ok (some row)) (left.moveOn mid.nextPeriod)

theorem stepInto_stepped (failed : RunError α → ε) (append : Row α → Except ε Unit) (sim : Simulation α) :
    Stepped failed append sim (sim.stepInto failed append).1 (sim.stepInto failed append).2 := by
  unfold stepInto
  cases booting : (if sim.phase = .bootstrapping then sim.bootstrap else (pure (), sim)) with
  | mk ready mid =>
    cases ready with
    | error error => exact .unready booting
    | ok passed =>
      dsimp only
      by_cases finished : mid.phase = .finished
      · rw [if_pos finished]
        exact .ended booting finished
      by_cases past : mid.periods < mid.nextPeriod
      · rw [if_neg finished, if_pos past]
        exact .past booting finished past
      have remains : mid.Remains := ⟨finished, Nat.le_of_not_lt past⟩
      rw [if_neg finished, if_neg past]
      cases advanced : mid.advance mid.nextPeriod with
      | mk answer left =>
        cases answer with
        | error error => exact .broken booting remains advanced
        | ok row =>
          dsimp only
          cases taken : append row with
          | error fault => exact .refused booting remains advanced taken
          | ok accepted => exact .taken booting remains advanced taken

theorem stepInto_of_passes {failed : RunError α → ε} {append : Row α → Except ε Unit} {mid left : Simulation α}
    {row : Row α} (booted : sim.ready = (.ok (), mid)) (remains : mid.Remains)
    (advanced : mid.advance mid.nextPeriod = (.ok row, left)) (taken : append row = .ok ()) :
    sim.stepInto failed append = (.ok (some row), left.moveOn mid.nextPeriod) := by
  unfold ready at booted
  simp only [stepInto, booted, remains.unfinished, not_lt.mpr remains.within, advanced, taken, if_false]
  rfl

theorem ready_of_started (started : sim.phase ≠ .bootstrapping) : sim.ready = (.ok (), sim) := if_neg started

theorem ready_started {mid : Simulation α} (booted : sim.ready = (.ok (), mid)) : mid.phase ≠ .bootstrapping := by
  by_cases unstarted : sim.phase = .bootstrapping
  · rw [ready, if_pos unstarted] at booted
    have starts := sim.bootstrap_booted
    rw [booted] at starts
    cases starts
    exact Phase.noConfusion
  · cases (ready_of_started unstarted).symm.trans booted
    exact unstarted

omit [Number α] in
theorem moveOn_started {left : Simulation α} (period : Nat) (started : left.phase ≠ .bootstrapping) :
    (left.moveOn period).phase ≠ .bootstrapping := by
  intro unstarted
  by_cases last : period = left.periods
  · cases (if_pos last).symm.trans unstarted
  · exact started ((if_neg last).symm.trans unstarted)

/-- A step of a run that is still to be bootstrapped is a step after the bootstrap. -/
theorem stepInto_of_bootstrapped (failed : RunError α → ε) (append : Row α → Except ε Unit) {left : Simulation α}
    (unstarted : sim.phase = .bootstrapping) (booted : sim.bootstrap = (.ok (), left))
    (started : left.phase = .running) : sim.stepInto failed append = left.stepInto failed append := by
  unfold stepInto
  simp only [unstarted, booted, started, if_true, reduceCtorEq, if_false]
  rfl

/-! ### What no call changes -/

section Frames
variable {β : Type} {field : Simulation α → β}

/-- The bootstrap changes the market, the state and the phase of a run at most. -/
theorem bootstrap_frame (same : ∀ market state phase, field { sim with market, state, phase } = field sim) :
    field sim.bootstrap.2 = field sim := by
  have booted := sim.bootstrap_booted
  generalize sim.bootstrap.1 = answer at booted
  generalize sim.bootstrap.2 = left at booted ⊢
  cases booted with
  | again started => rfl
  | refused unstarted fault market => exact same market sim.state sim.phase
  | accepted unstarted market circulating => exact same _ _ _

theorem ready_frame (same : ∀ market state phase, field { sim with market, state, phase } = field sim) :
    field sim.ready.2 = field sim := by
  unfold ready
  split
  · exact bootstrap_frame same
  · rfl

/-- A seeded trove changes the market and the state at most. -/
theorem seedTrove_frame (same : ∀ market state, field { sim with market, state } = field sim) (account : AccountId)
    (collateral netDebt targetCr inattention : α) :
    field (sim.seedTrove account collateral netDebt targetCr inattention).2 = field sim := by
  have seeded := sim.seedTrove_seeded account collateral netDebt targetCr inattention
  generalize (sim.seedTrove account collateral netDebt targetCr inattention).1 = answer at seeded
  generalize (sim.seedTrove account collateral netDebt targetCr inattention).2 = left at seeded ⊢
  cases seeded with
  | refused fault => rfl
  | accepted running market added => exact same _ _

/-- The execution of a period changes the market, the state and the reports at most. -/
theorem advance_frame (same : ∀ market state reports, field { sim with market, state, reports } = field sim)
    (period : Nat) : field (sim.advance period).2 = field sim := by
  have advanced := sim.advance_advanced period
  generalize (sim.advance period).1 = answer at advanced
  generalize (sim.advance period).2 = left at advanced ⊢
  cases advanced with
  | unpriced unpriced error => exact same _ sim.state sim.reports
  | broken priced error => exact same _ _ sim.reports
  | passed priced => exact same _ _ _

end Frames

/-- What the start and the execution of a period keep, and what does not depend on where
    the run stands, a step keeps. -/
theorem Stepped.keeps {motive : Simulation α → Prop} {failed : RunError α → ε} {append : Row α → Except ε Unit}
    {answer : Except ε (Option (Row α))} {left : Simulation α} (stepped : Stepped failed append sim answer left)
    (starts : motive sim.ready.2) (advances : ∀ mid, motive mid → motive (mid.advance mid.nextPeriod).2)
    (moves : ∀ sim nextPeriod phase, motive sim → motive { sim with nextPeriod, phase }) : motive left := by
  cases stepped with
  | unready booting => rwa [booting] at starts
  | ended booted finished => rwa [booted] at starts
  | @past mid booted unfinished past =>
    rw [booted] at starts
    exact moves mid mid.nextPeriod .finished starts
  | @broken mid _ _ booted remains advanced =>
    rw [booted] at starts
    have worked := advances mid starts
    rwa [advanced] at worked
  | @refused mid _ _ _ booted remains advanced refused =>
    rw [booted] at starts
    have worked := advances mid starts
    rwa [advanced] at worked
  | @taken mid last _ booted remains advanced taken =>
    rw [booted] at starts
    have worked := advances mid starts
    rw [advanced] at worked
    exact moves last _ _ worked

/-- The run moves on by the rows that it gives. -/
theorem Stepped.next {failed : RunError α → ε} {append : Row α → Except ε Unit} {answer : Except ε (Option (Row α))}
    {left : Simulation α} (stepped : Stepped failed append sim answer left) :
    left.nextPeriod = sim.nextPeriod + answer.toOption.join.toList.length := by
  have started : sim.ready.2.nextPeriod = sim.nextPeriod := ready_frame fun _ _ _ => rfl
  have advances {mid left : Simulation α} {answer : Except (RunError α) (Row α)}
      (advanced : mid.advance mid.nextPeriod = (answer, left)) : left.nextPeriod = mid.nextPeriod := by
    have same : (mid.advance mid.nextPeriod).2.nextPeriod = mid.nextPeriod := advance_frame (fun _ _ _ => rfl) _
    rwa [advanced] at same
  cases stepped with
  | unready booting => rwa [booting] at started
  | ended booted finished => rwa [booted] at started
  | past booted unfinished past => rwa [booted] at started
  | broken booted remains advanced =>
    rw [booted] at started
    exact (advances advanced).trans started
  | refused booted remains advanced refused =>
    rw [booted] at started
    exact (advances advanced).trans started
  | taken booted remains advanced taken =>
    rw [booted] at started
    exact congrArg (· + 1) started

/-! ### What every call keeps -/

section Kept
variable {motive : Market α → Prop}
  (boot : ∀ sim : Simulation α, motive sim.market → motive sim.bootstrap.2.market)
  (seed : ∀ (sim : Simulation α) account collateral netDebt targetCr inattention, motive sim.market →
    motive (sim.seedTrove account collateral netDebt targetCr inattention).2.market)
  (advance : ∀ (sim : Simulation α) period, motive sim.market → motive (sim.advance period).2.market)
include boot

theorem ready_keeps (holds : motive sim.market) : motive sim.ready.2.market := by
  unfold ready
  split
  · exact boot sim holds
  · exact holds

include advance

theorem stepInto_keeps (failed : RunError α → ε) (append : Row α → Except ε Unit) (holds : motive sim.market) :
    motive (sim.stepInto failed append).2.market :=
  (stepInto_stepped failed append sim).keeps (ready_keeps boot holds)
    (fun mid => advance mid mid.nextPeriod) fun _ _ _ kept => kept

theorem stepsInto_keeps (failed : RunError α → ε) (append : Row α → Except ε Unit) (count : Nat)
    (holds : motive sim.market) : motive (sim.stepsInto failed append count).2.2.market := by
  induction count generalizing sim with
  | zero => exact holds
  | succ count ih =>
    have stepped := stepInto_keeps boot advance failed append holds
    unfold stepsInto
    split
    · rename_i answered
      rwa [answered] at stepped
    · rename_i answered
      rwa [answered] at stepped
    · rename_i answered
      rw [answered] at stepped
      exact ih stepped

include seed

theorem perform_keeps (call : Call α) (holds : motive sim.market) : motive (sim.perform call).market := by
  cases call with
  | bootstrap => exact boot sim holds
  | seedTrove account collateral netDebt targetCr inattention => exact seed sim account _ _ _ _ holds
  | step takes => exact stepInto_keeps boot advance some (table takes) holds
  | run takes => exact stepsInto_keeps boot advance some (table takes) _ holds

/-- What bootstraps, seeded troves and periods keep of the market, whatever they answer,
    every sequence of calls keeps. -/
theorem after_keeps (calls : List (Call α)) (holds : motive sim.market) : motive (sim.after calls).market :=
  List.foldlRecOn calls perform (motive := fun sim => motive sim.market) holds
    fun _ kept call _ => perform_keeps boot seed advance call kept

end Kept

end Stablecoin.Simulation
