import Stablecoin.Proofs.Run.Horizon

/-!
The shape of a run. The phase, the next period, the reports, the carried state and its
series all count the same thing: the steps so far, up to the number of periods
(`Counts`). Every call that is answered without an error keeps them together, and the rows
of the steps carry the numbers and the prices of the periods in their order (`run_shape`).
The series start with the bootstrap; before it they are empty.
-/
namespace Stablecoin
open Simulation
variable {α : Type} [Number α]

/-- The gains and the fees of all periods so far. -/
def MarketState.series (state : MarketState α) : List (Array α) :=
  [state.liquidationGain, state.airdropGain, state.issuanceFee, state.redemptionFee]

/-- Every series has an entry for the bootstrap, which is zero, and one for each period. -/
def MarketState.Spans (state : MarketState α) (periods : Nat) : Prop :=
  ∀ series ∈ state.series, series.size = periods + 1 ∧ series[0]? = some 0

theorem openingState_spans (parameters : Parameters α) (circulating : α) :
    (openingState parameters circulating).Spans 0 := by
  intro series member
  obtain rfl : series = #[0] := by simpa [MarketState.series, openingState] using member
  exact ⟨rfl, rfl⟩

theorem MarketState.Spans.push {state : MarketState α} {periods : Nat} (spans : state.Spans periods) (entry : α)
    {series : Array α} (member : series ∈ state.series) :
    (series.push entry).size = periods + 1 + 1 ∧ (series.push entry)[0]? = some 0 := by
  obtain ⟨size, first⟩ := spans series member
  refine ⟨by rw [Array.size_push, size], ?_⟩
  rw [Array.getElem?_push, if_neg (by omega), first]

theorem Simulation.Steps.carry_spans {state : MarketState α} {periods : Nat} (spans : state.Spans periods)
    (steps : Simulation.Steps α) (period : Nat) : (steps.carry period state).Spans (periods + 1) := by
  intro series member
  simp only [MarketState.series, Simulation.Steps.carry, List.mem_cons, List.not_mem_nil, or_false] at member
  rcases member with rfl | rfl | rfl | rfl
  · exact spans.push _ (by simp [MarketState.series])
  · exact spans.push _ (by simp [MarketState.series])
  · exact spans.push _ (by simp [MarketState.series])
  · exact spans.push _ (by simp [MarketState.series])

namespace Simulation
variable {ε : Type} {parameters : Parameters α} {sim mid left : Simulation α} {count : Nat}

def Call.isStep : Call α → Bool
  | .step _ => true
  | _ => false

/-- The call is a bootstrap, a seeded trove or a step that is answered without an error,
    and the table of a step takes every row. -/
def Accepted (sim : Simulation α) : Call α → Prop
  | .bootstrap => sim.bootstrap.1 = .ok ()
  | .seedTrove account collateral netDebt targetCr inattention =>
    (sim.seedTrove account collateral netDebt targetCr inattention).1 = .ok ()
  | .step takes => (∀ row, takes row = true) ∧ ∃ answer, (sim.stepInto some (table takes)).1 = .ok answer
  | .run _ => False

/-- The counters and the lengths of a run after so many steps. -/
structure Counts (sim : Simulation α) (count : Nat) : Prop where
  prices : sim.periods < sim.collateralPrices.size
  rates : sim.periods < sim.naturalRates.size
  next : sim.nextPeriod = min count sim.periods + 1
  period : sim.state.period = min count sim.periods
  reports : sim.reports.size = min count sim.periods
  series : sim.phase ≠ .bootstrapping → sim.state.Spans (min count sim.periods)
  unstarted : sim.phase = .bootstrapping → count = 0
  finished : sim.phase = .finished ↔ max 1 sim.periods ≤ count

/-- The indices that the execution of a period uses are in range: those of the period in
    both paths, and the ends of the windows over the series, of which the first lies before
    the series grow and the second after. -/
structure InRange (sim : Simulation α) (period : Nat) : Prop where
  price : period < sim.collateralPrices.size
  rate : period < sim.naturalRates.size
  gains : ∀ series ∈ sim.state.series, period ≤ series.size
  revenue : ∀ series ∈ (sim.carried period).state.series, period + 1 ≤ series.size

/-! ### One call -/

theorem new_counts (made : Simulation.new parameters = .ok sim) : sim.Counts 0 ∧ sim.phase = .bootstrapping := by
  obtain ⟨_, _, _, rfl⟩ := new_eq made
  refine ⟨?_, rfl⟩
  constructor
  case prices => exact (Nat.lt_succ_self _).trans_eq (size_collateralPath _ _ _).symm
  case rates => exact (Nat.lt_succ_self _).trans_eq (size_naturalRatePath _ _ _).symm
  case next => simp
  case period => simp [MarketState.initial]
  case reports => simp
  case series => exact fun started => absurd rfl started
  case unstarted => exact fun _ => rfl
  case finished => simp

theorem Starts.counts (starts : Starts parameters sim) : sim.Counts 0 ∧ sim.phase = .bootstrapping := by
  rcases starts with made | ⟨drawn, prices, made, replayed⟩
  · exact new_counts made
  · obtain ⟨counts, unstarted⟩ := new_counts made
    obtain ⟨long, rfl⟩ := withPrices_ok replayed
    have configured : drawn.parameters.periods = drawn.periods := by rw [(new_path made).1, (new_ok made).2.1]
    have rates := counts.rates
    refine ⟨?_, unstarted⟩
    constructor
    case prices => dsimp only; omega
    case rates => dsimp only; omega
    case next => simpa using counts.next
    case period => simpa using counts.period
    case reports => simpa using counts.reports
    case series => exact fun started => absurd unstarted started
    case unstarted => exact fun _ => rfl
    case finished => simp [unstarted]

theorem Counts.bootstrap (counts : sim.Counts count) (accepted : sim.bootstrap.1 = .ok ()) :
    sim.bootstrap.2.Counts count ∧ sim.bootstrap.2.phase = .running := by
  have booted := sim.bootstrap_booted
  rw [accepted] at booted
  generalize sim.bootstrap.2 = left at booted ⊢
  cases booted with
  | accepted unstarted market circulating =>
    obtain rfl := counts.unstarted unstarted
    refine ⟨?_, rfl⟩
    exact
      { counts with
        period := by simp [openingState, MarketState.initial]
        series := fun _ => by simpa using openingState_spans sim.parameters circulating
        unstarted := fun _ => rfl
        finished := by simp }

theorem Counts.ready (counts : sim.Counts count) (booted : sim.ready = (.ok (), mid)) :
    mid.Counts count ∧ mid.phase ≠ .bootstrapping := by
  refine ⟨?_, ready_started booted⟩
  by_cases unstarted : sim.phase = .bootstrapping
  · rw [Simulation.ready, if_pos unstarted] at booted
    have kept := (counts.bootstrap (congrArg Prod.fst booted)).1
    rwa [booted] at kept
  · cases (ready_of_started unstarted).symm.trans booted
    exact counts

theorem Counts.seedTrove (counts : sim.Counts count) {account : AccountId}
    {collateral netDebt targetCr inattention : α}
    (accepted : (sim.seedTrove account collateral netDebt targetCr inattention).1 = .ok ()) :
    (sim.seedTrove account collateral netDebt targetCr inattention).2.Counts count ∧
      (sim.seedTrove account collateral netDebt targetCr inattention).2.phase = .running ∧ sim.phase = .running := by
  have seeded := sim.seedTrove_seeded account collateral netDebt targetCr inattention
  rw [accepted] at seeded
  generalize (sim.seedTrove account collateral netDebt targetCr inattention).2 = left at seeded ⊢
  cases seeded with
  | accepted running market added => exact ⟨{ counts with }, running, running⟩

/-- A period that passes adds one to everything that is counted. -/
theorem Counts.passed (counts : sim.Counts count) (started : sim.phase ≠ .bootstrapping) (remains : sim.Remains)
    {row : Row α} (advanced : sim.advance sim.nextPeriod = (.ok row, left)) :
    (left.moveOn sim.nextPeriod).Counts (count + 1) ∧ (left.moveOn sim.nextPeriod).phase ≠ .bootstrapping ∧
      row.iteration = sim.nextPeriod ∧ row.collateralPrice = sim.priceIn sim.nextPeriod := by
  have passed := sim.advance_advanced sim.nextPeriod
  rw [advanced] at passed
  cases passed with
  | passed priced =>
    -- Below the last period the minimum is the number of steps.
    have more : count < sim.periods := by
      have next := counts.next
      have within := remains.within
      omega
    have before : min count sim.periods = count := min_eq_left more.le
    have after : min (count + 1) sim.periods = count + 1 := min_eq_left more
    have next : sim.nextPeriod = count + 1 := by rw [counts.next, before]
    have spans : sim.state.Spans count := before ▸ counts.series started
    have onward := moveOn_started sim.nextPeriod (show (sim.carried sim.nextPeriod).phase ≠ .bootstrapping from started)
    refine ⟨?_, onward, rfl, rfl⟩
    · constructor
      case prices => exact counts.prices
      case rates => exact counts.rates
      case next =>
        dsimp only [moveOn, carried]
        rw [after, next]
      case period =>
        dsimp only [moveOn, carried]
        rw [after, ← next]
        rfl
      case reports =>
        dsimp only [moveOn, carried]
        rw [after, Array.size_push, counts.reports, before]
      case series =>
        intro _
        dsimp only [moveOn, carried]
        rw [after]
        exact Steps.carry_spans spans (sim.work sim.nextPeriod).2 sim.nextPeriod
      case unstarted => exact fun unstarted => absurd unstarted onward
      case finished =>
        change (if sim.nextPeriod = sim.periods then Phase.finished else sim.phase) = .finished ↔
          max 1 sim.periods ≤ count + 1
        by_cases last : sim.nextPeriod = sim.periods
        · simp only [last, if_true, true_iff]
          omega
        · simp only [last, if_false, remains.unfinished, false_iff]
          omega
/-- A step of a run that has finished adds nothing to what is counted. -/
theorem Counts.ended (counts : sim.Counts count) (finished : sim.phase = .finished) : sim.Counts (count + 1) := by
  have enough := counts.finished.mp finished
  have before : min count sim.periods = sim.periods := min_eq_right (le_of_max_le_right enough)
  have after : min (count + 1) sim.periods = sim.periods :=
    min_eq_right ((le_of_max_le_right enough).trans count.le_succ)
  constructor
  case prices => exact counts.prices
  case rates => exact counts.rates
  case next => rw [counts.next, before, after]
  case period => rw [counts.period, before, after]
  case reports => rw [counts.reports, before, after]
  case series =>
    intro started
    rw [after, ← before]
    exact counts.series started
  case unstarted =>
    intro unstarted
    cases finished.symm.trans unstarted
  case finished => exact ⟨fun _ => enough.trans count.le_succ, fun _ => finished⟩

/-- Only a run of no periods finishes without executing the last of them. -/
theorem Counts.past (counts : sim.Counts count) (started : sim.phase ≠ .bootstrapping)
    (unfinished : sim.phase ≠ .finished) (past : sim.periods < sim.nextPeriod) :
    ({ sim with phase := .finished } : Simulation α).Counts (count + 1) := by
  have next := counts.next
  have few : count < max 1 sim.periods := lt_of_not_ge fun enough => unfinished (counts.finished.mpr enough)
  have none : sim.periods = 0 := by omega
  have before : min count sim.periods = 0 := by omega
  have after : min (count + 1) sim.periods = 0 := by omega
  constructor
  case prices => exact counts.prices
  case rates => exact counts.rates
  case next => rw [counts.next, before, after]
  case period => rw [counts.period, before, after]
  case reports => rw [counts.reports, before, after]
  case series =>
    intro _
    rw [after, ← before]
    exact counts.series started
  case unstarted => exact Phase.noConfusion
  case finished => simp [none]

/-- The row of a call, if it gives one, is that of the next period. -/
structure Tells (sim left : Simulation α) (answer : Option (Row α)) : Prop where
  next : left.nextPeriod = sim.nextPeriod + answer.toList.length
  numbered : ∀ row ∈ answer, row.iteration = sim.nextPeriod
  priced : ∀ row ∈ answer, sim.collateralPrices[sim.nextPeriod]? = some row.collateralPrice

/-- A step without an error adds one to what is counted. -/
theorem Stepped.counts {failed : RunError α → ε} {append : Row α → Except ε Unit} {answer : Option (Row α)}
    (stepped : Stepped failed append sim (.ok answer) left) (counts : sim.Counts count) :
    left.Counts (count + 1) ∧ left.phase ≠ .bootstrapping ∧ Tells sim left answer := by
  have moved : left.nextPeriod = sim.nextPeriod + answer.toList.length := stepped.next
  have next : sim.ready.2.nextPeriod = sim.nextPeriod := ready_frame fun _ _ _ => rfl
  have paths : sim.ready.2.collateralPrices = sim.collateralPrices := ready_frame fun _ _ _ => rfl
  cases stepped with
  | ended booted finished =>
    obtain ⟨prepared, started⟩ := counts.ready booted
    exact ⟨prepared.ended finished, started, moved, by simp, by simp⟩
  | past booted unfinished past =>
    obtain ⟨prepared, started⟩ := counts.ready booted
    exact ⟨prepared.past started unfinished past, Phase.noConfusion, moved, by simp, by simp⟩
  | @taken mid last row booted remains advanced taken =>
    rw [booted] at next paths
    obtain ⟨prepared, started⟩ := counts.ready booted
    obtain ⟨passed, onward, number, price⟩ := prepared.passed started remains advanced
    refine ⟨passed, onward, moved, ?_, ?_⟩
    · rintro _ ⟨⟩
      rw [number, next]
    · rintro _ ⟨⟩
      have known : mid.nextPeriod < mid.collateralPrices.size := remains.within.trans_lt prepared.prices
      rw [price, priceIn, ← next, ← paths, Array.getElem?_eq_getElem known]
      rfl

/-- What an accepted call leaves of the counters, which a step raises, and the row that it
    gives. -/
theorem Counts.perform (counts : sim.Counts count) {call : Call α} (accepted : Accepted sim call) :
    (sim.perform call).Counts (count + [call].countP Call.isStep) ∧ (sim.perform call).phase ≠ .bootstrapping ∧
      Tells sim (sim.perform call) (sim.row? call) := by
  cases call with
  | bootstrap =>
    obtain ⟨kept, running⟩ := counts.bootstrap accepted
    exact ⟨kept, running ▸ Phase.noConfusion, bootstrap_frame fun _ _ _ => rfl, by simp [row?], by simp [row?]⟩
  | seedTrove account collateral netDebt targetCr inattention =>
    obtain ⟨kept, running, _⟩ := counts.seedTrove accepted
    exact ⟨kept, running ▸ Phase.noConfusion, seedTrove_frame (fun _ _ => rfl) _ _ _ _ _, by simp [row?],
      by simp [row?]⟩
  | step takes =>
    obtain ⟨_, answer, answered⟩ := accepted
    have stepped := stepInto_stepped some (table takes) sim
    rw [answered] at stepped
    obtain ⟨kept, started, told⟩ := stepped.counts counts
    refine ⟨kept, started, ?_⟩
    rwa [row?, answered]
  | run takes => exact accepted.elim

theorem perform_horizon {call : Call α} (accepted : Accepted sim call) : (sim.perform call).horizon = sim.horizon := by
  cases call with
  | bootstrap => exact bootstrap_frame fun _ _ _ => rfl
  | seedTrove account collateral netDebt targetCr inattention => exact seedTrove_frame (fun _ _ => rfl) _ _ _ _ _
  | step takes => exact (stepInto_stepped some (table takes) sim).horizon
  | run takes => exact accepted.elim

/-! ### Any number of calls -/

theorem after_horizon {calls : List (Call α)} (accepted : sim.Along Accepted calls) :
    (sim.after calls).horizon = sim.horizon := by
  induction calls generalizing sim with
  | nil => rfl
  | cons call calls ih => exact (ih accepted.2).trans (perform_horizon accepted.1)

theorem after_counts (counts : sim.Counts count) {calls : List (Call α)} (accepted : sim.Along Accepted calls) :
    (sim.after calls).Counts (count + calls.countP Call.isStep) := by
  induction calls generalizing sim count with
  | nil => exact counts
  | cons call calls ih =>
    have kept := ih (counts.perform accepted.1).1 accepted.2
    rwa [Nat.add_assoc, ← List.countP_append] at kept

/-- The rows are those of the periods from the next one on, in their order. -/
theorem rows_told (counts : sim.Counts count) {calls : List (Call α)} (accepted : sim.Along Accepted calls) :
    (sim.after calls).nextPeriod = sim.nextPeriod + (sim.rows calls).length ∧
      ∀ (place : Nat) (row : Row α), (sim.rows calls)[place]? = some row → row.iteration = sim.nextPeriod + place ∧
        sim.collateralPrices[sim.nextPeriod + place]? = some row.collateralPrice := by
  induction calls generalizing sim count with
  | nil => exact ⟨rfl, by simp [rows]⟩
  | cons call calls ih =>
    obtain ⟨kept, _, told⟩ := counts.perform accepted.1
    obtain ⟨next, later⟩ := ih kept accepted.2
    have paths : (sim.perform call).collateralPrices = sim.collateralPrices :=
      congrArg Horizon.collateralPrices (perform_horizon accepted.1)
    constructor
    · rw [rows, List.length_append, ← Nat.add_assoc, ← told.next]
      exact next
    -- Every later row has moved on by one place where the call gives a row of its own.
    · intro place row member
      have onward := told.next
      rw [rows] at member
      cases given : sim.row? call with
      | none =>
        rw [given] at member onward
        obtain ⟨number, price⟩ := later place row member
        rw [onward, paths] at price
        rw [onward] at number
        exact ⟨number, price⟩
      | some first =>
        rw [given] at member onward
        cases place with
        | zero =>
          obtain rfl : first = row := Option.some.inj member
          exact ⟨told.numbered first given, told.priced first given⟩
        | succ place =>
          obtain ⟨number, price⟩ := later place row member
          rw [onward, paths, Option.toList_some, List.length_singleton, Nat.add_assoc, Nat.add_comm 1] at price
          rw [onward, Option.toList_some, List.length_singleton, Nat.add_assoc, Nat.add_comm 1] at number
          exact ⟨number, price⟩

theorem after_started {calls : List (Call α)} (counts : sim.Counts count) (accepted : sim.Along Accepted calls)
    (started : sim.phase ≠ .bootstrapping ∨ calls ≠ []) : (sim.after calls).phase ≠ .bootstrapping := by
  induction calls generalizing sim count with
  | nil => exact started.resolve_right fun some => some rfl
  | cons call calls ih =>
    obtain ⟨kept, onward, _⟩ := counts.perform accepted.1
    exact ih kept accepted.2 (.inl onward)

/-- The shape of a run of which so many periods have passed along the calls. -/
structure Shape (sim : Simulation α) (calls : List (Call α)) (passed : Nat) : Prop where
  /-- Neither the number of periods nor a path ever changes. -/
  horizon : (sim.after calls).horizon = sim.horizon
  /-- One row has been given for each period, in their order. -/
  rows : (sim.rows calls).length = passed
  numbered : ∀ (place : Nat) (row : Row α), (sim.rows calls)[place]? = some row → row.iteration = place + 1
  priced : ∀ (place : Nat) (row : Row α), (sim.rows calls)[place]? = some row →
    (sim.after calls).prices[place + 1]? = some row.collateralPrice
  reports : (sim.after calls).reports.size = passed
  period : (sim.after calls).state.period = passed
  /-- The series start with the bootstrap. -/
  series : 0 < calls.countP Call.isStep ∨ .bootstrap ∈ calls → (sim.after calls).state.Spans passed
  bootstrapping : calls.countP Call.isStep = 0 → .bootstrap ∉ calls → (sim.after calls).phase = .bootstrapping
  finished : (sim.after calls).phase = .finished ↔ max 1 sim.periods ≤ calls.countP Call.isStep
  running : 0 < calls.countP Call.isStep ∨ .bootstrap ∈ calls → calls.countP Call.isStep < max 1 sim.periods →
    (sim.after calls).phase = .running
  /-- A bootstrap finds its price, and every price of the run is there. -/
  start : 0 < (sim.after calls).collateralPrices.size
  prices : (sim.after calls).prices.size = sim.periods + 1
  /-- The next step, if it executes a period, stays within its range. -/
  inRange : ∀ mid, (sim.after calls).ready = (.ok (), mid) → mid.Remains → mid.InRange mid.nextPeriod
  /-- A step of a run that has finished gives no row and changes nothing. -/
  idle : (sim.after calls).phase = .finished → ∀ {ε : Type} (failed : RunError α → ε) (append : Row α → Except ε Unit),
    (sim.after calls).stepInto failed append = (.ok none, sim.after calls)

theorem stepInto_of_finished (failed : RunError α → ε) (append : Row α → Except ε Unit)
    (finished : sim.phase = .finished) : sim.stepInto failed append = (.ok none, sim) := by
  unfold stepInto
  simp only [finished, reduceCtorEq, if_false, if_true]
  rfl

theorem Counts.inRange (counts : sim.Counts count) (started : sim.phase ≠ .bootstrapping) (remains : sim.Remains) :
    sim.InRange sim.nextPeriod where
  price := remains.within.trans_lt counts.prices
  rate := remains.within.trans_lt counts.rates
  gains := fun series member => (counts.next.trans (counts.series started series member).1.symm).le
  revenue := fun series member => by
    have spans := Steps.carry_spans (counts.series started) (sim.work sim.nextPeriod).2 sim.nextPeriod
    have size := (spans series member).1
    rw [size, counts.next]

omit [Number α] in
theorem prices_of_within {period : Nat} (within : period ≤ sim.periods) :
    sim.prices[period]? = sim.collateralPrices[period]? := by
  rw [Simulation.prices, Array.getElem?_extract, Nat.zero_add]
  split
  · rfl
  · exact (Array.getElem?_eq_none (by omega)).symm

/-- Nothing is accepted before the run is bootstrapped, explicitly or by a step. -/
theorem calls_of_unstarted (starts : Starts parameters sim) {calls : List (Call α)}
    (accepted : sim.Along Accepted calls) (unstepped : calls.countP Call.isStep = 0)
    (unbooted : Call.bootstrap ∉ calls) : calls = [] := by
  obtain ⟨counts, unstarted⟩ := starts.counts
  cases calls with
  | nil => rfl
  | cons call calls =>
    cases call with
    | bootstrap => exact absurd List.mem_cons_self unbooted
    | seedTrove account collateral netDebt targetCr inattention =>
      cases unstarted.symm.trans (counts.seedTrove accepted.1).2.2
    | step takes => simp [Call.isStep] at unstepped
    | run takes => exact accepted.1.elim

/-- After any number of steps, with bootstrap and seeded troves among them and none of the
    calls answered with an error, as many periods have passed as there are steps, up to
    the number of periods of the run, and everything that counts them agrees. -/
theorem run_shape (starts : Starts parameters sim) {calls : List (Call α)} (accepted : sim.Along Accepted calls) :
    sim.Shape calls (min (calls.countP Call.isStep) sim.periods) := by
  obtain ⟨counts, unstarted⟩ := starts.counts
  have kept := after_horizon accepted
  have periods : (sim.after calls).periods = sim.periods := congrArg Horizon.periods kept
  have paths : (sim.after calls).collateralPrices = sim.collateralPrices := congrArg Horizon.collateralPrices kept
  have counted := after_counts counts accepted
  rw [Nat.zero_add] at counted
  obtain ⟨next, told⟩ := rows_told counts accepted
  have first : sim.nextPeriod = 1 := by simpa using counts.next
  have length : (sim.rows calls).length = min (calls.countP Call.isStep) sim.periods := by
    have last := counted.next
    rw [periods] at last
    omega
  have nonempty : 0 < calls.countP Call.isStep ∨ .bootstrap ∈ calls → calls ≠ [] := by
    rintro (stepped | booted) rfl
    · cases stepped
    · cases booted
  constructor
  case horizon => exact kept
  case rows => exact length
  case numbered =>
    intro place row member
    rw [(told place row member).1, first, Nat.add_comm]
  case priced =>
    intro place row member
    have within : place < (sim.rows calls).length := (List.getElem?_eq_some_iff.mp member).1
    have price := (told place row member).2
    rw [first, Nat.add_comm] at price
    rw [prices_of_within (by omega), paths]
    exact price
  case reports => rw [counted.reports, periods]
  case period => rw [counted.period, periods]
  case series =>
    intro some
    have spans := counted.series (after_started counts accepted (.inr (nonempty some)))
    rwa [periods] at spans
  case bootstrapping =>
    intro unstepped unbooted
    rw [calls_of_unstarted starts accepted unstepped unbooted]
    exact unstarted
  case finished => rw [counted.finished, periods]
  case running =>
    intro some few
    have started := after_started counts accepted (.inr (nonempty some))
    have unfinished : (sim.after calls).phase ≠ .finished := by
      rw [ne_eq, counted.finished, periods]
      exact not_le.mpr few
    cases phase : (sim.after calls).phase with
    | bootstrapping => exact absurd phase started
    | running => rfl
    | finished => exact absurd phase unfinished
  case start => exact counted.prices.pos
  case prices =>
    have long := counted.prices
    rw [Simulation.prices, Array.size_extract, ← periods]
    omega
  case inRange =>
    intro mid booted remains
    obtain ⟨prepared, started⟩ := counted.ready booted
    exact prepared.inRange started remains
  case idle => exact fun finished _ failed append => stepInto_of_finished failed append finished

/-- A borrower joins the whale after the first of two periods. -/
theorem seededCalls_shape : ∃ sim : Simulation ℝ, Starts Parameters.quiet sim ∧ sim.Along Accepted seededCalls ∧
    sim.Shape seededCalls (min (seededCalls.countP Call.isStep) sim.periods) := by
  obtain ⟨sim, starts, replayed⟩ := exists_replayed
  have sound := bootstrap_sound (starts.sound defaultTerms_conventional)
  obtain ⟨ratio, booted⟩ := quiet_bootstrapped replayed
  obtain ⟨⟨row, given⟩, _⟩ := quiet_stepped replayed sound some fun _ => rfl
  have accepted : sim.Along Accepted seededCalls :=
    ⟨by rw [Accepted, booted], ⟨fun _ => rfl, _, given⟩, quiet_joined replayed sound, trivial⟩
  exact ⟨sim, starts, accepted, run_shape starts accepted⟩

/-- Before its bootstrap a run has no entries in its series, not even that of the bootstrap. -/
theorem unbooted_series : ∃ sim : Simulation ℝ, Starts Parameters.quiet sim ∧ sim.Along Accepted [] ∧
    sim.rows [] = [] ∧ ¬ (sim.after []).state.Spans (min (([] : List (Call ℝ)).countP Call.isStep) sim.periods) := by
  obtain ⟨sim, made⟩ := new_of_valid quiet_valid
  refine ⟨sim, .inl made, trivial, rfl, ?_⟩
  intro spans
  have size := (spans (sim.after []).state.liquidationGain List.mem_cons_self).1
  rw [after, List.foldl_nil, (new_path made).2.2.1] at size
  cases size

end Simulation
end Stablecoin
