import Stablecoin.Proofs.Run.Shape

namespace Stablecoin
open Simulation
variable {α : Type} [Number α]

/-- The value of a period in a series that starts with the bootstrap. -/
def ofPeriod (values : List α) : Nat → α
  | 0 => 0
  | period + 1 => values[period]?.getD 0

/-- The periods of the window of a width that ends before a period, ascending. -/
def periodsBefore (stop width : Nat) : List Nat := List.range' (stop - width) width

/-- A window that fits into the series sums up the values of its periods. -/
theorem windowSum_eq {series : Array α} {values : List α} (recorded : series.toList = 0 :: values) {stop width : Nat}
    (fits : width ≤ stop) (reached : stop ≤ values.length + 1) :
    windowSum series stop width = Number.sum ((periodsBefore stop width).map (ofPeriod values)) := by
  have size : series.size = values.length + 1 := by simpa using congrArg List.length recorded
  have entry (period : Nat) (known : period < (0 :: values).length) :
      (0 :: values)[period] = ofPeriod values period := by
    cases period with
    | zero => rfl
    | succ period =>
      rw [List.length_cons] at known
      rw [List.getElem_cons_succ, ofPeriod, List.getElem?_eq_getElem (by omega), Option.getD_some]
  rw [windowSum, min_eq_left (reached.trans_eq size.symm), Array.toList_extract, recorded, List.extract_eq_take_drop]
  congr 1
  refine List.ext_getElem ?_ fun place inside listed => ?_
  · rw [List.length_take, List.length_drop, List.length_cons, List.length_map, periodsBefore, List.length_range']
    omega
  · rw [List.getElem_take, List.getElem_drop, entry, List.getElem_map]
    simp [periodsBefore]

/-- The borrowing fees of a period, at the price that it arrives at. -/
def Simulation.Steps.issuanceFee (steps : Simulation.Steps α) : α :=
  steps.peg.stablePrice * (steps.adjusted.fee + steps.opened.fee + steps.peg.issuance.fee)

/-- Every series has a zero for the bootstrap and then what the periods gave, in their order. -/
structure MarketState.Records (state : MarketState α) (past : List (Simulation.Steps α)) : Prop where
  liquidationGain : state.liquidationGain.toList = 0 :: past.map (·.liquidated.liquidationGain)
  airdropGain : state.airdropGain.toList = 0 :: past.map (·.liquidated.airdropGain)
  issuanceFee : state.issuanceFee.toList = 0 :: past.map (·.issuanceFee)
  redemptionFee : state.redemptionFee.toList = 0 :: past.map (·.peg.redemptionFee)

theorem openingState_records (parameters : Parameters α) (circulating : α) :
    (openingState parameters circulating).Records [] :=
  ⟨rfl, rfl, rfl, rfl⟩

theorem MarketState.Records.carry {state : MarketState α} {past : List (Simulation.Steps α)}
    (records : state.Records past) (steps : Simulation.Steps α) (period : Nat) :
    (steps.carry period state).Records (past ++ [steps]) where
  liquidationGain := by simp [Simulation.Steps.carry, records.liquidationGain]
  airdropGain := by simp [Simulation.Steps.carry, records.airdropGain]
  issuanceFee := by simp [Simulation.Steps.carry, records.issuanceFee, Simulation.Steps.issuanceFee]
  redemptionFee := by simp [Simulation.Steps.carry, records.redemptionFee]

namespace Simulation
variable {parameters : Parameters α} {sim mid : Simulation α} {past : List (Steps α)} {count : Nat}

/-- No step of the call answers with an error. A bootstrap and a seeded trove may be refused. -/
def Unfailing (sim : Simulation α) : Call α → Prop
  | .step takes => ∃ answer, (sim.stepInto some (table takes)).1 = .ok answer
  | .run takes => (sim.runInto some (table takes)).2.1 = none
  | .bootstrap | .seedTrove .. => True

/-- What the steps of every period have reported that up to `count` steps of the run
    execute, in their order. -/
def worksIn (takes : Row α → Bool) : Nat → Simulation α → List (Steps α)
  | 0, _ => []
  | count + 1, sim =>
    match sim.stepInto some (table takes) with
    | (.ok (some _), left) => (sim.ready.2.work sim.ready.2.nextPeriod).2 :: left.worksIn takes count
    | _ => []

/-- What the steps of every period have reported that the call executes. -/
def worksOf (sim : Simulation α) : Call α → List (Steps α)
  | .step takes => sim.worksIn takes 1
  | .run takes => sim.worksIn takes (sim.periods + 1)
  | .bootstrap | .seedTrove .. => []

/-- What the steps of every period have reported that the calls execute, in their order. -/
def works (sim : Simulation α) : List (Call α) → List (Steps α)
  | [] => []
  | call :: calls => sim.worksOf call ++ (sim.perform call).works calls

/-- What the bootstrap establishes of the state, and what seeded troves and periods keep of
    it, given what the steps of the periods so far have reported. -/
structure Lasting (parameters : Parameters α) (motive : List (Steps α) → MarketState α → Prop) : Prop where
  opening : ∀ circulating, motive [] (openingState parameters circulating)
  seeded : ∀ past state totalCollateralAdded, motive past state → motive past { state with totalCollateralAdded }
  carried : ∀ past state (steps : Steps α) period rewardPrice, 0 < steps.peg.stablePrice → motive past state →
    motive (past ++ [steps]) { steps.carry period state with rewardPrice }

/-- The run has the parameters, its counters and lengths agree, and its state is as told by
    what the steps have reported so far. Before the bootstrap there is nothing to tell. -/
structure Recounted (parameters : Parameters α) (motive : List (Steps α) → MarketState α → Prop) (sim : Simulation α)
    (past : List (Steps α)) : Prop where
  parameters_eq : sim.parameters = parameters
  counts : ∃ count, sim.Counts count
  state : sim.phase ≠ .bootstrapping → motive past sim.state
  unstarted : sim.phase = .bootstrapping → past = []

theorem Starts.parameters_eq (starts : Starts parameters sim) : sim.parameters = parameters ∧ parameters.Valid := by
  rcases starts with made | ⟨drawn, prices, made, replayed⟩
  · obtain ⟨valid, same, -⟩ := new_ok made
    exact ⟨same, valid⟩
  · obtain ⟨valid, same, -⟩ := new_ok made
    obtain ⟨-, rfl⟩ := withPrices_ok replayed
    exact ⟨same, valid⟩

section Lasting
variable {motive : List (Steps α) → MarketState α → Prop} (lasting : Lasting parameters motive)
include lasting

/-- A refused bootstrap may leave another market, of which nothing is told. -/
theorem Recounted.bootstrap (recounted : sim.Recounted parameters motive past) :
    sim.bootstrap.2.Recounted parameters motive past := by
  obtain ⟨count, counts⟩ := recounted.counts
  have kept : sim.bootstrap.1 = .ok () → sim.bootstrap.2.Counts count := fun accepted => (counts.bootstrap accepted).1
  have booted := sim.bootstrap_booted
  generalize sim.bootstrap.1 = answer at booted kept
  generalize sim.bootstrap.2 = left at booted kept ⊢
  cases booted with
  | again started => exact recounted
  | refused unstarted fault market => exact { recounted with counts := ⟨count, { counts with }⟩ }
  | accepted unstarted market circulating =>
    rw [recounted.unstarted unstarted]
    refine ⟨recounted.parameters_eq, ⟨count, kept rfl⟩, fun _ => ?_, fun _ => rfl⟩
    rw [recounted.parameters_eq]
    exact lasting.opening circulating

theorem Recounted.ready (recounted : sim.Recounted parameters motive past) :
    sim.ready.2.Recounted parameters motive past := by
  unfold Simulation.ready
  split
  · exact recounted.bootstrap lasting
  · exact recounted

theorem Recounted.seedTrove (recounted : sim.Recounted parameters motive past) (account : AccountId)
    (collateral netDebt targetCr inattention : α) :
    (sim.seedTrove account collateral netDebt targetCr inattention).2.Recounted parameters motive past := by
  obtain ⟨count, counts⟩ := recounted.counts
  have kept : (sim.seedTrove account collateral netDebt targetCr inattention).1 = .ok () →
      (sim.seedTrove account collateral netDebt targetCr inattention).2.Counts count :=
    fun accepted => (counts.seedTrove accepted).1
  have seeded := sim.seedTrove_seeded account collateral netDebt targetCr inattention
  generalize (sim.seedTrove account collateral netDebt targetCr inattention).1 = answer at seeded kept
  generalize (sim.seedTrove account collateral netDebt targetCr inattention).2 = left at seeded kept ⊢
  cases seeded with
  | refused fault => exact recounted
  | accepted running market added =>
    exact ⟨recounted.parameters_eq, ⟨count, kept rfl⟩,
      fun started => lasting.seeded past _ added (recounted.state started), recounted.unstarted⟩

/-- A step without an error adds to the story what its period reports, if it executes one. -/
theorem Recounted.stepped (recounted : sim.Recounted parameters motive past) {ε : Type} {failed : RunError α → ε}
    {append : Row α → Except ε Unit} {answer : Option (Row α)} {left : Simulation α}
    (stepped : Stepped failed append sim (.ok answer) left) : left.Recounted parameters motive
      (past ++ (answer.map fun _ => (sim.ready.2.work sim.ready.2.nextPeriod).2).toList) := by
  obtain ⟨count, counts⟩ := recounted.counts
  obtain ⟨counted, started, -⟩ := stepped.counts counts
  have prepared := recounted.ready lasting
  cases stepped with
  | ended booted finished =>
    rw [booted] at prepared
    rwa [Option.map_none, Option.toList_none, List.append_nil]
  | past booted unfinished past =>
    rw [booted] at prepared
    rw [Option.map_none, Option.toList_none, List.append_nil]
    exact ⟨prepared.parameters_eq, ⟨_, counted⟩, fun _ => prepared.state (ready_started booted), Phase.noConfusion⟩
  | @taken mid last row booted remains advanced taken =>
    rw [booted] at prepared ⊢
    have passed := mid.advance_advanced mid.nextPeriod
    rw [advanced] at passed
    cases passed with
    | passed priced =>
      exact ⟨prepared.parameters_eq, ⟨_, counted⟩,
        fun _ => lasting.carried past _ _ mid.nextPeriod _ priced.1 (prepared.state (ready_started booted)),
        fun unstarted => absurd unstarted started⟩

/-- So do any number of steps. -/
theorem Recounted.stepsInto (recounted : sim.Recounted parameters motive past) (takes : Row α → Bool) {count : Nat}
    (passes : (sim.stepsInto some (table takes) count).2.1 = none) :
    (sim.stepsInto some (table takes) count).2.2.Recounted parameters motive (past ++ sim.worksIn takes count) := by
  induction count generalizing sim past with
  | zero => rwa [worksIn, List.append_nil]
  | succ count ih =>
    have stepped := stepInto_stepped some (table takes) sim
    unfold Simulation.stepsInto at passes ⊢
    unfold worksIn
    generalize sim.stepInto some (table takes) = done at stepped passes ⊢
    obtain ⟨answer, left⟩ := done
    cases answer with
    | error fault => cases passes
    | ok answer =>
      have later := recounted.stepped lasting stepped
      cases answer with
      | none => exact later
      | some row =>
        rw [List.append_cons]
        exact ih later passes

theorem Recounted.perform (recounted : sim.Recounted parameters motive past) {call : Call α}
    (unfailing : Unfailing sim call) : (sim.perform call).Recounted parameters motive (past ++ sim.worksOf call) := by
  cases call with
  | bootstrap =>
    rw [worksOf, List.append_nil]
    exact recounted.bootstrap lasting
  | seedTrove account collateral netDebt targetCr inattention =>
    rw [worksOf, List.append_nil]
    exact recounted.seedTrove lasting account collateral netDebt targetCr inattention
  | step takes =>
    obtain ⟨answer, answered⟩ := unfailing
    have stepped := stepInto_stepped some (table takes) sim
    rw [answered] at stepped
    have later := recounted.stepped lasting stepped
    rw [Simulation.perform, worksOf, worksIn]
    generalize sim.stepInto some (table takes) = done at answered later ⊢
    obtain ⟨_, left⟩ := done
    obtain rfl : _ = Except.ok answer := answered
    cases answer with
    | none => exact later
    | some row => exact later
  | run takes => exact recounted.stepsInto lasting takes unfailing

theorem Recounted.after (recounted : sim.Recounted parameters motive past) {calls : List (Call α)}
    (unfailing : sim.Along Unfailing calls) :
    (sim.after calls).Recounted parameters motive (past ++ sim.works calls) := by
  induction calls generalizing sim past with
  | nil => simpa [Simulation.after, works] using recounted
  | cons call calls ih =>
    rw [works, ← List.append_assoc]
    exact ih (recounted.perform lasting unfailing.1) unfailing.2

/-- Along calls of which no step fails, a run that is ready for its next period is as told by
    the periods so far. -/
theorem after_recounted (starts : Starts parameters sim) {calls : List (Call α)}
    (unfailing : sim.Along Unfailing calls) (booted : (sim.after calls).ready = (.ok (), mid)) :
    mid.Recounted parameters motive (sim.works calls) ∧ mid.phase ≠ .bootstrapping := by
  obtain ⟨counts, unstarted⟩ := starts.counts
  have recounted : sim.Recounted parameters motive [] :=
    ⟨starts.parameters_eq.1, ⟨0, counts⟩, fun started => absurd unstarted started, fun _ => rfl⟩
  have prepared := (recounted.after lasting unfailing).ready lasting
  rw [booted] at prepared
  exact ⟨prepared, ready_started booted⟩

end Lasting

/-- The series hold what the steps have reported. -/
theorem records_lasting (parameters : Parameters α) :
    Lasting parameters fun past state => state.Records past where
  opening := openingState_records parameters
  seeded _ _ _ records := { records with }
  carried _ _ steps period _ _ records := { records.carry steps period with }

/-- As many periods are told as have passed. -/
theorem Counts.past_length (counts : sim.Counts count) (started : sim.phase ≠ .bootstrapping)
    (records : sim.state.Records past) : past.length + 1 = sim.nextPeriod := by
  obtain ⟨size, -⟩ := counts.series started sim.state.liquidationGain List.mem_cons_self
  have length := congrArg List.length records.liquidationGain
  rw [Array.length_toList, List.length_cons, List.length_map, size] at length
  rw [counts.next, length]

end Simulation
end Stablecoin
