import Stablecoin.Proofs.Run.Steps

namespace Stablecoin.Simulation
variable {α ε : Type} [Number α] {sim : Simulation α}

/-- What holds between the periods of a run in which every period passes, and what is told
    of the rows. It does not depend on where the run stands. -/
structure Passing (holds : Simulation α → Prop) (told : Row α → Prop) : Prop where
  started : ∀ sim, holds sim → sim.phase ≠ .bootstrapping
  passes : ∀ sim, holds sim → ∀ period,
    (∃ row, (sim.advance period).1 = .ok row ∧ told row) ∧ holds (sim.advance period).2
  moves : ∀ (sim : Simulation α) nextPeriod phase, holds sim → phase ≠ .bootstrapping →
    holds { sim with nextPeriod, phase }

def Call.isSeed : Call α → Bool
  | .seedTrove .. => true
  | _ => false

/-- A step sets out from where this holds, if need be after the bootstrap. -/
def Settled (holds : Simulation α → Prop) (sim : Simulation α) : Prop :=
  ∃ mid, sim.ready = (.ok (), mid) ∧ holds mid

/-- Rows of which this is told, and an error of the table only, which has refused such a
    row. -/
structure Told (told : Row α → Prop) (append : Row α → Except ε Unit) (rows : List (Row α)) (error : Option ε) :
    Prop where
  rows : ∀ row ∈ rows, told row
  refused : ∀ fault ∈ error, ∃ row, told row ∧ append row = .error fault

section Passing
variable {holds : Simulation α → Prop} {told : Row α → Prop} {failed : RunError α → ε} {append : Row α → Except ε Unit}

theorem Passing.settled (passing : Passing holds told) (kept : holds sim) : Settled holds sim :=
  ⟨sim, ready_of_started (passing.started sim kept), kept⟩

theorem Stepped.passing {answer : Except ε (Option (Row α))} {left : Simulation α}
    (stepped : Stepped failed append sim answer left) (passing : Passing holds told) (settled : Settled holds sim) :
    holds left ∧ (∀ row, answer = .ok (some row) → told row) ∧
      ∀ fault, answer = .error fault → ∃ row, told row ∧ append row = .error fault := by
  obtain ⟨mid, prepared, start⟩ := settled
  obtain ⟨⟨row, passed, fits⟩, kept⟩ := passing.passes mid start mid.nextPeriod
  cases stepped with
  | unready booting => cases prepared.symm.trans booting
  | ended booted finished =>
    cases prepared.symm.trans booted
    exact ⟨start, (fun row given => by cases given), fun fault fails => by cases fails⟩
  | past booted unfinished past =>
    cases prepared.symm.trans booted
    exact ⟨passing.moves mid _ _ start Phase.noConfusion, (fun row given => by cases given),
      fun fault fails => by cases fails⟩
  | broken booted remains advanced =>
    cases prepared.symm.trans booted
    cases passed.symm.trans (congrArg Prod.fst advanced)
  | refused booted remains advanced refused =>
    cases prepared.symm.trans booted
    cases passed.symm.trans (congrArg Prod.fst advanced)
    rw [advanced] at kept
    refine ⟨kept, (fun row given => by cases given), fun fault fails => ⟨row, fits, ?_⟩⟩
    cases fails
    exact refused
  | taken booted remains advanced taken =>
    cases prepared.symm.trans booted
    cases passed.symm.trans (congrArg Prod.fst advanced)
    rw [advanced] at kept
    have onward := passing.moves _ (mid.nextPeriod + 1) _ kept (moveOn_started mid.nextPeriod (passing.started _ kept))
    refine ⟨onward, fun other given => ?_, fun fault fails => by cases fails⟩
    cases given
    exact fits

theorem stepsInto_passing (passing : Passing holds told) (count : Nat) (settled : Settled holds sim) :
    ((sim.stepsInto failed append count).2.2 = sim ∨ holds (sim.stepsInto failed append count).2.2) ∧
      Told told append (sim.stepsInto failed append count).1 (sim.stepsInto failed append count).2.1 := by
  induction count generalizing sim with
  | zero => exact ⟨.inl rfl, List.forall_mem_nil _, fun fault fails => by cases fails⟩
  | succ count ih =>
    obtain ⟨kept, given, refused⟩ := (stepInto_stepped failed append sim).passing passing settled
    unfold stepsInto
    generalize sim.stepInto failed append = done at kept given refused ⊢
    obtain ⟨answer, left⟩ := done
    cases answer with
    | error fault =>
      refine ⟨.inr kept, List.forall_mem_nil _, fun other fails => ?_⟩
      cases fails
      exact refused fault rfl
    | ok answer =>
      cases answer with
      | none => exact ⟨.inr kept, List.forall_mem_nil _, fun fault fails => by cases fails⟩
      | some row =>
        obtain ⟨last, later⟩ := ih (passing.settled kept)
        refine ⟨.inr ?_, List.forall_mem_cons.mpr ⟨given row rfl, later.rows⟩, later.refused⟩
        rcases last with same | holds
        · exact same ▸ kept
        · exact holds

/-- A call that seeds no trove is a step, or any number of them, or changes nothing after
    the bootstrap. -/
theorem Settled.perform (settled : Settled holds sim) (passing : Passing holds told) {call : Call α}
    (unseeded : call.isSeed = false) : Settled holds (sim.perform call) := by
  cases call with
  | bootstrap =>
    by_cases unstarted : sim.phase = .bootstrapping
    · obtain ⟨mid, booted, kept⟩ := settled
      rw [ready, if_pos unstarted] at booted
      rw [Simulation.perform, booted]
      exact passing.settled kept
    · have again : sim.bootstrap.2 = sim := by rw [bootstrap, if_pos unstarted]
      rwa [Simulation.perform, again]
  | seedTrove account collateral netDebt targetCr inattention => cases unseeded
  | step takes => exact passing.settled ((stepInto_stepped some (table takes) sim).passing passing settled).1
  | run takes =>
    have ran : sim.perform (.run takes) = sim ∨ holds (sim.perform (.run takes)) :=
      (stepsInto_passing passing (sim.periods + 1) settled).1
    rcases ran with same | kept
    · rwa [same]
    · exact passing.settled kept

theorem Settled.after (settled : Settled holds sim) (passing : Passing holds told) {calls : List (Call α)}
    (unseeded : ∀ call ∈ calls, call.isSeed = false) : Settled holds (sim.after calls) := by
  induction calls generalizing sim with
  | nil => exact settled
  | cons call calls ih =>
    obtain ⟨first, later⟩ := List.forall_mem_cons.mp unseeded
    exact ih (settled.perform passing first) later

end Passing

section Rows
variable {failed : RunError α → ε} {append : Row α → Except ε Unit} {answer : Option (Row α)} {left : Simulation α}

theorem Stepped.started (stepped : Stepped failed append sim (.ok answer) left) : left.phase ≠ .bootstrapping := by
  cases stepped with
  | ended booted finished => exact ready_started booted
  | past booted unfinished past => exact Phase.noConfusion
  | @taken mid _ _ booted remains advanced taken =>
    have phase : (mid.advance mid.nextPeriod).2.phase = mid.phase := advance_frame (fun _ _ _ => rfl) _
    rw [advanced] at phase
    exact moveOn_started _ (phase ▸ ready_started booted)

/-- The number of periods that the run has still to execute. -/
def remaining (sim : Simulation α) : Nat := if sim.phase = .finished then 0 else sim.periods + 1 - sim.nextPeriod

/-- A step executes one of the periods that remain, or finds that none does. -/
theorem Stepped.remaining (stepped : Stepped failed append sim (.ok answer) left) :
    (answer = none → sim.ready.2.remaining = 0) ∧
      ∀ row, answer = some row → sim.ready.2.remaining = left.remaining + 1 := by
  cases stepped with
  | ended booted finished =>
    rw [booted]
    exact ⟨fun _ => if_pos finished, nofun⟩
  | past booted unfinished past =>
    rw [booted]
    exact ⟨fun _ => (if_neg unfinished).trans (Nat.sub_eq_zero_of_le past), nofun⟩
  | @taken mid _ row booted remains advanced taken =>
    have phase : (mid.advance mid.nextPeriod).2.phase = mid.phase := advance_frame (fun _ _ _ => rfl) _
    have periods : (mid.advance mid.nextPeriod).2.periods = mid.periods := advance_frame (fun _ _ _ => rfl) _
    rw [advanced] at phase periods
    rw [booted]
    refine ⟨nofun, fun _ _ => ?_⟩
    have within := remains.within
    unfold Simulation.remaining moveOn
    rw [if_neg remains.unfinished, periods, phase]
    by_cases ends : mid.nextPeriod = mid.periods
    · simp [ends]
    · rw [if_neg ends, if_neg remains.unfinished]
      dsimp only
      omega

/-- Steps without an error give a row for each period that they execute. -/
theorem stepsInto_length {count : Nat} (passes : (sim.stepsInto failed append count).2.1 = none) :
    (sim.stepsInto failed append count).1.length = min count sim.ready.2.remaining := by
  induction count generalizing sim with
  | zero => exact (Nat.zero_min _).symm
  | succ count ih =>
    have stepped := stepInto_stepped failed append sim
    unfold stepsInto at passes ⊢
    generalize sim.stepInto failed append = done at stepped passes ⊢
    obtain ⟨answer, left⟩ := done
    cases answer with
    | error fault => cases passes
    | ok answer =>
      obtain ⟨none, some⟩ := stepped.remaining
      cases answer with
      | none =>
        rw [none rfl]
        rfl
      | some row =>
        have later := ih passes
        rw [ready_of_started stepped.started] at later
        rw [some row rfl, Nat.add_min_add_right, ← later]
        rfl

end Rows

end Stablecoin.Simulation
