import Stablecoin.Run.Simulation

namespace Stablecoin.Simulation
variable {α : Type} [Number α]

/-- A call to a run. Steps and runs append to a table of their own, which says of each
    row whether it takes it. The rows of one call differ in their periods, so what a
    table says of a row may depend on the rows before it. -/
inductive Call (α : Type) where
  | bootstrap
  | seedTrove (account : AccountId) (collateral netDebt targetCr inattention : α)
  | step (takes : Row α → Bool)
  | run (takes : Row α → Bool)

/-- A table that takes some rows, and refuses the others without a fault of the run. -/
def table (takes : Row α → Bool) (row : Row α) : Except (Option (RunError α)) Unit :=
  if takes row then pure () else throw none

/-- The run as the call leaves it. -/
def perform (sim : Simulation α) : Call α → Simulation α
  | .bootstrap => sim.bootstrap.2
  | .seedTrove account collateral netDebt targetCr inattention =>
    (sim.seedTrove account collateral netDebt targetCr inattention).2
  | .step takes => (sim.stepInto some (table takes)).2
  | .run takes => (sim.runInto some (table takes)).2.2

/-- The run after the calls, whatever each of them answered. -/
def after (sim : Simulation α) (calls : List (Call α)) : Simulation α := calls.foldl perform sim

/-- Every call meets the condition on the run that it is made on. -/
def Along (condition : Simulation α → Call α → Prop) (sim : Simulation α) : List (Call α) → Prop
  | [] => True
  | call :: calls => condition sim call ∧ (sim.perform call).Along condition calls

/-- The row that the table of a step takes. -/
def row? (sim : Simulation α) : Call α → Option (Row α)
  | .step takes =>
    match (sim.stepInto some (table takes)).1 with
    | .ok row => row
    | .error _ => none
  | _ => none

/-- The rows of all steps among the calls, in their order. -/
def rows (sim : Simulation α) : List (Call α) → List (Row α)
  | [] => []
  | call :: calls => (sim.row? call).toList ++ (sim.perform call).rows calls

/-- The run has been made from the parameters, with prices drawn or replayed. -/
def Starts (parameters : Parameters α) (sim : Simulation α) : Prop :=
  Simulation.new parameters = .ok sim ∨
    ∃ drawn prices, Simulation.new parameters = .ok drawn ∧ drawn.withPrices prices = .ok sim

end Stablecoin.Simulation
