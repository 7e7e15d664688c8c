import Stablecoin.Program.Command
import Stablecoin.Program.Console
import Stablecoin.Program.Failure
import Stablecoin.Replay.Preparation

/-!
The program behind the command line. A single run leaves its table, the parameters
that it ran with and its summary, the latter two beside the table; a batch leaves a
table for each seed. Everything is read before anything is written.
-/
namespace Stablecoin.Program
variable {m : Type → Type} [Monad m] [Disk m]

/-- An action on the disk as a step of a program that its fault ends. -/
def attempt {β : Type} (action : m (Except DiskFault β)) : ExceptT Failure m β :=
  ExceptT.mk (do return (← action).mapError .disk)

/-- A result as a step of a program. -/
def require {β ε : Type} (failure : ε → Failure) (result : Except ε β) : ExceptT Failure m β :=
  ExceptT.mk (return result.mapError failure)

def printLines (lines : List String) : ExceptT Failure m Unit :=
  lines.forM fun line => ExceptT.lift (Disk.print (line ++ "\n"))

/-- Writes a table, and makes the directories that it stands in. -/
def saveTable (path : String) (rows : List (Row Float)) : ExceptT Failure m Unit := do
  let directory := (Path.ofText path).parent.text
  unless directory.isEmpty do attempt (Disk.makeDirectories directory)
  attempt (Disk.write path (Row.table rows))

/-- The file beside a table with another extension. -/
def beside (path extension : String) : String := ((Path.ofText path).withExtension extension.toList).text

/-- One run. The table holds every period before an error. -/
def runSingle (parameters : Parameters Float) (prices : Option (Array Float)) (output : String) :
    ExceptT Failure m Unit := do
  let sim ← require .run (Simulation.prepare parameters prices)
  let (rows, error, _) := sim.run
  saveTable output rows
  if let some error := error then throw (.run error)
  let text ← require .unwritable parameters.toToml
  attempt (Disk.write (beside output "toml") text)
  if let some summary := RunSummary.ofRows? rows then
    attempt (Disk.write (beside output "summary.json") summary.file)
    printLines (summary.lines parameters.seed)
  printLines ["", "Table written to " ++ output]

/-- Runs one seed of a batch and writes its table, if a run could be made. -/
def runSeed (batch : Batch Float) (output : Option String) (seed : UInt64) : m (SeedOutcome Float String) := do
  let (rows, error) := batch.runSeed seed
  let saved : Except Failure Unit ←
    match output, rows with
    | some output, some rows =>
      ExceptT.run (saveTable (String.ofList ((Path.ofText output).forSeed seed)) rows)
    | _, _ => pure (.ok ())
  let error :=
    match saved with
    | .error failure => some failure.message
    | .ok () => error.map (·.message)
  return Batch.outcome seed rows error

/-- Runs every seed of a batch. -/
def runSeeds (batch : Batch Float) (output : Option String) : m (List (SeedOutcome Float String)) :=
  batch.seeds.mapM (runSeed batch output)

/-- A batch of runs, which fails if any of them does. -/
def runBatch (batch : Batch Float) (output : String) : ExceptT Failure m Unit := do
  let outcomes ← ExceptT.lift (runSeeds batch (some output))
  let summary := BatchSummary.ofOutcomes outcomes
  printLines (outcomes.map (·.line) ++ summary.lines)
  if 0 < summary.failed then throw (.batch summary.failed summary.runs)

/-- The parameters of a file. -/
def loadParameters (path : String) : ExceptT Failure m (Parameters Float) := do
  let bytes ← attempt (Disk.read path)
  require (.parameterFile path) (Parameters.ofFile (Path.ofText path) bytes)

/-- The recorded prices of a file. -/
def loadPrices (path : String) : ExceptT Failure m (List Float) := do
  let bytes ← attempt (Disk.read path)
  require (.prices path) (Replay.readPrices bytes.toList)

/-- Carries the options of a run out. -/
def runOptions (options : RunOptions) : ExceptT Failure m Unit := do
  let parameters ←
    match options.config with
    | some path => loadParameters path
    | none => pure default
  let parameters :=
    { parameters with
      periods := options.periods.getD parameters.periods
      seed := options.seed.getD parameters.seed }
  require (fun fault => .run (.parameters fault)) parameters.validate
  let prices ←
    match options.prices with
    | some path => do
      let recorded ← loadPrices path
      let prepared := Replay.rebase (Replay.interpolate recorded options.interpolate) parameters.collateral.initial
      pure (some prepared.toArray)
    | none => pure none
  if 1 < options.runs then runBatch ⟨parameters, options.runs, prices⟩ options.output
  else runSingle parameters prices options.output

def usage : String := "Usage: run [--config FILE] [--periods N] [--seed N] [--output FILE] [--prices FILE] " ++
  "[--interpolate N] [--runs N]\n"

/-- Carries a command line out and gives the exit code: 0 for success, 1 for a failure
    and 2 for arguments that make no command. -/
def main (arguments : List String) : m UInt32 := do
  match Command.ofArguments? arguments with
  | none =>
    Disk.complain usage
    return 2
  | some .help =>
    Disk.print usage
    return 0
  | some (.run options) =>
    match ← (runOptions options).run with
    | .ok () => return 0
    | .error failure =>
      Disk.complain ("error: " ++ failure.message ++ "\n")
      return 1

end Stablecoin.Program
