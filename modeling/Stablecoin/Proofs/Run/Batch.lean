import Mathlib.Algebra.Group.Nat.Defs
import Mathlib.Data.List.Nodup
import Stablecoin.Proofs.Run.Files

namespace Stablecoin

section AnyNumbers
variable {α : Type}

@[simp] theorem Batch.length_seeds (batch : Batch α) : batch.seeds.length = batch.runs := by
  simp [Batch.seeds]

/-- As many seeds as there are numbers of 64 bits differ, also where they wrap around. -/
theorem Batch.seeds_nodup (batch : Batch α) (few : batch.runs ≤ 2 ^ 64) : batch.seeds.Nodup := by
  refine List.Nodup.map_on ?_ List.nodup_range
  intro i first j second same
  have counts : i.toUInt64 = j.toUInt64 := by simpa using same
  have sizes := congrArg UInt64.toNat counts
  have whole {k : ℕ} (small : k < batch.runs) : k.toUInt64.toNat = k :=
    UInt64.toNat_ofNat_of_lt' (small.trans_le few)
  rw [List.mem_range] at first second
  rwa [whole first, whole second] at sizes

variable [Number α]

theorem Batch.outcomes_seed (batch : Batch α) : batch.outcomes.map (·.seed) = batch.seeds := by
  simp [Batch.outcomes, Batch.outcome, Function.comp_def]

/-- A run that ends without an error has left its rows. -/
theorem Batch.runSeed_rows {batch : Batch α} {seed : UInt64} (finished : (batch.runSeed seed).2 = none) :
    ∃ rows, (batch.runSeed seed).1 = some rows := by
  unfold Batch.runSeed at finished ⊢
  split at finished
  · cases finished
  · next sim prepared => exact ⟨_, rfl⟩

end AnyNumbers

namespace Program
variable {m : Type → Type} [Monad m] [Disk m]

/-- The disk decides at most on the error of a seed. -/
theorem runSeed_eq [LawfulMonad m] (batch : Batch Float) (output : Option String) (seed : UInt64) :
    ∃ action : m (Option String),
      runSeed batch output seed = Batch.outcome seed (batch.runSeed seed).1 <$> action := by
  unfold runSeed
  cases batch.runSeed seed with
  | mk rows error =>
    dsimp only
    split <;> exact ⟨_, (bind_pure_comp _ _).trans (Functor.map_map _ _ _).symm⟩

/-- Whatever the disk does, the outcomes come in the order of the seeds. -/
theorem runSeeds_seed [LawfulMonad m] (batch : Batch Float) (output : Option String) :
    List.map (·.seed) <$> runSeeds (m := m) batch output =
      (fun _ => batch.seeds) <$> runSeeds (m := m) batch output := by
  unfold runSeeds
  induction batch.seeds with
  | nil => simp
  | cons seed seeds ih =>
    obtain ⟨action, ran⟩ := runSeed_eq (m := m) batch output seed
    have rest := congrArg (fun seen : m (List UInt64) => (seed :: ·) <$> seen) ih
    simp only [Functor.map_map] at rest
    simp only [List.mapM_cons, ran, map_bind, bind_map_left, bind_pure_comp, Functor.map_map, List.map_cons,
      Batch.outcome, rest]

theorem forSeed_names {base : String} {name : List Char} (named : (Path.ofText base).fileName? = some name)
    (seed : UInt64) :
    DiskTree.Names (String.ofList ((Path.ofText base).forSeed seed)) (Path.seedName (some name) seed) := by
  obtain ⟨init, whole, -⟩ := Path.ofChars_forSeed base.toList named seed
  obtain ⟨names, upwards⟩ := Path.names_seedName (some name) seed
  refine ⟨⟨init, ?_⟩, names, upwards⟩
  rw [Path.ofText, String.toList_ofList, Path.ofText, whole]

/-- The table of the seed can be read from its file. -/
def Reads (batch : Batch Float) (base : String) (tree : DiskTree) (seed : UInt64) : Prop :=
  ∃ rows, (batch.runSeed seed).1 = some rows ∧
    tree.read (String.ofList ((Path.ofText base).forSeed seed)) = .ok (Row.table rows).toUTF8

/-- After a run of a seed its table can be read, and those of other seeds as before. -/
theorem runSeed_reads (batch : Batch Float) {base : String} {name : List Char}
    (named : (Path.ofText base).fileName? = some name) (seed : UInt64) {tree after : DiskTree}
    {outcome : SeedOutcome Float String}
    (ran : (runSeed (m := StateM DiskTree) batch (some base) seed) tree = (outcome, after)) :
    outcome.seed = seed ∧ (outcome.error = none → Reads batch base after seed) ∧
      ∀ other, other ≠ seed → Reads batch base tree other → Reads batch base after other := by
  unfold runSeed at ran
  cases left : batch.runSeed seed with
  | mk rows error =>
    simp only [left] at ran
    cases rows with
    | none =>
      cases ran
      refine ⟨rfl, fun finished => ?_, fun _ _ => id⟩
      have unfailed : (batch.runSeed seed).2 = none := by simpa [left, Batch.outcome] using finished
      obtain ⟨rows, made⟩ := Batch.runSeed_rows unfailed
      simp [left] at made
    | some rows =>
      dsimp only at ran
      rw [bind_run] at ran
      cases saved :
          (saveTable (m := StateM DiskTree) (String.ofList ((Path.ofText base).forSeed seed)) rows).run tree with
      | mk result later =>
        rw [saved] at ran
        obtain ⟨written, kept⟩ := saveTable_read (forSeed_names named seed) rows saved
        cases ran
        refine ⟨rfl, fun finished => ⟨rows, by rw [left], written ?_⟩, fun other different => ?_⟩
        · cases result with
          | error failure => simp [Batch.outcome] at finished
          | ok => rfl
        · rintro ⟨others, made, read⟩
          have apart : Path.seedName (some name) other ≠ Path.seedName (some name) seed :=
            (Path.seedName_injective _).ne different
          exact ⟨others, made, kept (forSeed_names named other) apart read⟩

/-- After runs of different seeds the table of every seed that did not fail can be read. -/
theorem runs_read (batch : Batch Float) {base : String} {name : List Char}
    (named : (Path.ofText base).fileName? = some name) {seeds : List UInt64} (distinct : seeds.Nodup)
    {tree after : DiskTree} {outcomes : List (SeedOutcome Float String)}
    (ran : (seeds.mapM (runSeed (m := StateM DiskTree) batch (some base))) tree = (outcomes, after)) :
    (∀ outcome ∈ outcomes, outcome.error = none → Reads batch base after outcome.seed) ∧
      ∀ other ∉ seeds, Reads batch base tree other → Reads batch base after other := by
  induction seeds generalizing tree outcomes with
  | nil =>
    cases ran
    simp
  | cons seed seeds ih =>
    rw [List.mapM_cons, bind_run] at ran
    cases first : runSeed (m := StateM DiskTree) batch (some base) seed tree with
    | mk outcome between =>
      rw [first, bind_run] at ran
      cases rest : (seeds.mapM (runSeed (m := StateM DiskTree) batch (some base))) between with
      | mk others last =>
        rw [rest] at ran
        cases ran
        obtain ⟨unseen, distinct⟩ := List.nodup_cons.mp distinct
        obtain ⟨same, here, elsewhere⟩ := runSeed_reads batch named seed first
        obtain ⟨later, spared⟩ := ih distinct rest
        refine ⟨fun one member finished => ?_, fun other outside read => ?_⟩
        · rcases List.mem_cons.mp member with rfl | member
          · rw [same]
            -- No later seed is this one, so none writes over its table.
            exact spared seed unseen (here finished)
          · exact later one member finished
        · obtain ⟨different, outside⟩ : other ≠ seed ∧ other ∉ seeds := by simpa using outside
          exact spared other outside (elsewhere other different read)

/-- The seeds of a batch differ, their tables have different paths in the directory of the
    given path, and the outcomes come in the order of the seeds. After the batch every
    table of a seed that did not fail is in its file. -/
theorem runSeeds_apart (batch : Batch Float) (few : batch.runs ≤ 2 ^ 64) (base : String) {name : List Char}
    (named : (Path.ofText base).fileName? = some name) :
    (batch.seeds.length = batch.runs ∧ batch.seeds.Nodup) ∧
      (∀ s t, (Path.ofText base).forSeed s = (Path.ofText base).forSeed t → s = t) ∧
      (batch.seeds.map (Path.ofText base).forSeed).Nodup ∧
      (∀ seed, (Path.ofChars ((Path.ofText base).forSeed seed)).parent = (Path.ofText base).parent) ∧
      batch.outcomes.map (·.seed) = batch.seeds ∧
      (∀ (m : Type → Type) [Monad m] [LawfulMonad m] [Disk m] (output : Option String),
        List.map (·.seed) <$> runSeeds (m := m) batch output =
          (fun _ => batch.seeds) <$> runSeeds (m := m) batch output) ∧
      ∀ tree outcomes after, runSeeds (m := StateM DiskTree) batch (some base) tree = (outcomes, after) →
        ∀ outcome ∈ outcomes, outcome.error = none → Reads batch base after outcome.seed := by
  have distinct := batch.seeds_nodup few
  have apart := Path.forSeed_injective (Path.ofText base)
  refine ⟨⟨batch.length_seeds, distinct⟩, fun s t same => apart same, distinct.map apart, ?_, batch.outcomes_seed,
    ?_, ?_⟩
  · intro seed
    exact (Path.forSeed_beside base.toList named seed).1
  · intro m _ _ _ output
    exact runSeeds_seed batch output
  · intro tree outcomes after ran
    exact (runs_read batch named distinct ran).1

/-- Four seeds that wrap around, and a path whose name looks like that of a seed. -/
theorem wrapped_seeds_apart :
    let batch : Batch Float := ⟨{ (default : Parameters Float) with seed := 18446744073709551614 }, 4, none⟩
    let base := Path.ofText "out/run_seed1.csv"
    batch.runs ≤ 2 ^ 64 ∧ base.fileName? = some "run_seed1.csv".toList ∧
      batch.seeds = [18446744073709551614, 18446744073709551615, 0, 1] ∧
      (batch.seeds.map base.forSeed).Nodup ∧ base.forSeed 0 = "out/run_seed1_seed0.csv".toList := by
  intro batch base
  have few : batch.runs ≤ 2 ^ 64 := by decide
  have named : base.fileName? = some "run_seed1.csv".toList := by decide
  obtain ⟨-, -, apart, -⟩ := runSeeds_apart batch few "out/run_seed1.csv" named
  exact ⟨few, named, by decide, apart, by decide⟩

end Program
end Stablecoin
