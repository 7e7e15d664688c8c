import Stablecoin.Proofs.Parameters.Toml
import Stablecoin.Proofs.Run.Files

namespace Stablecoin.Program

variable {p : Parameters Float} {tree after : DiskTree}

theorem ofText_beside (output extension : String) :
    Path.ofText (beside output extension) =
      Path.ofChars ((Path.ofText output).withExtension extension.toList).toChars := by
  rw [beside, Path.ofText, Path.text, String.toList_ofList]

/-- The name of a file beside a table. -/
def besideName (name : List Char) (extension : String) : List Char := (Path.splitName name).1 ++ '.' :: extension.toList

theorem beside_names {output extension : String} {name : List Char} (named : (Path.ofText output).fileName? = some name)
    (slashless : '/' ∉ extension.toList) (long : 2 ≤ extension.toList.length) :
    DiskTree.Names (beside output extension) (besideName name extension) := by
  obtain ⟨⟨init, whole⟩, names, upwards⟩ := Path.ofChars_withExtension output.toList named slashless long
  refine ⟨⟨init, ?_⟩, names, upwards⟩
  rw [ofText_beside, Path.ofText, whole]
  rfl

theorem extension_beside {output extension : String} {name : List Char}
    (named : (Path.ofText output).fileName? = some name) (slashless : '/' ∉ extension.toList)
    (dotless : '.' ∉ extension.toList) (long : 2 ≤ extension.toList.length) :
    (Path.ofText (beside output extension)).extension? = some extension.toList := by
  obtain ⟨⟨init, whole⟩, names, upwards⟩ := Path.ofChars_withExtension output.toList named slashless long
  have proper := (Path.trim_of_fileName named).2.1
  rw [ofText_beside, Path.ofText, whole, Path.extension?, Path.fileName?_concat _ _ names upwards, Option.bind_some,
    Path.splitName_dot (Path.stem_ne_nil proper.1) dotless]

theorem loadParameters_run (path : String) (tree : DiskTree) {bytes : ByteArray} (held : tree.read path = .ok bytes) :
    (loadParameters (m := StateM DiskTree) path).run tree =
      ((Parameters.ofFile (Path.ofText path) bytes).mapError (.parameterFile path), tree) := by
  have read : (attempt (m := StateM DiskTree) (Disk.read path)).run tree = (.ok bytes, tree) := by
    change ((tree.read path).mapError Failure.disk, tree) = _
    rw [held]
    rfl
  rw [loadParameters, ExceptT.run_bind, bind_run, read]
  rfl

/-- A path that a table is saved to has a file name. -/
theorem saveTable_fileName {output : String} {rows : List (Row Float)} (rooted : tree.Rooted)
    (saved : (saveTable (m := StateM DiskTree) output rows).run tree = (.ok (), after)) :
    ∃ name, (Path.ofText output).fileName? = some name := by
  rw [saveTable_run] at saved
  dsimp only at saved
  split at saved
  · cases saved
  · next made reached =>
    have rooted : made.Rooted := by
      split at reached
      · cases reached
        exact rooted
      · exact rooted.makeDirectories reached
    split at saved
    · cases saved
    · next written => exact rooted.fileName written

/-- What a run leaves behind its table. -/
def leave {m : Type → Type} [Monad m] [Disk m] (p : Parameters Float) (output : String) (rows : List (Row Float)) :
    ExceptT Failure m Unit := do
  let text ← require .unwritable p.toToml
  attempt (Disk.write (beside output "toml") text)
  if let some summary := RunSummary.ofRows? rows then
    attempt (Disk.write (beside output "summary.json") summary.file)
    printLines (summary.lines p.seed)
  printLines ["", "Table written to " ++ output]

/-- A run saves its table and leaves the rest if no error has ended it. -/
theorem runSingle_run {prices : Option (Array Float)} {sim : Simulation Float}
    (prepared : Simulation.prepare p prices = .ok sim) {rows : List (Row Float)} {error : Option (RunError Float)}
    {last : Simulation Float} (output : String) (tree : DiskTree) :
    sim.run = (rows, error, last) → (runSingle (m := StateM DiskTree) p prices output).run tree =
      match (saveTable (m := StateM DiskTree) output rows).run tree with
      | (.error failure, saved) => (.error failure, saved)
      | (.ok (), saved) =>
        match error with
        | some error => (.error (.run error), saved)
        | none => (leave (m := StateM DiskTree) p output rows).run saved := by
  intro ran
  have start : require (m := StateM DiskTree) Failure.run (Simulation.prepare p prices) = pure sim := by
    rw [prepared]
    rfl
  rw [runSingle, start, pure_bind, ran]
  dsimp only
  rw [ExceptT.run_bind, bind_run]
  cases (saveTable (m := StateM DiskTree) output rows).run tree with
  | mk result saved =>
    cases result with
    | error failure => rfl
    | ok => cases error <;> rfl

/-- What is left holds the bundle, and nothing is written over it. -/
theorem leave_reads {output : String} {name : List Char} (named : (Path.ofText output).fileName? = some name)
    {rows : List (Row Float)} (left : (leave (m := StateM DiskTree) p output rows).run tree = (.ok (), after)) :
    ∃ text, p.toToml = .ok text ∧ after.read (beside output "toml") = .ok text.toUTF8 := by
  have bundle := @beside_names output "toml" name named (by decide) (by decide)
  have others := @beside_names output "summary.json" name named (by decide) (by decide)
  obtain ⟨text, _, fits, left⟩ := run_bind_eq_ok.mp left
  obtain ⟨written, rfl⟩ := require_eq_ok.mp fits
  obtain ⟨_, saved, wrote, left⟩ := run_bind_eq_ok.mp left
  have read := DiskTree.read_of_write bundle (attempt_eq_ok.mp wrote)
  refine ⟨text, written, ?_⟩
  cases summary : RunSummary.ofRows? rows with
  | none =>
    simp only [summary] at left
    obtain ⟨keeps, same⟩ := printLines_keeps left
    exact keeps.read same read
  | some summary =>
    simp only [summary] at left
    obtain ⟨_, between, wroteSummary, left⟩ := run_bind_eq_ok.mp left
    obtain ⟨_, told, printed, left⟩ := run_bind_eq_ok.mp left
    -- The summary is written later, but under another name.
    have apart : besideName name "toml" ≠ besideName name "summary.json" := by
      simp [besideName]
    have kept := DiskTree.read_write_of_ne bundle others apart read (attempt_eq_ok.mp wroteSummary)
    obtain ⟨keeps, same⟩ := printLines_keeps printed
    obtain ⟨keeps', same'⟩ := printLines_keeps left
    exact keeps'.read same' (keeps.read same kept)

/-- A run that ends well has written its bundle, and nothing over it. -/
theorem runSingle_writes {prices : Option (Array Float)} {output : String} (rooted : tree.Rooted)
    (finished : (runSingle (m := StateM DiskTree) p prices output).run tree = (.ok (), after)) :
    ∃ name text, (Path.ofText output).fileName? = some name ∧ p.toToml = .ok text ∧
      after.read (beside output "toml") = .ok text.toUTF8 := by
  obtain ⟨sim, _, prepared, -⟩ := run_bind_eq_ok.mp finished
  obtain ⟨prepared, -⟩ := require_eq_ok.mp prepared
  obtain ⟨rows, error, last, ran⟩ : ∃ rows error last, sim.run = (rows, error, last) := ⟨_, _, _, rfl⟩
  rw [runSingle_run prepared output tree ran] at finished
  cases table : (saveTable (m := StateM DiskTree) output rows).run tree with
  | mk result saved =>
    rw [table] at finished
    cases result with
    | error failure => cases finished
    | ok =>
      cases error with
      | some error => cases finished
      | none =>
        obtain ⟨name, named⟩ := saveTable_fileName rooted table
        obtain ⟨text, written, read⟩ := leave_reads named finished
        exact ⟨name, text, named, written, read⟩

/-- A run whose bundle cannot be written ends in a failure behind its table. -/
theorem runSingle_unwritable {prices : Option (Array Float)} {output : String} {saved : DiskTree}
    {sim last : Simulation Float} {rows : List (Row Float)} (large : ¬ ∀ n ∈ p.words, n < 2 ^ 63)
    (prepared : Simulation.prepare p prices = .ok sim) (passed : sim.run = (rows, none, last))
    (table : (saveTable (m := StateM DiskTree) output rows).run tree = (.ok (), saved)) :
    (runSingle (m := StateM DiskTree) p prices output).run tree = (.error (.unwritable .outOfRange), saved) := by
  have refused : require (m := StateM DiskTree) Failure.unwritable p.toToml =
      ExceptT.mk (pure (.error (.unwritable .outOfRange))) := by
    rw [Parameters.toToml_eq_error large]
    rfl
  rw [runSingle_run prepared output tree passed, table]
  dsimp only
  rw [leave, refused]
  rfl

/-- For a bundle of finite numbers that a run accepts: it can be written and then loads as
    it was exactly if every word is below `2 ^ 63`. A run that ends well leaves the bundle
    beside its table; with a larger word a run that went through all its periods fails
    behind its table, and leaves no bundle. -/
theorem bundle_restored_iff (finite : ∀ x ∈ p.reals, x.isFinite = true) (valid : p.validate = .ok ()) :
    (∀ path : Path, path.extension? ≠ some "json".toList →
      ((∃ text, p.toToml = .ok text ∧ Parameters.ofFile path text.toUTF8 = .ok p) ↔ ∀ n ∈ p.words, n < 2 ^ 63)) ∧
    (∀ (prices : Option (Array Float)) (output : String) (tree after : DiskTree), tree.Rooted →
      (runSingle (m := StateM DiskTree) p prices output).run tree = (.ok (), after) →
        ((loadParameters (m := StateM DiskTree) (beside output "toml")).run after).1 = .ok p) ∧
    ∀ (prices : Option (Array Float)) (output : String) (tree saved : DiskTree) (sim last : Simulation Float)
      (rows : List (Row Float)), Simulation.prepare p prices = .ok sim → sim.run = (rows, none, last) →
      (saveTable (m := StateM DiskTree) output rows).run tree = (.ok (), saved) → (¬ ∀ n ∈ p.words, n < 2 ^ 63) →
        (runSingle (m := StateM DiskTree) p prices output).run tree = (.error (.unwritable .outOfRange), saved) := by
  have loads {text : String} (written : p.toToml = .ok text) {path : Path}
      (other : path.extension? ≠ some "json".toList) : Parameters.ofFile path text.toUTF8 = .ok p := by
    obtain ⟨small, rfl⟩ := Parameters.toToml_eq_ok.mp written
    exact Parameters.ofFile_document (Parameters.fits_of_all finite small) valid other
  refine ⟨fun path other => ⟨?_, fun small => ?_⟩, fun prices output tree after rooted finished => ?_,
    fun prices output tree saved sim last rows prepared passed table large =>
      runSingle_unwritable large prepared passed table⟩
  · rintro ⟨text, written, -⟩
    exact (Parameters.toToml_eq_ok.mp written).1
  · have written : p.toToml = .ok p.document := Parameters.toToml_eq_ok.mpr ⟨small, rfl⟩
    exact ⟨p.document, written, loads written other⟩
  · obtain ⟨name, text, named, written, read⟩ := runSingle_writes rooted finished
    have other : (Path.ofText (beside output "toml")).extension? ≠ some "json".toList := by
      rw [@extension_beside output "toml" name named (by decide) (by decide) (by decide)]
      decide
    rw [loadParameters_run _ _ read, loads written other]
    rfl

/-- A bundle whose run has one row. -/
def brief (seed : UInt64) : Parameters Float := { Parameters.quiet with periods := 0, seed }

/-- The largest seed that the format has a place for. -/
theorem brief_bundle_restored :
    (∃ text, (brief 0x7fffffffffffffff).toToml = .ok text ∧
      Parameters.ofFile (Path.ofText "run.toml") text.toUTF8 = .ok (brief 0x7fffffffffffffff)) ∧
    ∃ after, (runSingle (m := StateM DiskTree) (brief 0x7fffffffffffffff) none "run.csv").run .empty = (.ok (), after) ∧
      ((loadParameters (m := StateM DiskTree) "run.toml").run after).1 = .ok (brief 0x7fffffffffffffff) := by
  obtain ⟨restored, left, -⟩ :=
    bundle_restored_iff (p := brief 0x7fffffffffffffff) (by decide +kernel) (by decide +kernel)
  refine ⟨(restored _ (by decide +kernel)).mpr (by decide), ?_⟩
  cases ran : (runSingle (m := StateM DiskTree) (brief 0x7fffffffffffffff) none "run.csv").run .empty with
  | mk result after =>
    have ends :
        ((runSingle (m := StateM DiskTree) (brief 0x7fffffffffffffff) none "run.csv").run .empty).1.isOk = true := by
      decide +kernel
    rw [ran] at ends
    cases result with
    | error failure => cases ends
    | ok =>
      refine ⟨after, rfl, ?_⟩
      have loaded := left none "run.csv" .empty after (by rintro _ ⟨⟩) ran
      rwa [show beside "run.csv" "toml" = "run.toml" by decide +kernel] at loaded

/-- One more, and the bundle is accepted and its run goes through, but cannot be left. -/
theorem brief_bundle_unwritable :
    (∀ x ∈ (brief 0x8000000000000000).reals, x.isFinite = true) ∧ (brief 0x8000000000000000).validate = .ok () ∧
      (brief 0x8000000000000000).toToml = .error .outOfRange ∧
      ((runSingle (m := StateM DiskTree) (brief 0x8000000000000000) none "run.csv").run .empty).1.isOk = false :=
  ⟨by decide +kernel, by decide +kernel, Parameters.toToml_eq_error (by decide), by decide +kernel⟩

end Stablecoin.Program
