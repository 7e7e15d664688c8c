import Stablecoin.Program.Basic
import Stablecoin.Proofs.Disk

namespace Stablecoin.Program

/-- A change of the disk, unless a fault has kept it as it was. -/
theorem attempt_run (change : DiskTree → Except DiskFault DiskTree) (tree : DiskTree) :
    (attempt (m := StateM DiskTree) fun tree => tree.settle (change tree)).run tree =
      match change tree with
      | .error fault => (.error (.disk fault), tree)
      | .ok after => (.ok (), after) := by
  simp only [attempt, bind, ExceptT.run, ExceptT.mk, StateT.bind]
  cases change tree <;> rfl

theorem bind_run {β γ : Type} (action : StateM DiskTree β) (next : β → StateM DiskTree γ) (tree : DiskTree) :
    (action >>= next) tree = next (action tree).1 (action tree).2 := rfl

/-- A table is written once the directories that it stands in are made. -/
theorem saveTable_run (path : String) (rows : List (Row Float)) (tree : DiskTree) :
    (saveTable (m := StateM DiskTree) path rows).run tree =
      let directory := (Path.ofText path).parent.text
      match if directory.isEmpty then .ok tree else tree.makeDirectories directory with
      | .error fault => (.error (.disk fault), tree)
      | .ok made =>
        match made.write path (Row.table rows) with
        | .error fault => (.error (.disk fault), made)
        | .ok after => (.ok (), after) := by
  have writes (tree : DiskTree) : (attempt (m := StateM DiskTree) (Disk.write path (Row.table rows))).run tree =
      match tree.write path (Row.table rows) with
      | .error fault => (.error (.disk fault), tree)
      | .ok after => (.ok (), after) := attempt_run _ tree
  unfold saveTable
  dsimp only
  split
  · exact writes tree
  · have makes : (attempt (m := StateM DiskTree) (Disk.makeDirectories (Path.ofText path).parent.text)).run tree =
        match tree.makeDirectories (Path.ofText path).parent.text with
        | .error fault => (.error (.disk fault), tree)
        | .ok after => (.ok (), after) := attempt_run _ tree
    rw [ExceptT.run_bind, bind_run, makes]
    cases tree.makeDirectories (Path.ofText path).parent.text with
    | error fault => rfl
    | ok made => exact writes made

/-- Saving a table keeps what can be read from files of other names, and the table can
    be read if it is saved. -/
theorem saveTable_read {path : String} {name : List Char} (names : DiskTree.Names path name) (rows : List (Row Float))
    {tree after : DiskTree} {result : Except Failure Unit}
    (saved : (saveTable (m := StateM DiskTree) path rows).run tree = (result, after)) :
    (result = .ok () → after.read path = .ok (Row.table rows).toUTF8) ∧
      ∀ {other : String} {different : List Char} {content : ByteArray}, DiskTree.Names other different →
        different ≠ name → tree.read other = .ok content → after.read other = .ok content := by
  rw [saveTable_run] at saved
  dsimp only at saved
  split at saved
  · cases saved
    simp
  · next made reached =>
    have kept {other : String} {content : ByteArray} (read : tree.read other = .ok content) :
        made.read other = .ok content := by
      split at reached
      · cases reached
        exact read
      · exact DiskTree.read_makeDirectories read reached
    split at saved
    · cases saved
      exact ⟨by simp, fun _ _ read => kept read⟩
    · next written =>
      cases saved
      exact ⟨fun _ => DiskTree.read_of_write names written,
        fun others apart read => DiskTree.read_write_of_ne others names apart (kept read) written⟩

variable {β γ : Type} {tree after : DiskTree}

/-- A program that ends well has gone through both of its parts. -/
theorem run_bind_eq_ok {action : ExceptT Failure (StateM DiskTree) β} {next : β → ExceptT Failure (StateM DiskTree) γ}
    {result : γ} :
    (action >>= next).run tree = (.ok result, after) ↔
      ∃ value between, action.run tree = (.ok value, between) ∧ (next value).run between = (.ok result, after) := by
  rw [ExceptT.run_bind, bind_run]
  cases ran : action.run tree with
  | mk value between =>
    cases value with
    | error failure => exact iff_of_false (by rintro ⟨⟩) (by rintro ⟨_, _, ⟨⟩, _⟩)
    | ok value =>
      refine ⟨fun rest => ⟨value, between, rfl, rest⟩, ?_⟩
      rintro ⟨_, _, ⟨⟩, rest⟩
      exact rest

theorem require_eq_ok {ε : Type} {failure : ε → Failure} {result : Except ε β} {value : β} :
    (require (m := StateM DiskTree) failure result).run tree = (.ok value, after) ↔
      result = .ok value ∧ tree = after := by
  cases result with
  | error fault => exact iff_of_false (by rintro ⟨⟩) (by rintro ⟨⟨⟩, -⟩)
  | ok found =>
    constructor
    · rintro ⟨⟩
      exact ⟨rfl, rfl⟩
    · rintro ⟨⟨⟩, rfl⟩
      rfl

theorem attempt_eq_ok {change : DiskTree → Except DiskFault DiskTree} :
    (attempt (m := StateM DiskTree) fun tree => tree.settle (change tree)).run tree = (.ok (), after) ↔
      change tree = .ok after := by
  rw [attempt_run]
  cases change tree with
  | error fault => exact iff_of_false (by rintro ⟨⟩) (by rintro ⟨⟩)
  | ok changed =>
    constructor
    · rintro ⟨⟩
      rfl
    · rintro ⟨⟩
      rfl

/-- Printing changes no file. -/
theorem printLines_keeps {lines : List String}
    (printed : (printLines (m := StateM DiskTree) lines).run tree = (.ok (), after)) :
    tree.Keeps after ∧ after.files = tree.files := by
  induction lines generalizing tree with
  | nil =>
    cases printed
    exact ⟨fun _ => id, rfl⟩
  | cons line lines ih =>
    obtain ⟨_, between, first, rest⟩ := run_bind_eq_ok.mp printed
    cases first
    exact @ih { tree with printed := tree.printed ++ (line ++ "\n") } rest

end Stablecoin.Program
