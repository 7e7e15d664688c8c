import Stablecoin.Disk.Tree
import Stablecoin.Proofs.Checks
import Stablecoin.Proofs.Path

namespace Stablecoin

namespace DiskTree

variable {tree later after : DiskTree}

/-- The directories of the tree are still there. -/
def Keeps (tree later : DiskTree) : Prop := tree.directories ⊆ later.directories

theorem Keeps.isDirectory (keeps : tree.Keeps later) {place : Place} (found : tree.isDirectory place = true) :
    later.isDirectory place = true := by
  unfold DiskTree.isDirectory at found ⊢
  simp only [Bool.or_eq_true, List.contains_iff_mem] at found ⊢
  exact found.imp_right fun member => keeps member

theorem isDirectory_of_enter {place target : Place} {segment : List Char}
    (entered : tree.enter place segment = .ok target) : tree.isDirectory place = true := by
  unfold enter at entered
  split at entered
  · next found => exact found
  · split at entered <;> cases entered

theorem Keeps.enter (keeps : tree.Keeps later) {place target : Place} {segment : List Char}
    (entered : tree.enter place segment = .ok target) : later.enter place segment = .ok target := by
  have found := isDirectory_of_enter entered
  rw [DiskTree.enter, if_pos found] at entered
  rwa [DiskTree.enter, if_pos (keeps.isDirectory found)]

/-- A way through directories stays open. -/
theorem Keeps.walk (keeps : tree.Keeps later) {segments : List (List Char)} {place target : Place}
    (entered : segments.foldlM tree.enter place = .ok target) : segments.foldlM later.enter place = .ok target := by
  induction segments generalizing place with
  | nil => exact entered
  | cons segment segments ih =>
    rw [List.foldlM_cons, bind_eq_ok] at entered ⊢
    obtain ⟨next, first, rest⟩ := entered
    exact ⟨next, keeps.enter first, ih rest⟩

theorem Keeps.trans (first : tree.Keeps later) (second : later.Keeps after) : tree.Keeps after :=
  fun _ member => second (first member)

/-- A step that makes a directory finds one there or adds it. -/
theorem makeDirectory_eq_ok {start next : DiskTree × Place} {segment : List Char}
    (made : makeDirectory start segment = .ok next) :
    ∃ target, start.1.enter start.2 segment = .ok target ∧
      (start.1.isDirectory target = true ∧ next = (start.1, target) ∨
        ¬ start.1.isDirectory target = true ∧
          next = ({ start.1 with directories := start.1.directories ++ [target] }, target)) := by
  obtain ⟨tree, place⟩ := start
  obtain ⟨target, entered, made⟩ := bind_eq_ok.mp made
  refine ⟨target, entered, ?_⟩
  by_cases occupied : (tree.file? target).isSome
  · simp only [occupied, if_true] at made
    cases made
  · simp only [occupied, Bool.false_eq_true, if_false] at made
    split at made
    · next found => exact .inl ⟨found, (Except.ok.inj made).symm⟩
    · next absent => exact .inr ⟨absent, (Except.ok.inj made).symm⟩

theorem makeDirectory_keeps {start next : DiskTree × Place} {segment : List Char}
    (made : makeDirectory start segment = .ok next) : start.1.Keeps next.1 ∧ next.1.files = start.1.files := by
  obtain ⟨target, -, ⟨-, rfl⟩ | ⟨-, rfl⟩⟩ := makeDirectory_eq_ok made
  · exact ⟨fun _ => id, rfl⟩
  · exact ⟨List.subset_append_left _ _, rfl⟩

/-- What makes directories leaves all directories and all files. -/
theorem makeDirectories_keeps {path : String} (made : tree.makeDirectories path = .ok after) :
    tree.Keeps after ∧ after.files = tree.files := by
  have walked {segments : List (List Char)} {start last : DiskTree × Place}
      (made : segments.foldlM makeDirectory start = .ok last) :
      start.1.Keeps last.1 ∧ last.1.files = start.1.files := by
    induction segments generalizing start with
    | nil =>
      cases made
      exact ⟨fun _ => id, rfl⟩
    | cons segment segments ih =>
      rw [List.foldlM_cons, bind_eq_ok] at made
      obtain ⟨next, first, rest⟩ := made
      obtain ⟨keepsFirst, sameFirst⟩ := makeDirectory_keeps first
      obtain ⟨keepsRest, sameRest⟩ := ih rest
      exact ⟨keepsFirst.trans keepsRest, sameRest.trans sameFirst⟩
  obtain ⟨segments, -, finished⟩ := bind_eq_ok.mp made
  obtain ⟨last, walk, ends⟩ := bind_eq_ok.mp finished
  cases ends
  exact walked walk

/-- Every directory stands in a directory. -/
def Rooted (tree : DiskTree) : Prop := ∀ place ∈ tree.directories, tree.isDirectory place.dropLast = true

theorem Rooted.dropLast (rooted : tree.Rooted) {place : Place} (found : tree.isDirectory place = true) :
    tree.isDirectory place.dropLast = true := by
  cases place with
  | nil => rfl
  | cons first rest => exact rooted _ (by simpa [DiskTree.isDirectory] using found)

/-- A step from a directory leads to one, or to something in it. -/
theorem Rooted.enter (rooted : tree.Rooted) {place target : Place} {segment : List Char}
    (entered : tree.enter place segment = .ok target) :
    tree.isDirectory target = true ∨
      tree.isDirectory target.dropLast = true ∧ Path.Names segment ∧ segment ≠ ['.', '.'] := by
  have found := isDirectory_of_enter entered
  rw [DiskTree.enter, if_pos found] at entered
  split at entered
  · cases entered
    exact .inl found
  · next names =>
    split at entered
    · split at entered
      · cases entered
      · cases entered
        exact .inl (rooted.dropLast found)
    · next upwards =>
      cases entered
      exact .inr ⟨by rwa [List.dropLast_concat], not_not.mp names, upwards⟩

theorem Rooted.makeDirectory {start next : DiskTree × Place} {segment : List Char} (rooted : start.1.Rooted)
    (made : makeDirectory start segment = .ok next) : next.1.Rooted := by
  have keeps := (makeDirectory_keeps made).1
  obtain ⟨target, entered, ⟨-, rfl⟩ | ⟨absent, rfl⟩⟩ := makeDirectory_eq_ok made
  · exact rooted
  · intro other member
    refine keeps.isDirectory ?_
    rcases List.mem_append.mp member with old | new
    · exact rooted other old
    · -- What is no directory yet can only be a name in one.
      rw [List.mem_singleton.mp new]
      exact ((rooted.enter entered).resolve_left absent).1

theorem Rooted.makeDirectories {path : String} (rooted : tree.Rooted) (made : tree.makeDirectories path = .ok after) :
    after.Rooted := by
  have walked {segments : List (List Char)} {start last : DiskTree × Place} (rooted : start.1.Rooted)
      (made : segments.foldlM DiskTree.makeDirectory start = .ok last) : last.1.Rooted := by
    induction segments generalizing start with
    | nil =>
      cases made
      exact rooted
    | cons segment segments ih =>
      rw [List.foldlM_cons, bind_eq_ok] at made
      obtain ⟨next, first, rest⟩ := made
      exact ih (rooted.makeDirectory first) rest
  obtain ⟨segments, -, finished⟩ := bind_eq_ok.mp made
  obtain ⟨last, walk, ends⟩ := bind_eq_ok.mp finished
  cases ends
  exact walked rooted walk

/-- The path ends in the name of a file. -/
def Names (path : String) (name : List Char) : Prop :=
  (∃ init, (Path.ofText path).segments = init ++ [name]) ∧ Path.Names name ∧ name ≠ ['.', '.']

theorem enter_name {place target : Place} {name : List Char} (names : Path.Names name) (upwards : name ≠ ['.', '.'])
    (entered : tree.enter place name = .ok target) : target = place ++ [name] := by
  have found := isDirectory_of_enter entered
  rw [enter, if_pos found, if_neg (not_not.mpr names), if_neg upwards] at entered
  cases entered
  rfl

theorem read_eq_ok {path : String} {content : ByteArray} :
    tree.read path = .ok content ↔ ∃ segments place, DiskTree.segments path = .ok segments ∧
      segments.foldlM tree.enter [] = .ok place ∧ tree.file? place = some content := by
  unfold read
  simp only [bind_eq_ok]
  constructor
  · rintro ⟨segments, split, place, walked, found⟩
    refine ⟨segments, place, split, walked, ?_⟩
    split at found
    · next held => simpa [pure, Except.pure] using held.trans (congrArg some (Except.ok.inj found))
    · split at found <;> cases found
  · rintro ⟨segments, place, split, walked, found⟩
    exact ⟨segments, split, place, walked, by rw [found]; rfl⟩

theorem segments_eq_ok {path : String} {segments : List (List Char)} (split : DiskTree.segments path = .ok segments) :
    (Path.ofText path).segments = segments := by
  unfold DiskTree.segments at split
  dsimp only at split
  split at split
  · cases split
  · exact Except.ok.inj split

/-- The place of a path stands under the name that the path ends in. -/
theorem Names.place {path : String} {name : List Char} (names : Names path name) {segments : List (List Char)}
    (split : DiskTree.segments path = .ok segments) {place : Place}
    (walked : segments.foldlM tree.enter [] = .ok place) :
    ∃ directory, place = directory ++ [name] := by
  obtain ⟨init, whole⟩ := names.1
  obtain rfl := whole.symm.trans (segments_eq_ok split)
  rw [List.foldlM_append, bind_eq_ok] at walked
  obtain ⟨directory, -, walked⟩ := walked
  rw [List.foldlM_cons, bind_eq_ok] at walked
  obtain ⟨target, entered, ends⟩ := walked
  cases ends
  exact ⟨directory, enter_name names.2.1 names.2.2 entered⟩

/-- Where a path ends in a name, writing puts the content into the file of that name. -/
theorem write_eq_ok {path content : String} {name : List Char} (names : Names path name)
    (written : tree.write path content = .ok after) :
    ∃ segments directory, DiskTree.segments path = .ok segments ∧
      segments.foldlM tree.enter [] = .ok (directory ++ [name]) ∧
      after = { tree with
        files := tree.files.filter (·.1 != directory ++ [name]) ++ [(directory ++ [name], content.toUTF8)] } := by
  obtain ⟨segments, split, written⟩ := bind_eq_ok.mp written
  obtain ⟨directory, walked, written⟩ := bind_eq_ok.mp written
  obtain ⟨place, entered, written⟩ := bind_eq_ok.mp written
  obtain ⟨init, whole⟩ := names.1
  obtain rfl := whole.symm.trans (segments_eq_ok split)
  simp only [List.dropLast_concat, List.getLast?_concat, Option.getD_some] at walked entered written
  obtain rfl := enter_name names.2.1 names.2.2 entered
  refine ⟨init ++ [name], directory, split, ?_, ?_⟩
  · rw [List.foldlM_append, bind_eq_ok]
    exact ⟨directory, walked, by simpa using entered⟩
  · split at written
    · cases written
    · exact (Except.ok.inj written).symm

/-- A path that can be written to has a file name, unless the disk is not made of directories. -/
theorem Rooted.fileName (rooted : tree.Rooted) {path content : String}
    (written : tree.write path content = .ok after) : ∃ name, (Path.ofText path).fileName? = some name := by
  obtain ⟨segments, split, written⟩ := bind_eq_ok.mp written
  obtain ⟨directory, -, written⟩ := bind_eq_ok.mp written
  obtain ⟨place, entered, written⟩ := bind_eq_ok.mp written
  split at written
  · cases written
  · next free =>
    rw [not_or, not_not] at free
    have upwards := ((rooted.enter entered).resolve_left free.2).2.2
    rcases List.eq_nil_or_concat' segments with rfl | ⟨init, name, rfl⟩
    · exact absurd free.1 (by decide)
    · rw [List.getLast?_concat, Option.getD_some] at free upwards
      refine ⟨name, ?_⟩
      have ends := Path.fileName?_concat (Path.ofText path).front init free.1 upwards
      rwa [← segments_eq_ok split] at ends

/-- A file that is written holds its new content, and every other one what it held. -/
theorem lookup_replaced (files : List (Place × ByteArray)) (place written : Place) (content : ByteArray) :
    (files.filter (·.1 != written) ++ [(written, content)]).lookup place =
      if place = written then some content else files.lookup place := by
  induction files with
  | nil => by_cases same : place = written <;> simp [List.lookup_cons, same, beq_eq_false_iff_ne.mpr]
  | cons file files ih =>
    obtain ⟨key, held⟩ := file
    by_cases replaced : key = written
    · subst replaced
      rw [List.filter_cons_of_neg (by simp), ih]
      by_cases same : place = key <;> simp [List.lookup_cons, same, beq_eq_false_iff_ne.mpr]
    · rw [List.filter_cons_of_pos (by simpa using replaced), List.cons_append, List.lookup_cons, List.lookup_cons, ih]
      by_cases same : place = key
      · simp [same, replaced]
      · simp [beq_eq_false_iff_ne.mpr same]

/-- What is written can be read. -/
theorem read_of_write {path content : String} {name : List Char} (names : Names path name)
    (written : tree.write path content = .ok after) : after.read path = .ok content.toUTF8 := by
  obtain ⟨segments, directory, split, walked, result⟩ := write_eq_ok names written
  have keeps : tree.Keeps after := result ▸ fun _ => id
  refine read_eq_ok.mpr ⟨segments, directory ++ [name], split, keeps.walk walked, ?_⟩
  rw [file?, result, lookup_replaced, if_pos rfl]

/-- Files of other names hold what they held. -/
theorem read_write_of_ne {path written text : String} {name other : List Char} {content : ByteArray}
    (names : Names path name) (others : Names written other) (apart : name ≠ other)
    (read : tree.read path = .ok content) (wrote : tree.write written text = .ok after) :
    after.read path = .ok content := by
  obtain ⟨segments, place, split, walked, found⟩ := read_eq_ok.mp read
  obtain ⟨-, directory, -, -, result⟩ := write_eq_ok others wrote
  have keeps : tree.Keeps after := result ▸ fun _ => id
  obtain ⟨before, rfl⟩ := names.place split walked
  refine read_eq_ok.mpr ⟨segments, before ++ [name], split, keeps.walk walked, ?_⟩
  rw [file?, result, lookup_replaced, if_neg (by simp [apart])]
  exact found

/-- What changes no file and takes no directory away changes nothing that can be read. -/
theorem Keeps.read {path : String} {content : ByteArray} (keeps : tree.Keeps after) (same : after.files = tree.files)
    (read : tree.read path = .ok content) : after.read path = .ok content := by
  obtain ⟨segments, place, split, walked, found⟩ := read_eq_ok.mp read
  exact read_eq_ok.mpr ⟨segments, place, split, keeps.walk walked, by rwa [file?, same]⟩

/-- Making directories changes nothing that can be read. -/
theorem read_makeDirectories {path directory : String} {content : ByteArray} (read : tree.read path = .ok content)
    (made : tree.makeDirectories directory = .ok after) : after.read path = .ok content :=
  (makeDirectories_keeps made).1.read (makeDirectories_keeps made).2 read

end DiskTree
end Stablecoin
