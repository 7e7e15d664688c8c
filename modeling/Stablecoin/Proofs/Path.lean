import Mathlib.Data.List.DropRight
import Mathlib.Tactic.Common
import Stablecoin.Path

/-!
A path and its text. A path whose segments can stand behind its front is read back from
its text, and the text with another file name is that of a file in the same directory.
The tables of two seeds have different names there, whatever the name of the given file.
-/
namespace Stablecoin.Path

theorem split_ne_nil (text : List Char) : split text ≠ [] := by
  cases text with
  | nil => simp [split]
  | cons c rest =>
    rw [split]
    split
    · simp
    · cases split rest <;> simp

theorem slash_not_mem_split {text segment : List Char} (member : segment ∈ split text) : '/' ∉ segment := by
  induction text generalizing segment with
  | nil => simp_all [split]
  | cons c rest ih =>
    obtain ⟨first, others, parts⟩ := List.exists_cons_of_ne_nil (split_ne_nil rest)
    rw [parts] at ih
    rw [split, parts] at member
    split at member
    · rcases List.mem_cons.mp member with rfl | later
      · simp
      · exact ih later
    · next letter =>
      rcases List.mem_cons.mp member with rfl | later
      · simpa [Ne.symm letter] using ih (List.mem_cons_self ..)
      · exact ih (List.mem_cons_of_mem _ later)

/-- A segment without a slash is all of the text up to the next slash. -/
theorem split_segment {segment : List Char} (rest : List Char) (slashless : '/' ∉ segment) :
    split (segment ++ '/' :: rest) = segment :: split rest := by
  induction segment with
  | nil => simp [split]
  | cons c segment ih =>
    obtain ⟨letter, slashless⟩ : ¬ '/' = c ∧ '/' ∉ segment := by simpa using slashless
    rw [List.cons_append, split, if_neg (Ne.symm letter), ih slashless]

theorem split_of_slashless {segment : List Char} (slashless : '/' ∉ segment) : split segment = [segment] := by
  induction segment with
  | nil => simp [split]
  | cons c segment ih =>
    obtain ⟨letter, slashless⟩ : ¬ '/' = c ∧ '/' ∉ segment := by simpa using slashless
    rw [split, if_neg (Ne.symm letter), ih slashless]

theorem intercalate_split (text : List Char) : List.intercalate ['/'] (split text) = text := by
  induction text with
  | nil => simp [split]
  | cons c rest ih =>
    obtain ⟨first, others, parts⟩ := List.exists_cons_of_ne_nil (split_ne_nil rest)
    rw [parts] at ih
    rw [split, parts]
    split
    · next slash => rw [List.intercalate_cons_cons, ih, slash]; rfl
    · cases others with
      | nil => simpa using ih
      | cons second others =>
        rw [List.intercalate_cons_cons] at ih ⊢
        rw [← ih]; rfl

/-- Segments without slashes are read back from the text that they make. -/
theorem split_intercalate {segments : List (List Char)} (several : segments ≠ [])
    (slashless : ∀ segment ∈ segments, '/' ∉ segment) : split (List.intercalate ['/'] segments) = segments := by
  induction segments with
  | nil => exact absurd rfl several
  | cons first rest ih =>
    have here := slashless first (List.mem_cons_self ..)
    cases rest with
    | nil => simpa using split_of_slashless here
    | cons second others =>
      rw [List.intercalate_cons_cons, List.append_assoc, List.singleton_append, split_segment _ here,
        ih (by simp) fun segment later => slashless segment (List.mem_cons_of_mem _ later)]

theorem intercalate_concat {segments : List (List Char)} (several : segments ≠ []) (name : List Char) :
    List.intercalate ['/'] (segments ++ [name]) = List.intercalate ['/'] segments ++ '/' :: name := by
  induction segments with
  | nil => exact absurd rfl several
  | cons first rest ih =>
    cases rest with
    | nil => simp [List.intercalate_cons_cons]
    | cons second others =>
      rw [List.cons_append, List.cons_append, List.intercalate_cons_cons, ← List.cons_append, ih (by simp),
        List.intercalate_cons_cons]
      simp

/-- What the segments of a text say about its front: none before a slash is the root,
    and a dot alone is the current directory. -/
theorem ofChars_eq (text : List Char) :
    ofChars text =
      match split text with
      | [] :: second :: others => ⟨['/'], second :: others⟩
      | ['.'] :: rest => ⟨['.'], [] :: rest⟩
      | segments => ⟨[], segments⟩ := by
  unfold ofChars
  split
  · next rest =>
    obtain ⟨first, others, parts⟩ := List.exists_cons_of_ne_nil (split_ne_nil rest)
    simp [split, parts]
  · simp [split]
  · next rest =>
    obtain ⟨first, others, parts⟩ := List.exists_cons_of_ne_nil (split_ne_nil rest)
    simp [split, parts]
  · next rooted dot dotted =>
    have whole := intercalate_split text
    split
    · next second others parts =>
      rw [parts, List.intercalate_cons_cons] at whole
      exact absurd whole.symm (rooted _)
    · next rest parts =>
      rw [parts] at whole
      cases rest with
      | nil => exact absurd (by simpa using whole.symm) dot
      | cons second others =>
        rw [List.intercalate_cons_cons] at whole
        exact absurd whole.symm (dotted _)
    · rfl

/-- The segments can stand behind the front: the text of the path says both. -/
def Sound (path : Path) : Prop :=
  (∀ segment ∈ path.segments, '/' ∉ segment) ∧
    ∃ first rest, path.segments = first :: rest ∧
      (path.front = ['/'] ∨ path.front = ['.'] ∧ first = [] ∨
        path.front = [] ∧ first ≠ ['.'] ∧ (first = [] → rest = []))

theorem ofChars_sound (text : List Char) : (ofChars text).Sound := by
  have slashless (segment) (member : segment ∈ split text) : '/' ∉ segment := slash_not_mem_split member
  rw [ofChars_eq]
  split
  · next second others parts =>
    rw [parts] at slashless
    exact ⟨fun segment member => slashless segment (List.mem_cons_of_mem _ member), second, others, rfl, .inl rfl⟩
  · next rest parts =>
    rw [parts] at slashless
    refine ⟨fun segment member => ?_, [], rest, rfl, .inr (.inl ⟨rfl, rfl⟩)⟩
    rcases List.mem_cons.mp member with rfl | later
    · simp
    · exact slashless segment (List.mem_cons_of_mem _ later)
  · next rooted dotted =>
    obtain ⟨first, rest, parts⟩ := List.exists_cons_of_ne_nil (split_ne_nil text)
    refine ⟨slashless, first, rest, parts, .inr (.inr ⟨rfl, ?_, ?_⟩)⟩
    · rintro rfl
      exact dotted rest parts
    · rintro rfl
      cases rest with
      | nil => rfl
      | cons second others => exact absurd parts (rooted second others)

theorem ofChars_toChars {path : Path} (sound : path.Sound) : ofChars path.toChars = path := by
  obtain ⟨front, segments⟩ := path
  obtain ⟨slashless, first, rest, rfl, fits⟩ := sound
  have whole : split (List.intercalate ['/'] (first :: rest)) = first :: rest :=
    split_intercalate (by simp) slashless
  rw [ofChars_eq]
  rcases fits with rfl | ⟨rfl, rfl⟩ | ⟨rfl, single, empty⟩
  · have parts : split (toChars ⟨['/'], first :: rest⟩) = [] :: first :: rest := by simp [toChars, split, whole]
    rw [parts]
  · have parts : split (toChars ⟨['.'], [] :: rest⟩) = ['.'] :: rest := by simp [toChars, split, whole]
    rw [parts]; rfl
  · have parts : split (toChars ⟨[], first :: rest⟩) = first :: rest := whole
    rw [parts]
    split <;> simp_all

theorem trim_prefix (path : Path) : path.trim.segments <+: path.segments := List.rdropWhile_prefix _ _

@[simp] theorem trim_nil (front : List Char) : trim ⟨front, []⟩ = ⟨front, []⟩ := rfl

@[simp] theorem trim_concat (front : List Char) (init : List (List Char)) {name : List Char} (names : Names name) :
    trim ⟨front, init ++ [name]⟩ = ⟨front, init ++ [name]⟩ := by
  simp [trim, names]

/-- What stands last in a trimmed path is a name. -/
theorem names_of_trim {path : Path} {init : List (List Char)} {name : List Char}
    (ends : path.trim.segments = init ++ [name]) : Names name := by
  have reversed := congrArg List.reverse ends
  rw [trim, List.reverse_reverse, List.reverse_concat] at reversed
  have kept := List.head?_dropWhile_not (fun segment => decide ¬ Names segment) path.segments.reverse
  rw [reversed] at kept
  simpa using kept

/-- A trimmed path names nothing or ends in a name. -/
theorem trim_eq (path : Path) :
    path.trim = ⟨path.front, []⟩ ∨ ∃ init name, path.trim = ⟨path.front, init ++ [name]⟩ ∧ Names name := by
  rcases List.eq_nil_or_concat' path.trim.segments with empty | ⟨init, name, ends⟩
  · exact .inl (congrArg (Path.mk path.front) empty)
  · exact .inr ⟨init, name, congrArg (Path.mk path.front) ends, names_of_trim ends⟩

theorem fileName?_concat (front : List Char) (init : List (List Char)) {name : List Char} (names : Names name)
    (upwards : name ≠ ['.', '.']) : fileName? ⟨front, init ++ [name]⟩ = some name := by
  simp [fileName?, names, upwards]

theorem parent_concat (front : List Char) (init : List (List Char)) {name : List Char} (names : Names name) :
    parent ⟨front, init ++ [name]⟩ = trim ⟨front, init⟩ := by
  simp [parent, names]

/-- The file name stands last in the trimmed path. -/
theorem trim_of_fileName {path : Path} {name : List Char} (named : path.fileName? = some name) :
    (∃ init, path.trim.segments = init ++ [name]) ∧ Names name ∧ name ≠ ['.', '.'] := by
  unfold fileName? at named
  split at named
  · next last ends =>
    obtain ⟨init, ends⟩ := List.getLast?_eq_some_iff.mp ends
    split at named
    · cases named
    · next other =>
      obtain rfl := Option.some.inj named
      exact ⟨⟨init, ends⟩, names_of_trim ends, other⟩
  · cases named

/-- The path up to its file name, and the file name. -/
theorem fileName?_eq_some {path : Path} {name : List Char} (named : path.fileName? = some name) :
    ∃ init, init ++ [name] <+: path.segments ∧ Names name ∧ path.parent = trim ⟨path.front, init⟩ := by
  obtain ⟨⟨init, ends⟩, names, -⟩ := trim_of_fileName named
  refine ⟨init, ends ▸ trim_prefix path, names, ?_⟩
  rw [parent, ends, List.dropLast_concat]

/-- Behind a name, what is inside of it is one segment more. -/
theorem inside_toChars (front : List Char) (init : List (List Char)) {last : List Char} (names : Names last)
    (slashless : '/' ∉ last) (name : List Char) :
    inside (toChars ⟨front, init ++ [last]⟩) name = toChars ⟨front, init ++ [last] ++ [name]⟩ := by
  have behind : ∃ before, toChars ⟨front, init ++ [last]⟩ = before ++ last := by
    rcases eq_or_ne init [] with rfl | several
    · exact ⟨front, by simp [toChars]⟩
    · exact ⟨front ++ List.intercalate ['/'] init ++ ['/'], by simp [toChars, intercalate_concat several]⟩
  obtain ⟨before, whole⟩ := behind
  obtain ⟨start, c, rfl⟩ := List.eq_nil_or_concat' last |>.resolve_left names.1
  have letter : c ≠ '/' := by
    rintro rfl
    simp at slashless
  have ends : (toChars ⟨front, init ++ [start ++ [c]]⟩).getLast? = some c := by rw [whole]; simp
  have several : init ++ [start ++ [c]] ≠ [] := by simp
  rw [inside, ends]
  dsimp only
  rw [if_neg letter, toChars, toChars, List.append_assoc, intercalate_concat several]

/-- The segments before some other one can be followed by a name instead. -/
theorem Sound.followed {path : Path} (sound : path.Sound) {init : List (List Char)} {name : List Char}
    (start : init <+: path.segments) (shorter : init.length < path.segments.length) (several : init ≠ [])
    (slashless : '/' ∉ name) : Sound ⟨path.front, init ++ [name]⟩ := by
  obtain ⟨slashes, first, rest, starts, fits⟩ := sound
  obtain ⟨head, more, rfl⟩ := List.exists_cons_of_ne_nil several
  obtain ⟨tail, whole⟩ := start
  rw [starts, List.cons_append, List.cons.injEq] at whole
  obtain ⟨rfl, whole⟩ := whole
  have nonempty : rest ≠ [] := by
    rintro rfl
    simp [starts] at shorter
  refine ⟨?_, head, more ++ [name], rfl, ?_⟩
  · intro segment member
    rcases List.mem_append.mp member with before | last
    · exact slashes segment (by rw [starts, ← whole, ← List.cons_append]; exact List.mem_append_left _ before)
    · rwa [List.mem_singleton.mp last]
  · rcases fits with root | ⟨dot, empty⟩ | ⟨none, single, empty⟩
    · exact .inl root
    · exact .inr (.inl ⟨dot, empty⟩)
    · exact .inr (.inr ⟨none, single, fun blank => absurd (empty blank) nonempty⟩)

/-- Another file name stands in the same directory. -/
theorem ofChars_withFileName (text : List Char) {name new : List Char}
    (named : (ofChars text).fileName? = some name) (names : Names new) (slashless : '/' ∉ new) :
    ∃ init, ofChars ((ofChars text).withFileName new) = ⟨(ofChars text).front, init ++ [new]⟩ ∧
      trim ⟨(ofChars text).front, init⟩ = (ofChars text).parent := by
  obtain ⟨before, within, proper, parent⟩ := fileName?_eq_some named
  have sound := ofChars_sound text
  rw [withFileName, named]
  dsimp only
  rw [parent]
  rcases trim_eq ⟨(ofChars text).front, before⟩ with empty | ⟨init, last, ends, kept⟩
  · rw [empty]
    -- Only the dot of the current directory leaves an empty segment before the name.
    obtain ⟨-, first, rest, -, root | ⟨dot, -⟩ | ⟨none, -, -⟩⟩ := sound
    · have read : ofChars (toChars ⟨['/'], [new]⟩) = ⟨['/'], [new]⟩ :=
        ofChars_toChars ⟨by simpa using slashless, new, [], rfl, .inl rfl⟩
      exact ⟨[], by simpa [root, toChars, inside] using read, rfl⟩
    · have read : ofChars (toChars ⟨['.'], [[], new]⟩) = ⟨['.'], [[], new]⟩ :=
        ofChars_toChars ⟨by simpa using slashless, [], [new], rfl, .inr (.inl ⟨rfl, rfl⟩)⟩
      exact ⟨[[]], by simpa [dot, toChars, inside] using read, by simp [trim, Names]⟩
    · have read : ofChars (toChars ⟨[], [new]⟩) = ⟨[], [new]⟩ :=
        ofChars_toChars ⟨by simpa using slashless, new, [], rfl, .inr (.inr ⟨rfl, names.2, fun _ => rfl⟩)⟩
      exact ⟨[], by simpa [none, toChars, inside] using read, rfl⟩
  · have prefixed : init ++ [last] <+: before := by
      simpa [ends] using trim_prefix ⟨(ofChars text).front, before⟩
    have start : init ++ [last] <+: (ofChars text).segments :=
      prefixed.trans ((List.prefix_append before [name]).trans within)
    have shorter : (init ++ [last]).length < (ofChars text).segments.length :=
      prefixed.length_le.trans_lt (Nat.lt_of_succ_le (by simpa using within.length_le))
    have lastSlashless : '/' ∉ last := sound.1 last (start.subset (by simp))
    refine ⟨init ++ [last], ?_, ?_⟩
    · rw [ends, inside_toChars _ _ kept lastSlashless]
      exact ofChars_toChars (sound.followed start shorter (by simp) slashless)
    · rw [trim_concat _ _ kept, ends]

/-- Another name takes the place of the file name. -/
theorem Sound.renamed {path : Path} (sound : path.Sound) {init : List (List Char)} {name new : List Char}
    (ends : path.trim.segments = init ++ [name]) (names : Names new) (slashless : '/' ∉ new) :
    Sound ⟨path.front, init ++ [new]⟩ := by
  have within : init ++ [name] <+: path.segments := ends ▸ trim_prefix path
  rcases eq_or_ne init [] with rfl | several
  · have proper := names_of_trim ends
    obtain ⟨-, first, rest, starts, fits⟩ := sound
    obtain ⟨tail, whole⟩ := within
    rw [starts, List.nil_append, List.singleton_append, List.cons.injEq] at whole
    obtain ⟨rfl, -⟩ := whole
    refine ⟨by simpa using slashless, new, [], rfl, ?_⟩
    rcases fits with root | ⟨-, empty⟩ | ⟨none, -⟩
    · exact .inl root
    · exact absurd empty proper.1
    · exact .inr (.inr ⟨none, names.2, fun empty => absurd empty names.1⟩)
  · have shorter := within.length_le
    rw [List.length_append, List.length_singleton] at shorter
    exact sound.followed ((List.prefix_append init [name]).trans within) shorter several slashless

theorem splitName_subset (name : List Char) :
    (splitName name).1 ⊆ name ∧ ∀ extension ∈ (splitName name).2, extension ⊆ name := by
  unfold splitName
  dsimp only
  split
  · refine ⟨List.take_subset _ _, ?_⟩
    rintro extension ⟨⟩ c member
    have reversed := (List.takeWhile_subset _) (List.mem_reverse.mp member)
    exact List.mem_reverse.mp reversed
  · simp

/-- An extension has no dot in it. -/
theorem splitName_dot {stem extension : List Char} (some : stem ≠ []) (dotless : '.' ∉ extension) :
    splitName (stem ++ '.' :: extension) = (stem, .some extension) := by
  have last : ((stem ++ '.' :: extension).reverse.takeWhile (· ≠ '.')).reverse = extension := by
    have letters : ∀ c ∈ extension.reverse, decide (c ≠ '.') = true := by
      intro c member
      exact decide_eq_true fun dot => dotless (dot ▸ List.mem_reverse.mp member)
    rw [List.reverse_append, List.reverse_cons, List.append_assoc, List.takeWhile_append_of_pos letters]
    simp
  have front : (stem ++ '.' :: extension).take ((stem ++ '.' :: extension).length - extension.length - 1) = stem := by
    rw [List.length_append, List.length_cons, show stem.length + (extension.length + 1) - extension.length - 1 =
      stem.length by omega, List.take_left]
  unfold splitName
  simp only [last, front]
  rw [if_pos]
  exact ⟨by rw [List.length_append, List.length_cons]; omega, some⟩

theorem stem_ne_nil {name : List Char} (some : name ≠ []) : (splitName name).1 ≠ [] := by
  unfold splitName
  dsimp only
  split
  · next proper => exact proper.2
  · exact some

/-- A path with another extension ends in the name with that extension. -/
theorem ofChars_withExtension (text : List Char) {name extension : List Char}
    (named : (ofChars text).fileName? = some name) (slashless : '/' ∉ extension) (long : 2 ≤ extension.length) :
    let new := (splitName name).1 ++ '.' :: extension
    (∃ init, ofChars ((ofChars text).withExtension extension).toChars = ⟨(ofChars text).front, init ++ [new]⟩) ∧
      Names new ∧ new ≠ ['.', '.'] := by
  intro new
  obtain ⟨⟨init, ends⟩, proper, -⟩ := trim_of_fileName named
  have size : 2 < new.length := by
    simp only [new, List.length_append, List.length_cons]
    omega
  have names : Names new := ⟨by rintro none; simp [none] at size, by intro dot; simp [dot] at size⟩
  have slashes : '/' ∉ name :=
    (ofChars_sound text).1 name ((ends ▸ trim_prefix (ofChars text)).subset (by simp))
  have clean : '/' ∉ new := by
    simp only [new, List.mem_append, List.mem_cons, not_or]
    exact ⟨fun member => slashes ((splitName_subset name).1 member), by decide, slashless⟩
  refine ⟨⟨init, ?_⟩, names, by intro upwards; simp [upwards] at size⟩
  rw [withExtension, named]
  dsimp only
  rw [ends, List.dropLast_concat]
  exact ofChars_toChars ((ofChars_sound text).renamed ends names clean)

/-! ### The names of seeds -/

/-- The digits of a seed tell it from the others. -/
theorem seedName_injective (name : Option (List Char)) : Function.Injective (seedName name) := by
  intro s t same
  unfold seedName at same
  have digits : Nat.toDigits 10 s.toNat = Nat.toDigits 10 t.toNat := by
    dsimp only at same
    split at same <;> simpa using same
  have read := congrArg (Nat.ofDigitChars 10 · 0) digits
  exact UInt64.toNat_inj.mp (by simpa [Nat.ofDigitChars_toDigits] using read)

theorem inside_injective (directory : List Char) : Function.Injective (inside directory) := by
  intro left right same
  unfold inside at same
  split at same
  · exact same
  · split at same <;> simpa using same

theorem forSeed_injective (path : Path) : Function.Injective path.forSeed := by
  intro s t same
  unfold forSeed withFileName at same
  split at same <;> exact seedName_injective _ (inside_injective _ same)

theorem slash_not_mem_seedName {name : List Char} (slashless : '/' ∉ name) (seed : UInt64) :
    '/' ∉ seedName (some name) seed := by
  obtain ⟨stem, extension⟩ := splitName_subset name
  have digits : '/' ∉ (toString seed.toNat).toList := by
    intro member
    have digit : '/' ∈ Nat.toDigits 10 seed.toNat := by simpa using member
    exact absurd (Nat.isDigit_of_mem_toDigits (by decide) (by decide) digit) (by decide)
  have outside : '/' ∉ (splitName name).1 := fun member => slashless (stem member)
  have dotted : ∀ extension ∈ (splitName name).2, '/' ∉ extension :=
    fun whole some member => slashless (extension whole some member)
  unfold seedName
  dsimp only
  split
  · next whole some => simp_all
  · simp_all

/-- The name of a table of a seed is no dot and no step upwards. -/
theorem names_seedName (name : Option (List Char)) (seed : UInt64) :
    Names (seedName name seed) ∧ seedName name seed ≠ ['.', '.'] := by
  have marked : '_' ∈ seedName name seed := by
    unfold seedName
    dsimp only
    split <;> simp
  refine ⟨⟨?_, ?_⟩, ?_⟩
  all_goals
    intro plain
    simp [plain] at marked

/-- The table of a seed has the directory and the front of the given path. -/
theorem ofChars_forSeed (text : List Char) {name : List Char} (named : (ofChars text).fileName? = some name)
    (seed : UInt64) :
    ∃ init, ofChars ((ofChars text).forSeed seed) = ⟨(ofChars text).front, init ++ [seedName (some name) seed]⟩ ∧
      trim ⟨(ofChars text).front, init⟩ = (ofChars text).parent := by
  have slashless : '/' ∉ name := by
    obtain ⟨init, within, -⟩ := fileName?_eq_some named
    exact (ofChars_sound text).1 name (within.subset (by simp))
  rw [forSeed, named]
  exact ofChars_withFileName text named (names_seedName _ seed).1 (slash_not_mem_seedName slashless seed)

/-- The table of a seed is a file beside the given one. -/
theorem forSeed_beside (text : List Char) {name : List Char} (named : (ofChars text).fileName? = some name)
    (seed : UInt64) :
    (ofChars ((ofChars text).forSeed seed)).parent = (ofChars text).parent ∧
      (ofChars ((ofChars text).forSeed seed)).fileName? = some (seedName (some name) seed) := by
  obtain ⟨init, whole, parent⟩ := ofChars_forSeed text named seed
  obtain ⟨names, upwards⟩ := names_seedName (some name) seed
  rw [whole, parent_concat _ _ names, parent, fileName?_concat _ _ names upwards]
  exact ⟨rfl, rfl⟩

end Stablecoin.Path
