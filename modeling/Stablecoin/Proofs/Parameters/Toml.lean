import Stablecoin.Parameters.File
import Stablecoin.Proofs.Disk
import Stablecoin.Proofs.Toml.Document

namespace Stablecoin

variable {p : Parameters Float}

namespace Slot

/-- The number in the place, if a number stands there. -/
def real? (p : Parameters Float) : Slot → Option Float
  | .real get _ => some (get p)
  | .word _ _ => none

/-- The word in the place, if a word stands there. -/
def word? (p : Parameters Float) : Slot → Option ℕ
  | .real _ _ => none
  | .word get _ => some (get p)

/-- What stands in the place, in TOML. -/
def toml (p : Parameters Float) : Slot → Toml
  | .real get _ => .float (get p)
  | .word get _ => .integer (get p)

/-- How it is written. -/
def text (p : Parameters Float) : Slot → String
  | .real get _ => tomlNumbers.render (get p)
  | .word get _ => toString (get p)

/-- The second bundle with the scalar of the first. -/
def copy (p q : Parameters Float) : Slot → Parameters Float
  | .real get set => set (get p) q
  | .word get set => set (get p) q

/-- The format has a place for the scalar. -/
structure Fits (p : Parameters Float) (slot : Slot) : Prop where
  real : ∀ x ∈ slot.real? p, x.isFinite = true
  word : ∀ n ∈ slot.word? p, n < 2 ^ 63

theorem lt_iff_le_maxValue (n : ℕ) : n < 2 ^ 63 ↔ (n : ℤ) ≤ Int64.maxValue.toInt := by
  rw [show Int64.maxValue.toInt = 2 ^ 63 - 1 by decide]
  omega

theorem spells {slot : Slot} (fits : slot.Fits p) : Toml.Spells (slot.text p).toList (slot.toml p) := by
  cases slot with
  | real get set => exact Toml.spells_float rfl rfl (fits.real _ rfl)
  | word get set => exact Toml.spells_integer ((lt_iff_le_maxValue _).mp (fits.word _ rfl))

end Slot

namespace Parameters

/-- All scalars. -/
def fields : List Field := rootFields ++ groups.flatMap (·.fields)

/-- The numbers of a bundle. -/
def reals (p : Parameters Float) : List Float := fields.filterMap (·.slot.real? p)

/-- The words of a bundle. -/
def words (p : Parameters Float) : List ℕ :=
  [p.periods, p.seed.toNat, p.accounts, p.terms.maxLiquidationsPerCall, p.borrowing.closeWarmupPeriods,
    p.stability.returnWindow, p.reward.warmupPeriods]

theorem words_eq (p : Parameters Float) : p.words = fields.filterMap (·.slot.word? p) := rfl

theorem forall_mem_fields {good : Field → Prop} :
    (∀ field ∈ fields, good field) ↔
      (∀ field ∈ rootFields, good field) ∧ ∀ group ∈ groups, ∀ field ∈ group.fields, good field := by
  simp only [fields, List.forall_mem_append, List.forall_mem_flatMap]

theorem forall_mem_words {good : ℕ → Prop} :
    (∀ n ∈ p.words, good n) ↔ ∀ field ∈ fields, ∀ n ∈ field.slot.word? p, good n := by
  simp only [words_eq, List.mem_filterMap]
  exact ⟨fun all field member n held => all n ⟨field, member, held⟩,
    fun all n ⟨field, member, held⟩ => all field member n held⟩

theorem fits_of_all (finite : ∀ x ∈ p.reals, x.isFinite = true) (small : ∀ n ∈ p.words, n < 2 ^ 63) :
    ∀ field ∈ fields, field.slot.Fits p := fun field member =>
  ⟨fun x held => finite x (List.mem_filterMap.mpr ⟨field, member, held⟩), forall_mem_words.mp small field member⟩

/-- The line of a scalar that has a place in the format. -/
def lineText (p : Parameters Float) (field : Field) : String := field.key ++ " = " ++ field.slot.text p ++ "\n"

def sectionText (p : Parameters Float) (group : Group) : String :=
  "\n[" ++ group.key ++ "]\n" ++ String.join (group.fields.map p.lineText)

/-- The text of a bundle in which every word has a place. -/
def document (p : Parameters Float) : String := String.join (rootFields.map p.lineText ++ groups.map p.sectionText)

theorem mapM_eq_ok {ε β γ : Type} {f : β → Except ε γ} {g : β → γ} {good : β → Prop}
    (each : ∀ {x y}, f x = .ok y ↔ good x ∧ y = g x) {xs : List β} {ys : List γ} :
    xs.mapM f = .ok ys ↔ (∀ x ∈ xs, good x) ∧ ys = xs.map g := by
  induction xs generalizing ys with
  | nil => simp [pure, Except.pure, eq_comm]
  | cons x xs ih =>
    rw [List.mapM_cons, bind_eq_ok]
    simp only [bind_eq_ok, each, ih, List.forall_mem_cons, List.map_cons, pure, Except.pure, Except.ok.injEq]
    constructor
    · rintro ⟨_, ⟨first, rfl⟩, _, ⟨rest, rfl⟩, rfl⟩
      exact ⟨⟨first, rest⟩, rfl⟩
    · rintro ⟨⟨first, rest⟩, rfl⟩
      exact ⟨_, ⟨first, rfl⟩, _, ⟨rest, rfl⟩, rfl⟩

theorem tomlLine_eq_ok {field : Field} {text : String} :
    p.tomlLine field = .ok text ↔ (∀ n ∈ field.slot.word? p, n < 2 ^ 63) ∧ text = p.lineText field := by
  unfold tomlLine lineText
  obtain ⟨key, ⟨get, set⟩ | ⟨get, set⟩⟩ := field
  · simpa [Slot.word?, Slot.text, pure, Except.pure] using eq_comm
  · simp only [Slot.word?, Slot.text, ← Slot.lt_iff_le_maxValue]
    split
    · next small =>
      rw [and_iff_right (by simpa using small)]
      simp [pure, Except.pure, eq_comm]
    · next large =>
      refine iff_of_false (by rintro ⟨⟩) fun good => large (good.1 _ rfl)

/-- The bundle can be written exactly if every word has a place in the format. -/
theorem toToml_eq_ok {text : String} :
    p.toToml = .ok text ↔ (∀ n ∈ p.words, n < 2 ^ 63) ∧ text = p.document := by
  have sections {group : Group} {text : String} :
      (do return "\n[" ++ group.key ++ "]\n" ++ String.join (← group.fields.mapM p.tomlLine)) = Except.ok text ↔
        (∀ field ∈ group.fields, ∀ n ∈ field.slot.word? p, n < 2 ^ 63) ∧ text = p.sectionText group := by
    simp only [bind_eq_ok, mapM_eq_ok tomlLine_eq_ok, pure, Except.pure, Except.ok.injEq]
    constructor
    · rintro ⟨_, ⟨small, rfl⟩, rfl⟩
      exact ⟨small, rfl⟩
    · rintro ⟨small, rfl⟩
      exact ⟨_, ⟨small, rfl⟩, rfl⟩
  rw [toToml, forall_mem_words, forall_mem_fields]
  simp only [bind_eq_ok, mapM_eq_ok tomlLine_eq_ok, mapM_eq_ok sections]
  constructor
  · rintro ⟨_, ⟨root, rfl⟩, _, ⟨parts, rfl⟩, ⟨⟩⟩
    exact ⟨⟨root, parts⟩, rfl⟩
  · rintro ⟨⟨root, parts⟩, rfl⟩
    exact ⟨_, ⟨root, rfl⟩, _, ⟨parts, rfl⟩, rfl⟩

/-- The format has no place for a word of 64 bits that fills the highest one. -/
theorem toToml_eq_error (large : ¬ ∀ n ∈ p.words, n < 2 ^ 63) : p.toToml = .error .outOfRange := by
  cases written : p.toToml with
  | error fault => cases fault; rfl
  | ok text => exact absurd (toToml_eq_ok.mp written).1 large

/-- The line of a scalar with what it spells. -/
def lineOf (p : Parameters Float) (field : Field) : Toml.Line :=
  ⟨field.key.toList, (field.slot.text p).toList, field.slot.toml p⟩

/-- The section of a group of scalars with what it holds. -/
def sectionOf (p : Parameters Float) (group : Group) : Toml.Section :=
  ⟨group.key.toList, group.fields.map p.lineOf⟩

theorem toList_lineText (field : Field) : (p.lineText field).toList = (p.lineOf field).chars := by
  simp [lineText, lineOf, Toml.Line.chars]

theorem toList_sectionText (group : Group) : (p.sectionText group).toList = (p.sectionOf group).chars := by
  simp [sectionText, sectionOf, Toml.Section.chars, List.flatMap_map, toList_lineText]

theorem toList_document : p.document.toList =
    (rootFields.map p.lineOf).flatMap Toml.Line.chars ++ (groups.map p.sectionOf).flatMap Toml.Section.chars := by
  simp [document, List.flatMap_map, toList_lineText, toList_sectionText]

theorem keys_bare : ∀ key ∈ fields.map (·.key.toList) ++ groups.map (·.key.toList), Toml.Bare key := by
  decide +kernel

theorem keys_distinct : (rootFields.map (·.key.toList) ++ groups.map (·.key.toList)).Nodup := by
  decide +kernel

theorem group_keys_distinct : ∀ keys ∈ groups.map fun group => group.fields.map (·.key.toList), keys.Nodup := by
  decide +kernel

theorem keys_lineOf (fields : List Field) :
    (fields.map p.lineOf).map Toml.Line.key = fields.map (·.key.toList) := by
  rw [List.map_map]
  rfl

theorem lineOf_sound (fits : ∀ field ∈ fields, field.slot.Fits p) : ∀ field ∈ fields, (p.lineOf field).Sound :=
  fun field member =>
    ⟨keys_bare _ (List.mem_append_left _ (List.mem_map_of_mem member)), Slot.spells (fits field member)⟩

/-- The text of a bundle holds every scalar under its name. -/
theorem ofText_document (fits : ∀ field ∈ fields, field.slot.Fits p) :
    Toml.ofText? p.document =
      some ((rootFields.map p.lineOf).map Toml.Line.member ++ (groups.map p.sectionOf).map Toml.Section.member) := by
  have sound := forall_mem_fields.mp (lineOf_sound fits)
  have sections : ∀ group ∈ groups, (p.sectionOf group).Sound := fun group member =>
    ⟨keys_bare _ (List.mem_append_right _ (List.mem_map_of_mem member)), List.forall_mem_map.mpr (sound.2 group member),
      by
        rw [sectionOf, keys_lineOf]
        exact group_keys_distinct _ (List.mem_map_of_mem member)⟩
  refine Toml.ofText_sections (List.forall_mem_map.mpr sound.1) (List.forall_mem_map.mpr sections) ?_ toList_document
  rw [keys_lineOf, List.map_map]
  exact keys_distinct

/-- A key of its own finds its value. -/
theorem lookup_of_mem {members : Toml.Members} (distinct : (members.map Prod.fst).Nodup) {key : List Char}
    {value : Toml} (member : (key, value) ∈ members) : members.lookup key = some value := by
  obtain ⟨front, back, rfl⟩ := List.append_of_mem member
  rw [List.map_append, List.map_cons, List.nodup_append] at distinct
  refine List.lookup_eq_some_iff.mpr ⟨front, back, rfl, fun other earlier => bne_iff_ne.mpr fun same => ?_⟩
  exact distinct.2.2 _ (List.mem_map_of_mem earlier) _ List.mem_cons_self same.symm

theorem readTomlScalar_eq (field : Field) (q : Parameters Float) :
    readTomlScalar? field (field.slot.toml p) q = some (field.slot.copy p q) := by
  obtain ⟨key, ⟨get, set⟩ | ⟨get, set⟩⟩ := field <;> simp [readTomlScalar?, Slot.toml, Slot.copy]

theorem foldlM_eq_some {β γ : Type} {f : γ → β → Option γ} {g : γ → β → γ} {xs : List β}
    (each : ∀ x ∈ xs, ∀ y, f y x = some (g y x)) (y : γ) : xs.foldlM f y = some (xs.foldl g y) := by
  induction xs generalizing y with
  | nil => rfl
  | cons x xs ih =>
    rw [List.foldlM_cons, each x List.mem_cons_self, List.foldl_cons]
    exact ih (fun z member => each z (List.mem_cons_of_mem x member)) _

/-- The second bundle with the scalars of the first. -/
def copyFields (p q : Parameters Float) (fields : List Field) : Parameters Float :=
  fields.foldl (fun q field => field.slot.copy p q) q

theorem readTomlMembers_eq {fields : List Field} {members : Toml.Members}
    (held : ∀ field ∈ fields, members.lookup field.key.toList = some (field.slot.toml p)) (q : Parameters Float) :
    readTomlMembers? fields members q = some (copyFields p q fields) :=
  foldlM_eq_some (fun field member q => by rw [held field member]; exact readTomlScalar_eq field q) q

theorem copyFields_all (p q : Parameters Float) :
    groups.foldl (fun q group => copyFields p q group.fields) (copyFields p q rootFields) = p := by
  -- Every field of a bundle is the place of some scalar, so that nothing of `q` is left.
  have seed : p.seed.toNat.toUInt64 = p.seed := UInt64.ofNat_toNat
  simp only [copyFields, groups, rootFields, termsFields, bootstrapFields, collateralFields, borrowingFields,
    stabilityFields, liquidityFields, rewardFields, List.foldl_cons, List.foldl_nil, Slot.copy, seed]

theorem readTomlGroup_eq {group : Group} (member : group ∈ groups) (q : Parameters Float) :
    readTomlGroup? group (p.sectionOf group).member.2 q = some (copyFields p q group.fields) := by
  have keys : (((group.fields.map p.lineOf).map Toml.Line.member).map Prod.fst).Nodup := by
    rw [List.map_map, List.map_map]
    exact group_keys_distinct _ (List.mem_map_of_mem member)
  exact readTomlMembers_eq (fun field inside =>
    lookup_of_mem keys (List.mem_map_of_mem (List.mem_map_of_mem inside))) q

/-- Members that hold every scalar of a bundle describe the bundle. -/
theorem ofToml_of_lookup {members : Toml.Members}
    (root : ∀ field ∈ rootFields, members.lookup field.key.toList = some (field.slot.toml p))
    (sections : ∀ group ∈ groups, members.lookup group.key.toList = some (p.sectionOf group).member.2) :
    ofToml? members = some p := by
  rw [ofToml?, readTomlMembers_eq root, Option.bind_eq_bind, Option.bind_some,
    foldlM_eq_some fun group member q => by rw [sections group member]; exact readTomlGroup_eq member q,
    copyFields_all]

/-- A bundle of finite numbers in which every word has a place reads back to itself. -/
theorem ofToml_document (fits : ∀ field ∈ fields, field.slot.Fits p) :
    (Toml.ofText? p.document >>= ofToml?) = some p := by
  have distinct : (((rootFields.map p.lineOf).map Toml.Line.member ++
      (groups.map p.sectionOf).map Toml.Section.member).map Prod.fst).Nodup := by
    rw [List.map_append, List.map_map, List.map_map, List.map_map, List.map_map]
    exact keys_distinct
  rw [ofText_document fits, Option.bind_eq_bind, Option.bind_some]
  exact ofToml_of_lookup
    (fun field member => lookup_of_mem distinct
      (List.mem_append_left _ (List.mem_map_of_mem (List.mem_map_of_mem member))))
    (fun group member => lookup_of_mem distinct
      (List.mem_append_right _ (List.mem_map_of_mem (List.mem_map_of_mem member))))

theorem fromUTF8_toUTF8 (text : String) : String.fromUTF8? text.toUTF8 = some text := by
  simpa [String.fromUTF8?] using ⟨text.isValidUTF8, rfl⟩

/-- Its file is read back as what it was written from. -/
theorem ofFile_document (fits : ∀ field ∈ fields, field.slot.Fits p) (valid : p.validate = .ok ()) {path : Path}
    (other : path.extension? ≠ some "json".toList) : ofFile path p.document.toUTF8 = .ok p := by
  simp only [ofFile, fromUTF8_toUTF8, ofText, if_neg other, ofToml_document fits, pure_bind, valid]
  rfl

end Parameters
end Stablecoin
