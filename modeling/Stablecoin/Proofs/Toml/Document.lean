import Stablecoin.Proofs.Toml.Scalar

namespace Stablecoin.Toml

theorem afterSpace_cons {c : Char} (visible : isSpace c = false) (rest : List Char) :
    afterSpace (c :: rest) = c :: rest := by
  simp [afterSpace, visible]

theorem afterLine_newline (rest : List Char) : afterLine? ('\n' :: rest) = some rest := rfl

/-- A key that is written without quotes. -/
def Bare (key : List Char) : Prop := key ≠ [] ∧ key.all isBare = true

instance (key : List Char) : Decidable (Bare key) := inferInstanceAs (Decidable (_ ∧ _))

theorem Bare.all {key : List Char} (bare : Bare key) : ∀ c ∈ key, isBare c = true := List.all_eq_true.mp bare.2

theorem Bare.cons {key : List Char} (bare : Bare key) : ∃ c more, key = c :: more ∧ isBare c = true := by
  obtain ⟨c, more, rfl⟩ := List.exists_cons_of_ne_nil bare.1
  exact ⟨c, more, rfl, bare.all c List.mem_cons_self⟩

/-- A bare key ends at the first character that may not stand in it. -/
theorem Bare.read {key : List Char} (bare : Bare key) {stop : Char} (ends : isBare stop = false) (rest : List Char) :
    simpleKey? (key ++ stop :: rest) = some (key, stop :: rest) := by
  have split : (key ++ stop :: rest).span isBare = (key, stop :: rest) := by
    rw [List.span_eq_takeWhile_dropWhile, List.takeWhile_append_of_pos bare.all, List.dropWhile_append_of_pos bare.all]
    simp [ends]
  obtain ⟨c, more, rfl, first⟩ := bare.cons
  rw [List.cons_append] at split ⊢
  rw [simpleKey?, split]
  · rfl
  all_goals
    rintro _ ⟨⟩
    cases first

theorem isSpace_of_isBare {c : Char} (bare : isBare c = true) : isSpace c = false := by
  simp only [isSpace, Bool.or_eq_false_iff, decide_eq_false_iff_not]
  constructor <;> rintro rfl <;> cases bare

/-- A key of one part, and what follows it behind blanks. -/
theorem Bare.key {key : List Char} (bare : Bare key) {stop c : Char} (ends : isBare stop = false)
    {rest more : List Char} (next : afterSpace (stop :: rest) = c :: more) (last : c ≠ '.') :
    key? longestKey (key ++ stop :: rest) = some ([key], c :: more) := by
  have front : afterSpace (key ++ stop :: rest) = key ++ stop :: rest := by
    obtain ⟨first, others, rfl, member⟩ := bare.cons
    exact afterSpace_cons (isSpace_of_isBare member) _
  rw [longestKey, key?, front, bare.read ends]
  simp [next, last]

/-- A key with its value, and how the value is written. -/
structure Line where
  key : List Char
  text : List Char
  value : Toml

namespace Line

def chars (line : Line) : List Char := line.key ++ " = ".toList ++ line.text ++ ['\n']

/-- What the line adds to its table. -/
def member (line : Line) : List Char × Toml := (line.key, line.value)

structure Sound (line : Line) : Prop where
  bare : Bare line.key
  spells : Spells line.text line.value

theorem chars_append (line : Line) (rest : List Char) :
    line.chars ++ rest = line.key ++ ' ' :: '=' :: ' ' :: (line.text ++ '\n' :: rest) := by
  simp [chars]

end Line

namespace Draft

theorem line_pair (draft : Draft) {line : Line} (sound : line.Sound) (rest : List Char) :
    draft.line? (line.chars ++ rest) = (draft.add? [line.key] line.value).map (·, rest) := by
  have key : key? longestKey (line.key ++ ' ' :: '=' :: ' ' :: (line.text ++ '\n' :: rest)) =
      some ([line.key], '=' :: ' ' :: (line.text ++ '\n' :: rest)) := sound.bare.key rfl rfl (by decide)
  have value : value? deepest (afterSpace (' ' :: (line.text ++ '\n' :: rest))) = some (line.value, '\n' :: rest) :=
    sound.spells rest
  have pair : pair? (value? deepest) (line.chars ++ rest) = some (([line.key], line.value), '\n' :: rest) := by
    rw [line.chars_append, pair?, key]
    simp [value]
  obtain ⟨c, more, first, member⟩ := sound.bare.cons
  rw [line.chars_append, first] at pair ⊢
  rw [List.cons_append, line?, ← List.cons_append, pair]
  · simp [afterLine_newline, Option.map_eq_bind]
  all_goals
    intro _ header
    obtain ⟨rfl, -⟩ := List.cons_eq_cons.mp header
    cases member

theorem line_header (draft : Draft) {name : List Char} (bare : Bare name) (rest : List Char) :
    draft.line? ('[' :: (name ++ ']' :: '\n' :: rest)) = (draft.head? openTable [name]).map (·, rest) := by
  have key : key? longestKey (name ++ ']' :: '\n' :: rest) = some ([name], ']' :: '\n' :: rest) :=
    bare.key rfl rfl (by decide)
  obtain ⟨c, more, rfl, member⟩ := bare.cons
  rw [line?, key]
  · simp [afterLine_newline, Option.map_eq_bind]
  · rintro _ ⟨⟩
    cases member

/-- The piece of text takes one draft to the other, whatever follows it, and no more
    lines are counted than it has characters. -/
def Writes (draft : Draft) (text : List Char) (next : Draft) : Prop :=
  ∃ count ≤ text.length, ∀ more rest, lines? (count + more) draft (text ++ rest) = lines? more next rest

theorem Writes.nil (draft : Draft) : Writes draft [] draft :=
  ⟨0, Nat.le_refl 0, fun more rest => by rw [Nat.zero_add, List.nil_append]⟩

theorem Writes.append {draft middle next : Draft} {front back : List Char} (first : Writes draft front middle)
    (second : Writes middle back next) : Writes draft (front ++ back) next := by
  obtain ⟨n, short, first⟩ := first
  obtain ⟨m, short', second⟩ := second
  refine ⟨n + m, by rw [List.length_append]; omega, fun more rest => ?_⟩
  rw [Nat.add_assoc, List.append_assoc, first, second]

theorem lines_nil (count : ℕ) (draft : Draft) : lines? count draft [] = some draft := by
  cases count <;> rfl

/-- An empty line adds nothing. -/
theorem writes_newline (draft : Draft) : Writes draft ['\n'] draft := by
  refine ⟨1, le_rfl, fun more rest => ?_⟩
  rw [Nat.add_comm, List.cons_append, List.nil_append, lines?, afterLine_newline]
  cases rest with
  | nil => exact (lines_nil more draft).symm
  | cons c rest => rfl

/-- A line with something in it. -/
theorem writes_line {draft next : Draft} {c : Char} {text : List Char}
    (begins : isBare c = true ∨ c = '[')
    (read : ∀ rest, draft.line? (c :: text ++ rest) = some (next, rest)) : Writes draft (c :: text) next := by
  refine ⟨1, by simp, fun more rest => ?_⟩
  have space : isSpace c = false := by
    rcases begins with bare | rfl
    · exact isSpace_of_isBare bare
    · rfl
  have filled : afterLine? (c :: text ++ rest) = none := by
    have others : c ≠ '#' ∧ c ≠ '\n' ∧ c ≠ '\r' := by
      rcases begins with bare | rfl
      · refine ⟨?_, ?_, ?_⟩ <;> rintro rfl <;> cases bare
      · decide
    simp [afterLine?, afterSpace_cons space, afterLineEnd?, others]
  rw [Nat.add_comm, lines?, filled, List.cons_append, afterSpace_cons space, ← List.cons_append, read]
  rfl

theorem writes_pair {draft next : Draft} {line : Line} (sound : line.Sound)
    (added : draft.add? [line.key] line.value = some next) : Writes draft line.chars next := by
  have read : ∀ rest, draft.line? (line.chars ++ rest) = some (next, rest) := fun rest => by
    rw [draft.line_pair sound, added]
    rfl
  obtain ⟨c, more, first, member⟩ := sound.bare.cons
  have begins : line.chars = c :: (more ++ " = ".toList ++ line.text ++ ['\n']) := by
    rw [Line.chars, first]
    rfl
  rw [begins] at read ⊢
  exact writes_line (.inl member) read

theorem writes_header {draft next : Draft} {name : List Char} (bare : Bare name)
    (opened : draft.head? openTable [name] = some next) :
    Writes draft ('[' :: (name ++ [']', '\n'])) next := by
  refine writes_line (.inr rfl) fun rest => ?_
  have read := draft.line_header bare rest
  rw [opened] at read
  simpa using read

end Draft

theorem lookup_none {key : List Char} {members : Members} (absent : key ∉ members.map Prod.fst) :
    members.lookup key = none := by
  rw [List.lookup_eq_none_iff]
  intro member inside
  exact bne_iff_ne.mpr fun same => absent (List.mem_map.mpr ⟨member, inside, same.symm⟩)

theorem put_last {key : List Char} {members : Members} (absent : key ∉ members.map Prod.fst) (old new : Toml) :
    put key new (members ++ [(key, old)]) = members ++ [(key, new)] := by
  induction members with
  | nil => simp [put]
  | cons member members ih =>
    rw [List.map_cons, List.mem_cons, not_or] at absent
    rw [List.cons_append, put, if_neg (Ne.symm absent.1), ih absent.2]
    rfl

theorem insertPair_single {members : Members} {key : List Char} (absent : key ∉ members.map Prod.fst) (value : Toml) :
    insertPair members [key] value = some (members ++ [(key, value)]) := by
  simp [insertPair, insert, lookup_none absent]

namespace Draft

/-- A line at the root. -/
theorem add_root {members : Members} {key : List Char} (absent : key ∉ members.map Prod.fst) (value : Toml) :
    (⟨members, []⟩ : Draft).add? [key] value = some ⟨members ++ [(key, value)], []⟩ := by
  simp [add?, update, insertPair_single absent]

/-- A line of the last section. -/
theorem add_section {front inner : Members} {name key : List Char} (fresh : name ∉ front.map Prod.fst)
    (absent : key ∉ inner.map Prod.fst) (value : Toml) :
    (⟨front ++ [(name, .table .header inner)], [name]⟩ : Draft).add? [key] value =
      some ⟨front ++ [(name, .table .header (inner ++ [(key, value)]))], [name]⟩ := by
  have found : (front ++ [(name, Toml.table .header inner)]).lookup name = some (.table .header inner) := by
    rw [List.lookup_append, lookup_none fresh]
    simp
  simp [add?, update, found, insertPair_single absent, put_last fresh]

/-- The header of a section. -/
theorem head_section {front : Members} {name : List Char} (fresh : name ∉ front.map Prod.fst)
    (path : List (List Char)) :
    (⟨front, path⟩ : Draft).head? openTable [name] = some ⟨front ++ [(name, .table .header [])], [name]⟩ := by
  simp [head?, update, openTable, lookup_none fresh]

/-- Lines with keys of their own, in a place that takes a line for each new key. -/
theorem writes_pairs {place : Members → Draft}
    (adds : ∀ {inner : Members} {key : List Char}, key ∉ inner.map Prod.fst → ∀ value,
      (place inner).add? [key] value = some (place (inner ++ [(key, value)])))
    {lines : List Line} (sound : ∀ line ∈ lines, line.Sound) {inner : Members}
    (distinct : (inner.map Prod.fst ++ lines.map Line.key).Nodup) :
    Writes (place inner) (lines.flatMap Line.chars) (place (inner ++ lines.map Line.member)) := by
  induction lines generalizing inner with
  | nil =>
    rw [List.map_nil, List.append_nil]
    exact Writes.nil _
  | cons line lines ih =>
    have absent : line.key ∉ inner.map Prod.fst := fun inside =>
      (List.nodup_append.mp distinct).2.2 _ inside _ List.mem_cons_self rfl
    have first := writes_pair (sound line List.mem_cons_self) (adds absent line.value)
    have rest := @ih (fun other member => sound other (List.mem_cons_of_mem line member)) (inner ++ [line.member])
      (by simpa [Line.member] using distinct)
    rw [List.append_assoc] at rest
    exact first.append rest

end Draft

/-- Lines under a name. -/
structure Section where
  name : List Char
  lines : List Line

namespace Section

def chars (part : Section) : List Char :=
  ['\n', '['] ++ part.name ++ [']', '\n'] ++ part.lines.flatMap Line.chars

/-- What the section adds to the document. -/
def member (part : Section) : List Char × Toml := (part.name, .table .header (part.lines.map Line.member))

structure Sound (part : Section) : Prop where
  bare : Bare part.name
  lines : ∀ line ∈ part.lines, line.Sound
  distinct : (part.lines.map Line.key).Nodup

/-- A section with a name of its own goes behind what the draft holds. -/
theorem writes {part : Section} (sound : part.Sound) {front : Members} (fresh : part.name ∉ front.map Prod.fst)
    (path : List (List Char)) :
    Draft.Writes ⟨front, path⟩ part.chars ⟨front ++ [part.member], [part.name]⟩ := by
  have header := Draft.writes_header sound.bare (Draft.head_section fresh path)
  have lines := @Draft.writes_pairs (fun inner => ⟨front ++ [(part.name, .table .header inner)], [part.name]⟩)
    (Draft.add_section fresh) part.lines sound.lines [] sound.distinct
  have whole := ((Draft.writes_newline _).append header).append lines
  simpa [chars, member] using whole

theorem writes_all {parts : List Section} (sound : ∀ part ∈ parts, part.Sound) {front : Members}
    (distinct : (front.map Prod.fst ++ parts.map Section.name).Nodup) (path : List (List Char)) :
    ∃ path', Draft.Writes ⟨front, path⟩ (parts.flatMap Section.chars) ⟨front ++ parts.map Section.member, path'⟩ := by
  induction parts generalizing front path with
  | nil =>
    rw [List.map_nil, List.append_nil]
    exact ⟨path, Draft.Writes.nil _⟩
  | cons part parts ih =>
    have fresh : part.name ∉ front.map Prod.fst := fun inside =>
      (List.nodup_append.mp distinct).2.2 _ inside _ List.mem_cons_self rfl
    have first := writes (sound part List.mem_cons_self) fresh path
    obtain ⟨path', rest⟩ := @ih (fun other member => sound other (List.mem_cons_of_mem part member))
      (front ++ [part.member]) (by simpa [member] using distinct) [part.name]
    rw [List.append_assoc] at rest
    exact ⟨path', first.append rest⟩

end Section

/-- The mark of a byte order stands in front of no line and no section. -/
theorem withoutMark_sections {lines : List Line} (sound : ∀ line ∈ lines, line.Sound) (parts : List Section) :
    withoutMark (lines.flatMap Line.chars ++ parts.flatMap Section.chars) =
      lines.flatMap Line.chars ++ parts.flatMap Section.chars := by
  cases lines with
  | nil => cases parts <;> rfl
  | cons line lines =>
    obtain ⟨c, more, first, member⟩ := (sound line List.mem_cons_self).bare.cons
    rw [List.flatMap_cons, Line.chars, first]
    simp only [List.cons_append]
    rw [withoutMark]
    intro _ marked
    obtain ⟨rfl, -⟩ := List.cons_eq_cons.mp marked
    cases member

/-- A document of lines and then sections, all under names of their own, reads back. -/
theorem ofText_sections {lines : List Line} {parts : List Section} (lineSound : ∀ line ∈ lines, line.Sound)
    (partSound : ∀ part ∈ parts, part.Sound) (distinct : (lines.map Line.key ++ parts.map Section.name).Nodup)
    {text : String} (written : text.toList = lines.flatMap Line.chars ++ parts.flatMap Section.chars) :
    ofText? text = some (lines.map Line.member ++ parts.map Section.member) := by
  have keys : (lines.map Line.member).map Prod.fst = lines.map Line.key := by
    rw [List.map_map]
    rfl
  -- The lines come first, while the draft is still at the root.
  have root := @Draft.writes_pairs (fun members => ⟨members, []⟩) Draft.add_root lines lineSound []
    (List.nodup_append.mp distinct).1
  obtain ⟨path, sections⟩ := @Section.writes_all parts partSound (lines.map Line.member) (by rwa [keys]) []
  obtain ⟨count, short, read⟩ := root.append sections
  -- As many lines are allowed as the text has characters, which is enough.
  obtain ⟨spare, fuel⟩ := Nat.exists_eq_add_of_le short
  have whole := read spare []
  rw [List.append_nil, ← fuel, Draft.lines_nil] at whole
  rw [ofText?, written, withoutMark_sections lineSound, whole]
  rfl

end Stablecoin.Toml
