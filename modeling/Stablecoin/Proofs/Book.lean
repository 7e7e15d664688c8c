import Mathlib.Algebra.BigOperators.Group.Finset.Piecewise
import Mathlib.Algebra.BigOperators.Group.List.Basic
import Mathlib.Algebra.BigOperators.Ring.Finset
import Mathlib.Algebra.BigOperators.Ring.List
import Mathlib.Algebra.Order.BigOperators.Group.Finset
import Mathlib.Algebra.Order.BigOperators.Group.List
import Mathlib.Data.Real.Basic
import Mathlib.Tactic.Ring
import Stablecoin.Book

/-!
What a book records after it was changed. An entry is read back where it was
written and nowhere else (`get?_insert`, `get?_erase`, `get?_map`), so a book is
known by what it records for each account. What holds of every entry (`Each`) holds on
when such an entry is written, and a sum over a book changes by what is entered less
what stood there before (`sumOf_insert`, `sumOf_erase`).
-/
namespace Stablecoin.Book
variable {β γ : Type}

theorem lookup_entry (id : AccountId) (entry : AccountId × β) (rest : List (AccountId × β)) :
    (entry :: rest).lookup id = if id = entry.1 then some entry.2 else rest.lookup id := by
  obtain ⟨first, value⟩ := entry
  by_cases here : id = first
  · simp [here]
  · have elsewhere : (id == first) = false := by simpa using here
    simp [List.lookup_cons, here, elsewhere]

theorem lookup_insertEntry (id other : AccountId) (value : β) (entries : List (AccountId × β)) :
    (insertEntry id value entries).lookup other = if other = id then some value else entries.lookup other := by
  induction entries with
  | nil => simp [insertEntry, lookup_entry]
  | cons entry rest ih =>
    unfold insertEntry
    split
    · exact lookup_entry other (id, value) (entry :: rest)
    · split
      · rename_i here
        by_cases same : other = id
        · simp [same]
        · simp [lookup_entry, same, ← here]
      · rename_i different
        by_cases found : other = entry.1
        · simp [lookup_entry, found, Ne.symm different]
        · simp [lookup_entry, found, ih]

@[simp] theorem get?_insert (book : Book β) (id other : AccountId) (value : β) :
    (book.insert id value).get? other = if other = id then some value else book.get? other :=
  lookup_insertEntry id other value book.entries

theorem lookup_filter_ne (id other : AccountId) (entries : List (AccountId × β)) :
    (entries.filter (·.1 != id)).lookup other = if other = id then none else entries.lookup other := by
  induction entries with
  | nil => simp
  | cons entry rest ih =>
    by_cases struck : entry.1 = id
    · have dropped : (entry :: rest).filter (·.1 != id) = rest.filter (·.1 != id) := by simp [struck]
      rw [dropped, ih]
      by_cases same : other = id
      · simp [same]
      · simp [lookup_entry, same, struck]
    · have kept : (entry :: rest).filter (·.1 != id) = entry :: rest.filter (·.1 != id) := by simp [struck]
      rw [kept, lookup_entry, lookup_entry, ih]
      by_cases found : other = entry.1
      · simp [found, struck]
      · simp [found]

@[simp] theorem get?_erase (book : Book β) (id other : AccountId) :
    (book.erase id).get? other = if other = id then none else book.get? other :=
  lookup_filter_ne id other book.entries

theorem lookup_map (f : β → γ) (id : AccountId) (entries : List (AccountId × β)) :
    (entries.map fun entry => (entry.1, f entry.2)).lookup id = (entries.lookup id).map f := by
  induction entries with
  | nil => rfl
  | cons entry rest ih => by_cases found : id = entry.1 <;> simp [lookup_entry, found, ih]

@[simp] theorem get?_map (f : β → γ) (book : Book β) (id : AccountId) :
    (book.map f).get? id = (book.get? id).map f :=
  lookup_map f id book.entries

@[simp] theorem get?_empty (id : AccountId) : (empty : Book β).get? id = none := rfl

theorem mem_of_lookup {id : AccountId} {value : β} {entries : List (AccountId × β)}
    (found : entries.lookup id = some value) : (id, value) ∈ entries := by
  induction entries with
  | nil => simp at found
  | cons entry rest ih =>
    rw [lookup_entry] at found
    by_cases here : id = entry.1
    · simp only [here, ↓reduceIte, Option.some.injEq] at found
      simp [here, ← found]
    · simp only [here, ↓reduceIte] at found
      exact List.mem_cons_of_mem _ (ih found)

theorem lookup_of_mem {id : AccountId} {value : β} {entries : List (AccountId × β)}
    (ascending : entries.Pairwise (fun a b => a.1 < b.1)) (member : (id, value) ∈ entries) :
    entries.lookup id = some value := by
  induction entries with
  | nil => simp at member
  | cons entry rest ih =>
    obtain ⟨above, tail⟩ := List.pairwise_cons.mp ascending
    rw [lookup_entry]
    rcases List.mem_cons.mp member with here | there
    · simp [← here]
    · have later : entry.1 < id := above _ there
      simp [Nat.ne_of_gt later, ih tail there]

theorem get?_eq_some_iff (book : Book β) (id : AccountId) (value : β) :
    book.get? id = some value ↔ (id, value) ∈ book.entries :=
  ⟨mem_of_lookup, lookup_of_mem book.ascending⟩

theorem mem_values {book : Book β} {value : β} : value ∈ book.values ↔ ∃ id, book.get? id = some value := by
  simp [values, get?_eq_some_iff]

theorem has_iff (book : Book β) (id : AccountId) : book.Has id ↔ ∃ value, book.get? id = some value := by
  simp [Has, get?_eq_some_iff]

theorem not_has_iff (book : Book β) (id : AccountId) : ¬ book.Has id ↔ book.get? id = none := by
  simp [has_iff, Option.eq_none_iff_forall_ne_some]

theorem has_insert (book : Book β) (id other : AccountId) (value : β) :
    (book.insert id value).Has other ↔ other = id ∨ book.Has other := by
  by_cases same : other = id <;> simp [has_iff, same]

theorem has_insert_found {book : Book β} {id : AccountId} {old : β} (found : book.get? id = some old)
    (other : AccountId) (value : β) : (book.insert id value).Has other ↔ book.Has other := by
  have recorded : book.Has id := (has_iff book id).mpr ⟨old, found⟩
  rw [has_insert]
  constructor
  · rintro (rfl | there)
    · exact recorded
    · exact there
  · exact .inr

theorem has_erase (book : Book β) (id other : AccountId) :
    (book.erase id).Has other ↔ other ≠ id ∧ book.Has other := by
  by_cases same : other = id <;> simp [has_iff, same]

theorem has_map (f : β → γ) (book : Book β) (id : AccountId) : (book.map f).Has id ↔ book.Has id := by
  simp [has_iff]

theorem nodup_accounts (book : Book β) : book.accounts.Nodup :=
  List.pairwise_map.mpr (book.ascending.imp Nat.ne_of_lt)

/-! ### Books whose entries are written out -/

section
variable {entries : List (AccountId × β)} {ascending : entries.Pairwise fun a b => a.1 < b.1}

@[simp] theorem get?_mk (id : AccountId) : (⟨entries, ascending⟩ : Book β).get? id = entries.lookup id := rfl

@[simp] theorem has_mk (id : AccountId) : (⟨entries, ascending⟩ : Book β).Has id ↔ id ∈ entries.map (·.1) := Iff.rfl

@[simp] theorem values_mk : (⟨entries, ascending⟩ : Book β).values = entries.map (·.2) := rfl

@[simp] theorem size_mk : (⟨entries, ascending⟩ : Book β).size = entries.length := rfl

@[simp] theorem insert_mk (id : AccountId) (value : β) : (⟨entries, ascending⟩ : Book β).insert id value =
    ⟨insertEntry id value entries, insertEntry_ascending id value ascending⟩ := rfl

@[simp] theorem erase_mk (id : AccountId) : (⟨entries, ascending⟩ : Book β).erase id =
    ⟨entries.filter (·.1 != id), ascending.filter _⟩ := rfl

@[simp] theorem map_mk (f : β → γ) : (⟨entries, ascending⟩ : Book β).map f =
    ⟨entries.map fun entry => (entry.1, f entry.2), List.pairwise_map.mpr ascending⟩ := rfl

@[simp] theorem insertEntry_nil (id : AccountId) (value : β) : insertEntry id value [] = [(id, value)] := rfl

@[simp] theorem insertEntry_cons (id first : AccountId) (value head : β) :
    insertEntry id value ((first, head) :: entries) =
      if id < first then (id, value) :: (first, head) :: entries
      else if id = first then (id, value) :: entries
      else (first, head) :: insertEntry id value entries := rfl

@[simp] theorem lookup_mk_cons (id first : AccountId) (head : β) :
    ((first, head) :: entries).lookup id = if id = first then some head else entries.lookup id :=
  lookup_entry id (first, head) entries

end

@[simp] theorem values_empty : (empty : Book β).values = [] := rfl

@[simp] theorem not_has_empty (id : AccountId) : ¬ (empty : Book β).Has id := List.not_mem_nil

@[simp] theorem insert_empty (id : AccountId) (value : β) :
    (empty : Book β).insert id value = ⟨[(id, value)], by simp⟩ :=
  rfl

@[simp] theorem erase_empty (id : AccountId) : (empty : Book β).erase id = empty := rfl

@[simp] theorem map_empty (f : β → γ) : (empty : Book β).map f = empty := rfl

/-! ### What holds of every recorded value -/

/-- Every recorded value has the property. -/
def Each (property : β → Prop) (book : Book β) : Prop := ∀ id value, book.get? id = some value → property value

variable {property : β → Prop} {book : Book β}

theorem each_empty (property : β → Prop) : (empty : Book β).Each property := by
  intro id value found
  simp at found

theorem Each.insert (each : book.Each property) (id : AccountId) {value : β} (new : property value) :
    (book.insert id value).Each property := by
  intro other recorded found
  rw [get?_insert] at found
  split at found
  · exact Option.some.inj found ▸ new
  · exact each other recorded found

theorem Each.erase (each : book.Each property) (id : AccountId) : (book.erase id).Each property := by
  intro other recorded found
  rw [get?_erase] at found
  split at found
  · cases found
  · exact each other recorded found

theorem Each.map {goal : γ → Prop} {f : β → γ} (each : book.Each property)
    (keeps : ∀ value, property value → goal (f value)) : (book.map f).Each goal := by
  intro id value found
  rw [get?_map] at found
  obtain ⟨recorded, here, rfl⟩ := Option.map_eq_some_iff.mp found
  exact keeps recorded (each id recorded here)

theorem Each.of_mem (each : book.Each property) {entry : AccountId × β} (member : entry ∈ book.entries) :
    property entry.2 :=
  each entry.1 entry.2 ((get?_eq_some_iff book entry.1 entry.2).mpr member)

/-! ### Sums over a book -/

/-- The sum of what `f` reads from the recorded values. -/
def sumOf (f : β → ℝ) (book : Book β) : ℝ := (book.values.map f).sum

theorem sumOf_entries (f : β → ℝ) (book : Book β) : book.sumOf f = (book.entries.map fun entry => f entry.2).sum := by
  simp [sumOf, values, Function.comp_def]

theorem sum_insertEntry (f : β → ℝ) (id : AccountId) (value : β) {entries : List (AccountId × β)}
    (ascending : entries.Pairwise (fun a b => a.1 < b.1)) :
    ((insertEntry id value entries).map fun entry => f entry.2).sum =
      (entries.map fun entry => f entry.2).sum + f value - ((entries.lookup id).map f).getD 0 := by
  induction entries with
  | nil => simp [insertEntry]
  | cons entry rest ih =>
    obtain ⟨above, tail⟩ := List.pairwise_cons.mp ascending
    unfold insertEntry
    split
    · rename_i less
      have absent : (entry :: rest).lookup id = none := by
        rw [List.lookup_eq_none_iff]
        intro other member
        rcases List.mem_cons.mp member with here | there
        · simpa [here] using Nat.ne_of_lt less
        · simpa using Nat.ne_of_lt (Nat.lt_trans less (above other there))
      simp only [absent, List.map_cons, List.sum_cons, Option.map_none, Option.getD_none]
      ring
    · split
      · rename_i here
        simp only [here, lookup_entry, ↓reduceIte, List.map_cons, List.sum_cons, Option.map_some, Option.getD_some]
        ring
      · rename_i different
        simp only [different, lookup_entry, ↓reduceIte, List.map_cons, List.sum_cons, ih tail]
        ring

theorem sumOf_insert (f : β → ℝ) (book : Book β) (id : AccountId) (value : β) :
    (book.insert id value).sumOf f = book.sumOf f + f value - ((book.get? id).map f).getD 0 := by
  rw [sumOf_entries, sumOf_entries]
  exact sum_insertEntry f id value book.ascending

theorem sum_filter_ne (f : β → ℝ) (id : AccountId) {entries : List (AccountId × β)}
    (ascending : entries.Pairwise (fun a b => a.1 < b.1)) :
    ((entries.filter (·.1 != id)).map fun entry => f entry.2).sum =
      (entries.map fun entry => f entry.2).sum - ((entries.lookup id).map f).getD 0 := by
  induction entries with
  | nil => simp
  | cons entry rest ih =>
    obtain ⟨above, tail⟩ := List.pairwise_cons.mp ascending
    by_cases struck : entry.1 = id
    · subst struck
      have kept : rest.filter (·.1 != entry.1) = rest := by
        rw [List.filter_eq_self]
        intro other member
        simpa using Nat.ne_of_gt (above other member)
      simp [lookup_entry, kept]
    · have stays : (entry.1 != id) = true := by simpa using struck
      simp only [List.filter_cons, stays, ↓reduceIte, List.map_cons, List.sum_cons, lookup_entry, Ne.symm struck,
        ih tail]
      ring

theorem sumOf_erase (f : β → ℝ) (book : Book β) (id : AccountId) :
    (book.erase id).sumOf f = book.sumOf f - ((book.get? id).map f).getD 0 := by
  rw [sumOf_entries, sumOf_entries]
  exact sum_filter_ne f id book.ascending

theorem sumOf_insert_fresh (f : β → ℝ) {id : AccountId} (fresh : book.get? id = none) (value : β) :
    (book.insert id value).sumOf f = book.sumOf f + f value := by
  simp [sumOf_insert, fresh]

theorem sumOf_insert_found (f : β → ℝ) {id : AccountId} {old : β} (found : book.get? id = some old) (value : β) :
    (book.insert id value).sumOf f = book.sumOf f + f value - f old := by
  simp [sumOf_insert, found]

theorem sumOf_erase_found (f : β → ℝ) {id : AccountId} {old : β} (found : book.get? id = some old) :
    (book.erase id).sumOf f = book.sumOf f - f old := by
  simp [sumOf_erase, found]

theorem sumOf_map (f : γ → ℝ) (g : β → γ) (book : Book β) : (book.map g).sumOf f = book.sumOf (f ∘ g) := by
  simp [sumOf_entries, map, Function.comp_def]

@[simp] theorem sumOf_empty (f : β → ℝ) : (empty : Book β).sumOf f = 0 := rfl

theorem sumOf_add (f g : β → ℝ) (book : Book β) :
    (book.sumOf fun value => f value + g value) = book.sumOf f + book.sumOf g :=
  List.sum_map_add

theorem sumOf_mul_const (f : β → ℝ) (c : ℝ) (book : Book β) :
    (book.sumOf fun value => f value * c) = book.sumOf f * c :=
  List.sum_map_mul_right book.values f c

theorem sumOf_nonneg {f : β → ℝ} (nonneg : book.Each (0 ≤ f ·)) : 0 ≤ book.sumOf f := by
  apply List.sum_nonneg
  intro amount member
  obtain ⟨value, recorded, rfl⟩ := List.mem_map.mp member
  obtain ⟨id, found⟩ := mem_values.mp recorded
  exact nonneg id value found

/-- A part of a sum is no more than the sum. -/
theorem le_sumOf {f : β → ℝ} (nonneg : book.Each (0 ≤ f ·)) {id : AccountId} {value : β}
    (found : book.get? id = some value) : f value ≤ book.sumOf f := by
  have rest := sumOf_nonneg (nonneg.erase id)
  rw [sumOf_erase_found f found] at rest
  exact sub_nonneg.mp rest

/-- A sum over a book, taken over any accounts among which the recorded ones are. -/
theorem sumOf_eq_sum (book : Book ℝ) {range : Finset AccountId}
    (covers : ∀ account, book.Has account → account ∈ range) :
    book.sumOf id = ∑ account ∈ range, (book.get? account).getD 0 := by
  have read : book.sumOf id = (book.accounts.map fun account => (book.get? account).getD 0).sum := by
    rw [sumOf_entries, accounts, List.map_map]
    refine congrArg List.sum (List.map_congr_left fun entry member => ?_)
    have found := (get?_eq_some_iff book entry.1 entry.2).mpr member
    simp [found]
  rw [read, ← List.sum_toFinset _ book.nodup_accounts]
  refine Finset.sum_subset ?_ ?_
  · intro account member
    exact covers account (List.mem_toFinset.mp member)
  · intro account _ absent
    have unrecorded := (not_has_iff book account).mp fun held => absent (List.mem_toFinset.mpr held)
    rw [unrecorded, Option.getD_none]

/-- Where some entries were struck and the others read as before, the sum is less by them. -/
theorem sumOf_of_struck {book left : Book ℝ} {struck : List AccountId} (nodup : struck.Nodup)
    (gone : ∀ account ∈ struck, (left.get? account).getD 0 = 0)
    (kept : ∀ account ∉ struck, (left.get? account).getD 0 = (book.get? account).getD 0) :
    book.sumOf id = left.sumOf id + (struck.map fun account => (book.get? account).getD 0).sum := by
  classical
  let range := book.accounts.toFinset ∪ left.accounts.toFinset ∪ struck.toFinset
  have before : book.sumOf id = ∑ account ∈ range, (book.get? account).getD 0 := by
    refine sumOf_eq_sum book fun account held => ?_
    exact Finset.mem_union_left _ (Finset.mem_union_left _ (List.mem_toFinset.mpr held))
  have after : left.sumOf id = ∑ account ∈ range, (left.get? account).getD 0 := by
    refine sumOf_eq_sum left fun account held => ?_
    exact Finset.mem_union_left _ (Finset.mem_union_right _ (List.mem_toFinset.mpr held))
  have within : range ∩ struck.toFinset = struck.toFinset := Finset.inter_eq_right.mpr Finset.subset_union_right
  rw [before, after, ← List.sum_toFinset _ nodup, ← within, ← Finset.sum_ite_mem, ← Finset.sum_add_distrib]
  refine Finset.sum_congr rfl fun account _ => ?_
  by_cases member : account ∈ struck
  · rw [gone account member, if_pos (List.mem_toFinset.mpr member), zero_add]
  · rw [kept account member, if_neg (mt List.mem_toFinset.mp member), add_zero]

/-- Where no entry is far from a part of what stood there, the sum is not far from that part
    of the sum. -/
theorem abs_sumOf_sub_le {book left : Book ℝ} {factor slack : ℝ}
    (near : ∀ account, |(left.get? account).getD 0 - (book.get? account).getD 0 * factor| ≤ slack)
    (fresh : ∀ account, ¬ book.Has account → (left.get? account).getD 0 = 0) :
    |left.sumOf id - book.sumOf id * factor| ≤ slack * book.size := by
  classical
  let range := book.accounts.toFinset ∪ left.accounts.toFinset
  have before : book.sumOf id = ∑ account ∈ range, (book.get? account).getD 0 :=
    sumOf_eq_sum book fun account held => Finset.mem_union_left _ (List.mem_toFinset.mpr held)
  have after : left.sumOf id = ∑ account ∈ range, (left.get? account).getD 0 :=
    sumOf_eq_sum left fun account held => Finset.mem_union_right _ (List.mem_toFinset.mpr held)
  have within : range ∩ book.accounts.toFinset = book.accounts.toFinset :=
    Finset.inter_eq_right.mpr Finset.subset_union_left
  have count : (book.accounts.toFinset.card : ℝ) = book.size := by
    rw [List.toFinset_card_of_nodup book.nodup_accounts, accounts, List.length_map, size]
  rw [before, after, Finset.sum_mul, ← Finset.sum_sub_distrib, ← count, mul_comm, ← nsmul_eq_mul, ← Finset.sum_const,
    ← within, ← Finset.sum_ite_mem]
  refine (Finset.abs_sum_le_sum_abs _ _).trans (Finset.sum_le_sum fun account _ => ?_)
  split
  · exact near account
  · rename_i absent
    have unrecorded := mt List.mem_toFinset.mpr absent
    rw [fresh account unrecorded, (not_has_iff book account).mp unrecorded]
    simp

/-- The number of entries as a sum over them. -/
theorem size_eq_sumOf (book : Book β) : (book.size : ℝ) = book.sumOf fun _ => 1 := by
  simp [sumOf_entries, size]

theorem size_insert_fresh {id : AccountId} (fresh : book.get? id = none) (value : β) :
    ((book.insert id value).size : ℝ) = book.size + 1 := by
  simp [size_eq_sumOf, sumOf_insert, fresh]

theorem size_insert_found {id : AccountId} {old : β} (found : book.get? id = some old) (value : β) :
    ((book.insert id value).size : ℝ) = book.size := by
  simp [size_eq_sumOf, sumOf_insert, found]

theorem size_erase_found {id : AccountId} {old : β} (found : book.get? id = some old) :
    ((book.erase id).size : ℝ) = book.size - 1 := by
  simp [size_eq_sumOf, sumOf_erase, found]

theorem size_map (f : β → γ) (book : Book β) : (book.map f).size = book.size := by
  simp [size, map]

end Stablecoin.Book
