import Stablecoin.Proofs.Book
import Stablecoin.Roster

namespace Stablecoin.Roster
variable {α : Type} {roster : Roster α} {id : AccountId} {targetCr inattention : α} {period : Nat}

/-- The active list has no duplicates and holds the accounts noted as active, and the
    idle book holds the other accounts. -/
structure Division (roster : Roster α) : Prop where
  nodup : roster.active.Nodup
  mem_active : ∀ id, id ∈ roster.active ↔ roster.IsActive id
  idle : ∀ id, roster.idle.Has id ↔ id < roster.size ∧ ¬ roster.IsActive id

theorem isActive_lt (active : roster.IsActive id) : id < roster.size := by
  by_contra unknown
  have missing : roster.borrowers[id]? = none := Array.getElem?_eq_none (not_lt.mp unknown)
  simp [IsActive, get?, missing] at active

theorem size_ofSize [Number α] (size : Nat) : (ofSize size : Roster α).size = size % UInt32.size := by
  simp [ofSize, Roster.size]

theorem not_isActive_ofSize [Number α] (size : Nat) (id : AccountId) : ¬ (ofSize size : Roster α).IsActive id := by
  intro active
  simp only [IsActive, get?, ofSize, Option.any_eq_true] at active
  obtain ⟨borrower, found, noted⟩ := active
  simp only [List.getElem?_toArray, List.getElem?_map, Option.map_eq_some_iff] at found
  obtain ⟨place, _, rfl⟩ := found
  simp at noted

theorem ofSize_division [Number α] (size : Nat) : (ofSize size : Roster α).Division where
  nodup := List.nodup_nil
  mem_active id := ⟨fun member => absurd member List.not_mem_nil,
    fun active => absurd active (not_isActive_ofSize size id)⟩
  idle id := by
    have all : (ofSize size : Roster α).idle.Has id ↔ id < size % UInt32.size := by simp [ofSize, Book.Has]
    rw [size_ofSize, all]
    exact ⟨fun known => ⟨known, not_isActive_ofSize size id⟩, fun known => known.1⟩

theorem activate_of_idle (idle : roster.idle.Has id) :
    roster.activate id targetCr inattention period =
      { borrowers := roster.borrowers.modify id fun borrower =>
          { borrower with active := true, targetCr, inattention, openedIn := some period, deactivatedIn := none }
        active := roster.active ++ [id]
        idle := roster.idle.erase id } := by
  simp [activate, activate?, idle]

theorem activate_of_not_idle (busy : ¬ roster.idle.Has id) :
    roster.activate id targetCr inattention period = roster := by
  simp [activate, activate?, busy]

@[simp] theorem size_activate (roster : Roster α) (id : AccountId) (targetCr inattention : α) (period : Nat) :
    (roster.activate id targetCr inattention period).size = roster.size := by
  by_cases idle : roster.idle.Has id
  · simp [activate_of_idle idle, Roster.size]
  · rw [activate_of_not_idle idle]

theorem isActive_activate (division : roster.Division) (idle : roster.idle.Has id) (other : AccountId) :
    (roster.activate id targetCr inattention period).IsActive other ↔ other = id ∨ roster.IsActive other := by
  have known : id < roster.borrowers.size := ((division.idle id).mp idle).1
  rw [activate_of_idle idle]
  by_cases same : other = id
  · subst same
    simp [IsActive, get?, Array.getElem?_modify, Array.getElem?_eq_getElem known]
  · simp [IsActive, get?, Array.getElem?_modify, same, Ne.symm same]

theorem Division.activate (division : roster.Division) (id : AccountId) (targetCr inattention : α) (period : Nat) :
    (roster.activate id targetCr inattention period).Division := by
  by_cases idle : roster.idle.Has id
  · have noted := (division.idle id).mp idle
    have absent : id ∉ roster.active := fun member => noted.2 ((division.mem_active id).mp member)
    refine ⟨?_, ?_, ?_⟩
    · rw [activate_of_idle idle]
      refine List.nodup_append.mpr ⟨division.nodup, List.nodup_cons.mpr ⟨List.not_mem_nil, List.nodup_nil⟩, ?_⟩
      intro other member another last same
      rw [List.mem_singleton.mp last] at same
      exact absent (same ▸ member)
    · intro other
      rw [isActive_activate division idle, ← division.mem_active, activate_of_idle idle]
      simp [or_comm]
    · intro other
      rw [isActive_activate division idle, size_activate, activate_of_idle idle]
      simp only [Book.has_erase, division.idle]
      tauto
  · rwa [activate_of_not_idle idle]

theorem deactivate_of_active (active : id ∈ roster.active) :
    roster.deactivate id period =
      { borrowers := roster.borrowers.modify id fun borrower =>
          { borrower with active := false, deactivatedIn := some period }
        active := roster.active.erase id
        idle := roster.idle.insert id () } := by
  simp [deactivate, deactivate?, active]

theorem deactivate_of_not_active (idle : id ∉ roster.active) : roster.deactivate id period = roster := by
  simp [deactivate, deactivate?, idle]

@[simp] theorem size_deactivate (roster : Roster α) (id : AccountId) (period : Nat) :
    (roster.deactivate id period).size = roster.size := by
  by_cases active : id ∈ roster.active
  · simp [deactivate_of_active active, Roster.size]
  · rw [deactivate_of_not_active active]

theorem isActive_deactivate (division : roster.Division) (id other : AccountId) (period : Nat) :
    (roster.deactivate id period).IsActive other ↔ other ≠ id ∧ roster.IsActive other := by
  by_cases active : id ∈ roster.active
  · rw [deactivate_of_active active]
    by_cases same : other = id
    · subst same
      cases found : roster.borrowers[other]? <;> simp [IsActive, get?, Array.getElem?_modify, found]
    · simp [IsActive, get?, Array.getElem?_modify, same, Ne.symm same]
  · rw [deactivate_of_not_active active]
    have idle : ¬ roster.IsActive id := fun noted => active ((division.mem_active id).mpr noted)
    constructor
    · intro noted
      exact ⟨fun same => idle (same ▸ noted), noted⟩
    · exact And.right

theorem Division.deactivate (division : roster.Division) (id : AccountId) (period : Nat) :
    (roster.deactivate id period).Division := by
  by_cases active : id ∈ roster.active
  · have known : id < roster.size := isActive_lt ((division.mem_active id).mp active)
    refine ⟨?_, ?_, ?_⟩
    · rw [deactivate_of_active active]
      exact division.nodup.erase id
    · intro other
      rw [isActive_deactivate division, ← division.mem_active, deactivate_of_active active]
      exact division.nodup.mem_erase_iff
    · intro other
      rw [isActive_deactivate division, size_deactivate, deactivate_of_active active, Book.has_insert, division.idle]
      by_cases same : other = id
      · simp [same, known]
      · simp [same]
  · rwa [deactivate_of_not_active active]

/-- Accounts that are deactivated one after another are idle, and no others besides. -/
theorem isActive_deactivateAll (division : roster.Division) (gone : List AccountId) (period : Nat)
    (other : AccountId) :
    (gone.foldl (fun roster account => roster.deactivate account period) roster).IsActive other ↔
      roster.IsActive other ∧ other ∉ gone := by
  induction gone generalizing roster with
  | nil => simp
  | cons account rest ih =>
    rw [List.foldl_cons, ih (division.deactivate account period), isActive_deactivate division, List.mem_cons]
    tauto

/-- The listed accounts, different ones that were active, are those that are active no more. -/
structure Leaves (roster : Roster α) (gone : List AccountId) (left : Roster α) : Prop where
  nodup : gone.Nodup
  active : ∀ id ∈ gone, roster.IsActive id
  isActive : ∀ id, left.IsActive id ↔ roster.IsActive id ∧ id ∉ gone

/-- The listed accounts, different ones that were not active, are those that have become so. -/
structure Joins (roster : Roster α) (fresh : List AccountId) (left : Roster α) : Prop where
  nodup : fresh.Nodup
  inactive : ∀ id ∈ fresh, ¬ roster.IsActive id
  isActive : ∀ id, left.IsActive id ↔ roster.IsActive id ∨ id ∈ fresh

theorem Leaves.refl (roster : Roster α) : roster.Leaves [] roster :=
  ⟨List.nodup_nil, fun _ member => absurd member List.not_mem_nil, fun id => by simp⟩

theorem Joins.refl (roster : Roster α) : roster.Joins [] roster :=
  ⟨List.nodup_nil, fun _ member => absurd member List.not_mem_nil, fun id => by simp⟩

theorem Leaves.trans {mid left : Roster α} {gone later : List AccountId} (first : roster.Leaves gone mid)
    (second : mid.Leaves later left) : roster.Leaves (gone ++ later) left where
  nodup := by
    refine List.nodup_append.mpr ⟨first.nodup, second.nodup, ?_⟩
    rintro id before other after rfl
    exact ((first.isActive id).mp (second.active id after)).2 before
  active id member := by
    rcases List.mem_append.mp member with before | after
    · exact first.active id before
    · exact ((first.isActive id).mp (second.active id after)).1
  isActive id := by
    rw [second.isActive, first.isActive, List.mem_append, not_or, and_assoc]

theorem Joins.trans {mid left : Roster α} {fresh later : List AccountId} (first : roster.Joins fresh mid)
    (second : mid.Joins later left) : roster.Joins (fresh ++ later) left where
  nodup := by
    refine List.nodup_append.mpr ⟨first.nodup, second.nodup, ?_⟩
    rintro id before other after rfl
    exact second.inactive id after ((first.isActive id).mpr (.inr before))
  inactive id member := by
    rcases List.mem_append.mp member with before | after
    · exact first.inactive id before
    · exact fun active => second.inactive id after ((first.isActive id).mpr (.inl active))
  isActive id := by
    rw [second.isActive, first.isActive, List.mem_append, or_assoc]

theorem Division.leaves (division : roster.Division) (active : roster.IsActive id) (period : Nat) :
    roster.Leaves [id] (roster.deactivate id period) where
  nodup := List.pairwise_singleton _ id
  active other member := by rwa [List.mem_singleton.mp member]
  isActive other := by
    rw [isActive_deactivate division, List.mem_singleton, and_comm]

theorem Division.joins (division : roster.Division) (known : id < roster.size) (inactive : ¬ roster.IsActive id)
    (targetCr inattention : α) (period : Nat) :
    roster.Joins [id] (roster.activate id targetCr inattention period) where
  nodup := List.pairwise_singleton _ id
  inactive other member := by rwa [List.mem_singleton.mp member]
  isActive other := by
    have idle : roster.idle.Has id := (division.idle id).mpr ⟨known, inactive⟩
    rw [isActive_activate division idle, List.mem_singleton, or_comm]

/-! ### The check of the division -/

/-- Every account is kept at the place of its number. -/
def Numbered (roster : Roster α) : Prop := ∀ id borrower, roster.get? id = some borrower → borrower.id = id

theorem ofSize_numbered [Number α] (size : Nat) : (ofSize size : Roster α).Numbered := by
  intro id borrower found
  simp only [get?, ofSize, List.getElem?_toArray, List.getElem?_map, Option.map_eq_some_iff] at found
  obtain ⟨place, known, rfl⟩ := found
  obtain ⟨within, rfl⟩ := List.getElem?_eq_some_iff.mp known
  exact List.getElem_range within

theorem Numbered.activate (numbered : roster.Numbered) (id : AccountId) (targetCr inattention : α) (period : Nat) :
    (roster.activate id targetCr inattention period).Numbered := by
  by_cases idle : roster.idle.Has id
  · intro other borrower found
    rw [activate_of_idle idle] at found
    simp only [get?, Array.getElem?_modify] at found
    split at found
    · obtain ⟨before, known, rfl⟩ := Option.map_eq_some_iff.mp found
      exact numbered other before known
    · exact numbered other borrower found
  · rwa [activate_of_not_idle idle]

/-- Active and idle accounts together are all accounts. -/
theorem Division.length (division : roster.Division) : roster.active.length + roster.idle.size = roster.size := by
  have all : (roster.active ++ roster.idle.accounts).Perm (List.range roster.size) := by
    have apart : (roster.active ++ roster.idle.accounts).Nodup := by
      refine List.nodup_append.mpr ⟨division.nodup, roster.idle.nodup_accounts, ?_⟩
      rintro id active other idle rfl
      exact ((division.idle id).mp idle).2 ((division.mem_active id).mp active)
    rw [List.perm_ext_iff_of_nodup apart List.nodup_range]
    intro id
    have idle : id ∈ roster.idle.accounts ↔ id < roster.size ∧ ¬ roster.IsActive id := division.idle id
    rw [List.mem_append, division.mem_active, idle, List.mem_range]
    constructor
    · rintro (active | idle)
      · exact isActive_lt active
      · exact idle.1
    · intro known
      by_cases active : roster.IsActive id
      · exact .inl active
      · exact .inr ⟨known, active⟩
  have length := all.length_eq
  rwa [List.length_append, List.length_range, Book.accounts, List.length_map] at length

/-- A divided roster passes its check. -/
theorem Division.isPartitioned (division : roster.Division) (numbered : roster.Numbered) :
    roster.isPartitioned = true := by
  have each : ∀ borrower ∈ roster.borrowers, (roster.active.contains borrower.id !=
      decide (roster.idle.Has borrower.id) && roster.active.contains borrower.id == borrower.active) = true := by
    intro borrower member
    obtain ⟨id, known, found⟩ := Array.mem_iff_getElem.mp member
    have kept : roster.get? id = some borrower := (Array.getElem?_eq_getElem known).trans (congrArg some found)
    have noted : roster.IsActive id ↔ borrower.active = true := by simp [IsActive, kept]
    have active : id ∈ roster.active ↔ borrower.active = true := (division.mem_active id).trans noted
    have idle : roster.idle.Has id ↔ ¬ borrower.active = true := by
      rw [division.idle, noted]
      exact and_iff_right known
    rw [numbered id borrower kept]
    cases status : borrower.active <;> simp [active, idle, status]
  simp only [Roster.isPartitioned, Bool.and_eq_true, beq_iff_eq, decide_eq_true_eq]
  exact ⟨⟨division.length, division.nodup⟩, Array.all_eq_true'.mpr each⟩

end Stablecoin.Roster
