import Mathlib.Data.List.Dedup
import Mathlib.Data.List.Perm.Subperm
import Stablecoin.Proofs.Roster
import Stablecoin.Roster.Call

/-!
The roster after any calls. The active list is told by the history alone: of the accounts
that were ever made active, each at its latest activation, it keeps those that still are
(`Ordered`). Calls keep this together with the division of the roster, and so
`after_partition` says what a roster is after any of them and which calls it accepts next.

The check of the division is complete besides (`isPartitioned_iff`): counting tells that
two lists that cover all accounts and are no longer than these hold no other account and
none twice.
-/
namespace Stablecoin.Roster
variable {α : Type} {roster : Roster α}

theorem activate?_isSome (division : roster.Division) (id : AccountId) (targetCr inattention : α) (period : Nat) :
    (roster.activate? id targetCr inattention period).isSome ↔ id < roster.size ∧ ¬ roster.IsActive id := by
  rw [← division.idle]
  by_cases idle : roster.idle.Has id <;> simp [activate?, idle]

theorem deactivate?_isSome (division : roster.Division) (id : AccountId) (period : Nat) :
    (roster.deactivate? id period).isSome ↔ roster.IsActive id := by
  rw [← division.mem_active]
  by_cases active : id ∈ roster.active <;> simp [deactivate?, active]

theorem perform_of_refused {call : Call α} (refused : roster.perform? call = none) : roster.perform call = roster := by
  cases call with
  | activate id targetCr inattention period => exact congrArg (·.getD roster) refused
  | deactivate id period => exact congrArg (·.getD roster) refused

/-- An accepted call is about an account of the roster. -/
theorem account_lt (division : roster.Division) {call : Call α} (accepted : (roster.perform? call).isSome) :
    call.account < roster.size := by
  cases call with
  | activate id targetCr inattention period => exact ((activate?_isSome division id _ _ _).mp accepted).1
  | deactivate id period => exact isActive_lt ((deactivate?_isSome division id _).mp accepted)

/-- The calls that the roster accepts. The others change nothing, and an accepted one finds
    the places that it changes. -/
structure Acceptance (roster : Roster α) : Prop where
  activate : ∀ id targetCr inattention period,
    (roster.perform? (.activate id targetCr inattention period)).isSome ↔ id < roster.size ∧ ¬ roster.IsActive id
  deactivate : ∀ id period, (roster.perform? (.deactivate id period)).isSome ↔ roster.IsActive id
  refused : ∀ call, roster.perform? call = none → roster.perform call = roster
  account : ∀ call, (roster.perform? call).isSome → call.account < roster.borrowers.size
  entry : ∀ id period, (roster.perform? (.deactivate id period)).isSome →
    roster.active.idxOf id < roster.active.length

theorem Division.acceptance (division : roster.Division) : roster.Acceptance where
  activate := activate?_isSome division
  deactivate := deactivate?_isSome division
  refused _ := perform_of_refused
  account _ := account_lt division
  entry id period accepted :=
    List.idxOf_lt_length_iff.mpr ((division.mem_active id).mpr ((deactivate?_isSome division id period).mp accepted))

/-- The active accounts are those of the history that are still active, each where it was
    made active last. -/
def Ordered (roster : Roster α) (history : List AccountId) : Prop :=
  roster.active = history.dedup.filter fun id => decide (roster.IsActive id)

theorem dedup_concat (history : List AccountId) (id : AccountId) :
    (history ++ [id]).dedup = history.dedup.filter (· ≠ id) ++ [id] := by
  induction history with
  | nil => simp
  | cons first rest ih =>
    by_cases again : first ∈ rest
    · rw [List.cons_append, List.dedup_cons_of_mem (List.mem_append_left _ again), ih, List.dedup_cons_of_mem again]
    · by_cases same : first = id
      · subst same
        rw [List.cons_append, List.dedup_cons_of_mem (List.mem_append_right _ (List.mem_singleton_self _)), ih,
          List.dedup_cons_of_notMem again]
        simp
      · have fresh : first ∉ rest ++ [id] := by simp [again, same]
        rw [List.cons_append, List.dedup_cons_of_notMem fresh, ih, List.dedup_cons_of_notMem again]
        simp [same]

theorem Ordered.activate {history : List AccountId} (ordered : roster.Ordered history) (division : roster.Division)
    {id : AccountId} (idle : roster.idle.Has id) (targetCr inattention : α) (period : Nat) :
    (roster.activate id targetCr inattention period).Ordered (history ++ [id]) := by
  have inactive : ¬ roster.IsActive id := ((division.idle id).mp idle).2
  have still (other : AccountId) : (decide ((roster.activate id targetCr inattention period).IsActive other) &&
      decide (other ≠ id)) = decide (roster.IsActive other) := by
    rw [← Bool.decide_and, decide_eq_decide, isActive_activate division idle]
    constructor
    · rintro ⟨rfl | active, different⟩
      · exact absurd rfl different
      · exact active
    · intro active
      exact ⟨.inr active, fun same => inactive (same ▸ active)⟩
  have last : (roster.activate id targetCr inattention period).IsActive id :=
    (isActive_activate division idle id).mpr (.inl rfl)
  have appended : (roster.activate id targetCr inattention period).active = roster.active ++ [id] :=
    congrArg (·.active) (activate_of_idle idle)
  rw [Ordered, appended, ordered, dedup_concat, List.filter_append, List.filter_filter]
  simp only [still]
  rw [List.filter_singleton, decide_eq_true last, cond_true]

theorem Ordered.deactivate {history : List AccountId} (ordered : roster.Ordered history) (division : roster.Division)
    (id : AccountId) (period : Nat) : (roster.deactivate id period).Ordered history := by
  by_cases active : id ∈ roster.active
  · have erased : (roster.deactivate id period).active = roster.active.erase id :=
      congrArg (·.active) (deactivate_of_active active)
    have still (other : AccountId) : (other != id && decide (roster.IsActive other)) =
        decide ((roster.deactivate id period).IsActive other) := by
      rw [Bool.eq_iff_iff, Bool.and_eq_true, bne_iff_ne, decide_eq_true_iff, decide_eq_true_iff,
        isActive_deactivate division]
    rw [Ordered, erased, division.nodup.erase_eq_filter, ordered, List.filter_filter]
    simp only [still]
  · rwa [deactivate_of_not_active active]

theorem Numbered.deactivate (numbered : roster.Numbered) (id : AccountId) (period : Nat) :
    (roster.deactivate id period).Numbered := by
  by_cases active : id ∈ roster.active
  · intro other borrower found
    rw [deactivate_of_active active] at found
    simp only [get?, Array.getElem?_modify] at found
    split at found
    · obtain ⟨before, known, rfl⟩ := Option.map_eq_some_iff.mp found
      exact numbered other before known
    · exact numbered other borrower found
  · rwa [deactivate_of_not_active active]

/-- What calls keep: the division, every account at its place and the order of the active
    accounts, with the history of the activations so far. -/
structure Kept (roster : Roster α) (history : List AccountId) : Prop where
  division : roster.Division
  numbered : roster.Numbered
  ordered : roster.Ordered history

theorem ofSize_kept [Number α] (size : Nat) : (ofSize size : Roster α).Kept [] :=
  ⟨ofSize_division size, ofSize_numbered size, rfl⟩

theorem Kept.perform {history : List AccountId} (kept : roster.Kept history) (call : Call α) :
    (roster.perform call).Kept (history ++ (roster.activation? call).toList) := by
  cases call with
  | activate id targetCr inattention period =>
    refine ⟨kept.division.activate .., kept.numbered.activate id targetCr inattention period, ?_⟩
    by_cases idle : roster.idle.Has id
    · have activated : roster.activation? (.activate id targetCr inattention period) = some id := by
        simp [activation?, activate?, idle]
      rw [activated]
      exact kept.ordered.activate kept.division idle targetCr inattention period
    · have refused : roster.activation? (.activate id targetCr inattention period) = none := by
        simp [activation?, activate?, idle]
      rw [refused, Option.toList_none, List.append_nil, Roster.perform, activate_of_not_idle idle]
      exact kept.ordered
  | deactivate id period =>
    rw [activation?, Option.toList_none, List.append_nil]
    exact ⟨kept.division.deactivate .., kept.numbered.deactivate id period,
      kept.ordered.deactivate kept.division id period⟩

theorem Kept.after {history : List AccountId} (kept : roster.Kept history) (calls : List (Call α)) :
    (roster.after calls).Kept (history ++ roster.activations calls) := by
  induction calls generalizing roster history with
  | nil => simpa [Roster.after, activations] using kept
  | cons call calls ih =>
    rw [activations, ← List.append_assoc]
    exact ih (kept.perform call)

theorem size_after (roster : Roster α) (calls : List (Call α)) : (roster.after calls).size = roster.size := by
  induction calls generalizing roster with
  | nil => rfl
  | cons call calls ih =>
    refine (ih (roster.perform call)).trans ?_
    cases call with
    | activate id targetCr inattention period => exact size_activate ..
    | deactivate id period => exact size_deactivate ..

/-! ### Completeness of the check -/

/-- The active list and the idle book divide the accounts, and agree with what is noted
    for each. -/
structure Partition (roster : Roster α) : Prop where
  nodup : roster.active.Nodup
  disjoint : ∀ id ∈ roster.active, ¬ roster.idle.Has id
  covers : ∀ borrower ∈ roster.borrowers, borrower.id ∈ roster.active ∨ roster.idle.Has borrower.id
  known : ∀ id, id ∈ roster.active ∨ roster.idle.Has id → ∃ borrower ∈ roster.borrowers, borrower.id = id
  flags : ∀ borrower ∈ roster.borrowers, borrower.active = true ↔ borrower.id ∈ roster.active

/-- The numbers of the accounts in the order of their places. -/
def ids (roster : Roster α) : List AccountId := roster.borrowers.toList.map (·.id)

theorem mem_ids {id : AccountId} : id ∈ roster.ids ↔ ∃ borrower ∈ roster.borrowers, borrower.id = id := by
  simp [ids]

/-- What the check compares. -/
theorem isPartitioned_eq_true : roster.isPartitioned = true ↔
    (roster.active.length + roster.idle.size = roster.size ∧ roster.active.Nodup) ∧
      ∀ borrower ∈ roster.borrowers, (borrower.id ∈ roster.active ↔ ¬ roster.idle.Has borrower.id) ∧
        (borrower.active = true ↔ borrower.id ∈ roster.active) := by
  have each (borrower : Borrower α) : (roster.active.contains borrower.id != decide (roster.idle.Has borrower.id) &&
      roster.active.contains borrower.id == borrower.active) = true ↔
        (borrower.id ∈ roster.active ↔ ¬ roster.idle.Has borrower.id) ∧
          (borrower.active = true ↔ borrower.id ∈ roster.active) := by
    by_cases active : borrower.id ∈ roster.active <;> by_cases idle : roster.idle.Has borrower.id <;>
      cases status : borrower.active <;> simp [active, idle]
  simp only [Roster.isPartitioned, Bool.and_eq_true, beq_iff_eq, decide_eq_true_eq, Array.all_eq_true', each]

theorem Partition.perm (parts : roster.Partition) (unique : roster.ids.Nodup) :
    roster.ids.Perm (roster.active ++ roster.idle.accounts) := by
  have apart : (roster.active ++ roster.idle.accounts).Nodup := by
    refine List.nodup_append.mpr ⟨parts.nodup, roster.idle.nodup_accounts, ?_⟩
    rintro id active other idle rfl
    exact parts.disjoint id active idle
  rw [List.perm_ext_iff_of_nodup unique apart]
  intro id
  rw [mem_ids, List.mem_append]
  constructor
  · rintro ⟨borrower, member, rfl⟩
    exact parts.covers borrower member
  · exact parts.known id

/-- With different account numbers the check passes for the partitions and no others. -/
theorem isPartitioned_iff (unique : roster.ids.Nodup) : roster.isPartitioned = true ↔ roster.Partition := by
  have places : roster.ids.length = roster.size := by simp [ids, Roster.size]
  have entries : (roster.active ++ roster.idle.accounts).length = roster.active.length + roster.idle.size := by
    simp [Book.accounts, Book.size]
  rw [isPartitioned_eq_true]
  constructor
  · rintro ⟨⟨length, nodup⟩, agree⟩
    have covers (borrower : Borrower α) (member : borrower ∈ roster.borrowers) :
        borrower.id ∈ roster.active ∨ roster.idle.Has borrower.id := by
      by_cases idle : roster.idle.Has borrower.id
      · exact .inr idle
      · exact .inl ((agree borrower member).1.mpr idle)
    have inside : roster.ids ⊆ roster.active ++ roster.idle.accounts := by
      intro id member
      obtain ⟨borrower, one, rfl⟩ := mem_ids.mp member
      exact List.mem_append.mpr (covers borrower one)
    -- The lists hold every account and have no room for anything else.
    have all : roster.ids.Perm (roster.active ++ roster.idle.accounts) :=
      (List.subperm_of_subset unique inside).perm_of_length_le (by rw [entries, places, length])
    have apart := List.nodup_append.mp (all.nodup_iff.mp unique)
    refine ⟨nodup, ?_, covers, ?_, fun borrower member => (agree borrower member).2⟩
    · intro id active idle
      exact apart.2.2 id active id idle rfl
    · intro id listed
      exact mem_ids.mp (all.mem_iff.mpr (List.mem_append.mpr listed))
  · intro parts
    refine ⟨⟨?_, parts.nodup⟩, fun borrower member => ⟨⟨parts.disjoint borrower.id, ?_⟩, parts.flags borrower member⟩⟩
    · rw [← entries, ← places, (parts.perm unique).length_eq]
    · exact (parts.covers borrower member).resolve_right

/-- After any calls the roster is divided: the check passes, the active accounts stand in
    the order of their latest activations and the idle ones ascend. The calls that it
    accepts next are the activations of its idle accounts and the deactivations of its
    active ones. The check passes for any lists that divide accounts of different numbers,
    and for no others. -/
theorem after_partition [Number α] (size : Nat) (calls : List (Call α)) :
    let roster := (ofSize size : Roster α).after calls
    (roster.size = size % UInt32.size ∧ roster.isPartitioned = true) ∧
      (roster.active.Nodup ∧ (∀ id, id ∈ roster.active ↔ roster.IsActive id) ∧
        roster.active = ((ofSize size).activations calls).dedup.filter fun id => decide (roster.IsActive id)) ∧
      (roster.idleAccounts.Pairwise (· < ·) ∧
        ∀ id, id ∈ roster.idleAccounts ↔ id < roster.size ∧ ¬ roster.IsActive id) ∧
      roster.Acceptance ∧ ∀ any : Roster α, any.ids.Nodup → (any.isPartitioned = true ↔ any.Partition) := by
  intro roster
  have kept : roster.Kept ((ofSize size).activations calls) := (ofSize_kept size).after calls
  have division := kept.division
  refine ⟨⟨?size, division.isPartitioned kept.numbered⟩, ⟨division.nodup, division.mem_active, kept.ordered⟩,
    ⟨?ascending, division.idle⟩, division.acceptance, fun any unique => isPartitioned_iff unique⟩
  case size => rw [size_after, size_ofSize]
  case ascending => exact List.pairwise_map.mpr roster.idle.ascending

/-- Accounts that are numbered anyhow. -/
def numberedAnyhow : Roster Float where
  borrowers := #[⟨7, false, 0, 0, none, none⟩, ⟨2, true, 0, 0, none, none⟩, ⟨5, true, 0, 0, none, none⟩]
  active := [5, 2]
  idle := Book.empty.insert 7 ()

/-- A run of calls in which an account is made active again, and some calls are refused. -/
theorem reactivated_partition :
    let calls : List (Call Float) := [.activate 3 0 0 1, .activate 1 0 0 1, .deactivate 3 2, .activate 0 0 0 2,
      .activate 3 0 0 3, .activate 1 0 0 3, .deactivate 4 3, .activate 9 0 0 3]
    let roster := (ofSize 5).after calls
    roster.active = [1, 0, 3] ∧ roster.idleAccounts = [2, 4] ∧ roster.isPartitioned = true ∧
      roster.perform (.activate 1 0 0 4) = roster ∧ numberedAnyhow.ids.Nodup ∧ numberedAnyhow.Partition := by
  intro calls roster
  obtain ⟨⟨-, passes⟩, -, -, acceptance, complete⟩ := after_partition 5 calls
  have unique : numberedAnyhow.ids.Nodup := by decide
  exact ⟨by decide, by decide, passes, acceptance.refused (.activate 1 0 0 4) (by rfl), unique,
    (complete numberedAnyhow unique).mp (by decide +kernel)⟩

end Stablecoin.Roster
