/-!
Books: what a ledger records for each account. A book holds at most one entry for
an account and lists its entries in ascending order of the accounts, which is also
the order in which amounts are summed up.
-/
namespace Stablecoin

/-- The number of an account. -/
abbrev AccountId := Nat

/-- At most one entry for each account, in ascending order of the accounts. -/
structure Book (β : Type) where
  entries : List (AccountId × β)
  ascending : entries.Pairwise (fun a b => a.1 < b.1) := by exact List.Pairwise.nil

namespace Book
variable {β γ : Type}

/-- The entries with `value` for the account, at its place. -/
def insertEntry (id : AccountId) (value : β) : List (AccountId × β) → List (AccountId × β)
  | [] => [(id, value)]
  | entry :: rest =>
    if id < entry.1 then (id, value) :: entry :: rest
    else if id = entry.1 then (id, value) :: rest
    else entry :: insertEntry id value rest

theorem mem_insertEntry {id : AccountId} {value : β} {entries : List (AccountId × β)} {entry : AccountId × β}
    (member : entry ∈ insertEntry id value entries) : entry = (id, value) ∨ entry ∈ entries := by
  induction entries with
  | nil => simpa [insertEntry] using member
  | cons head rest ih =>
    simp only [insertEntry] at member
    split at member
    · simpa using member
    · split at member
      · rcases List.mem_cons.mp member with here | there
        · exact .inl here
        · exact .inr (List.mem_cons_of_mem _ there)
      · rcases List.mem_cons.mp member with here | there
        · exact .inr (here ▸ List.mem_cons_self)
        · rcases ih there with new | old
          · exact .inl new
          · exact .inr (List.mem_cons_of_mem _ old)

theorem insertEntry_ascending (id : AccountId) (value : β) {entries : List (AccountId × β)}
    (ascending : entries.Pairwise (fun a b => a.1 < b.1)) :
    (insertEntry id value entries).Pairwise (fun a b => a.1 < b.1) := by
  induction entries with
  | nil => simp [insertEntry]
  | cons head rest ih =>
    have ⟨above, tail⟩ := List.pairwise_cons.mp ascending
    simp only [insertEntry]
    split
    · rename_i less
      refine List.pairwise_cons.mpr ⟨?_, ascending⟩
      intro entry member
      rcases List.mem_cons.mp member with here | there
      · exact here ▸ less
      · exact Nat.lt_trans less (above entry there)
    · rename_i notLess
      split
      · rename_i same
        exact List.pairwise_cons.mpr ⟨fun entry member => same ▸ above entry member, tail⟩
      · rename_i different
        refine List.pairwise_cons.mpr ⟨?_, ih tail⟩
        intro entry member
        rcases mem_insertEntry member with new | old
        · exact new ▸ Nat.lt_of_le_of_ne (Nat.le_of_not_lt notLess) (Ne.symm different)
        · exact above entry old

/-- The book without entries. -/
def empty : Book β := { entries := [] }

instance : Inhabited (Book β) := ⟨empty⟩

/-- What the book records for the account. -/
def get? (book : Book β) (id : AccountId) : Option β := book.entries.lookup id

/-- The book has an entry for the account. -/
def Has (book : Book β) (id : AccountId) : Prop := id ∈ book.entries.map (·.1)

instance (book : Book β) (id : AccountId) : Decidable (book.Has id) :=
  inferInstanceAs (Decidable (id ∈ book.entries.map (·.1)))

def size (book : Book β) : Nat := book.entries.length

/-- The accounts with an entry, ascending. -/
def accounts (book : Book β) : List AccountId := book.entries.map (·.1)

/-- The recorded values in the order of the accounts. -/
def values (book : Book β) : List β := book.entries.map (·.2)

/-- Records `value` for the account, in place of what stood there. -/
def insert (book : Book β) (id : AccountId) (value : β) : Book β where
  entries := insertEntry id value book.entries
  ascending := insertEntry_ascending id value book.ascending

/-- Strikes the entry of the account. -/
def erase (book : Book β) (id : AccountId) : Book β where
  entries := book.entries.filter (·.1 != id)
  ascending := book.ascending.filter _

/-- Changes every recorded value. -/
def map (f : β → γ) (book : Book β) : Book γ where
  entries := book.entries.map fun entry => (entry.1, f entry.2)
  ascending := List.pairwise_map.mpr book.ascending

/-- The book whose entries are recorded one after another. -/
def ofList (entries : List (AccountId × β)) : Book β :=
  entries.foldl (fun book entry => book.insert entry.1 entry.2) empty

end Book
end Stablecoin
