import Stablecoin.Book
import Stablecoin.Number

/-!
The roster of borrowers: every account of a run, divided into the active ones, in
the order of their activation, and the idle ones, ascending. An account that is
activated takes on the traits that it borrows with.
-/
namespace Stablecoin

/-- An account and the traits that it has borrowed with last. -/
structure Borrower (α : Type) where
  id : AccountId
  active : Bool
  /-- The collateral ratio that the borrower steers to. -/
  targetCr : α
  /-- The relative drift of the ratio that the borrower tolerates. -/
  inattention : α
  openedIn : Option Nat
  deactivatedIn : Option Nat
deriving Repr

structure Roster (α : Type) where
  borrowers : Array (Borrower α)
  /-- The active accounts in the order of their activation. -/
  active : List AccountId
  /-- The other accounts. -/
  idle : Book Unit

/-- The account that holds the first trove and keeps it for the whole run. -/
def whale : AccountId := 0

variable {α : Type} [Number α]

/-- How far the ratio lies from the target, relative to the target. -/
def Borrower.deviation (borrower : Borrower α) (icr : α) : α :=
  if borrower.targetCr ≤ 0 then 0 else (icr - borrower.targetCr) / borrower.targetCr

namespace Roster

/-- A roster of accounts without traits, all of them idle. Accounts are numbered by
    32-bit words, and the size wraps around as they do. -/
def ofSize (size : Nat) : Roster α :=
  let ids := List.range (size % UInt32.size)
  { borrowers := (ids.map fun id => ⟨id, false, 0, 0, none, none⟩).toArray
    active := []
    idle :=
      { entries := ids.map (·, ())
        ascending := List.pairwise_map.mpr List.pairwise_lt_range } }

def size (roster : Roster α) : Nat := roster.borrowers.size

def get? (roster : Roster α) (id : AccountId) : Option (Borrower α) := roster.borrowers[id]?

def idleAccounts (roster : Roster α) : List AccountId := roster.idle.accounts

def IsActive (roster : Roster α) (id : AccountId) : Prop := (roster.get? id).any (·.active) = true

instance (roster : Roster α) (id : AccountId) : Decidable (roster.IsActive id) :=
  inferInstanceAs (Decidable (_ = true))

/-- The active accounts without the whale. -/
def activeBorrowers (roster : Roster α) : List AccountId := roster.active.filter (· != whale)

/-- Makes an idle account active with the given traits; nothing for any other account. -/
def activate? (roster : Roster α) (id : AccountId) (targetCr inattention : α) (period : Nat) : Option (Roster α) :=
  if roster.idle.Has id then
    some
      { borrowers := roster.borrowers.modify id fun borrower =>
          { borrower with active := true, targetCr, inattention, openedIn := some period, deactivatedIn := none }
        active := roster.active ++ [id]
        idle := roster.idle.erase id }
  else none

/-- Makes an active account idle; nothing for any other account. -/
def deactivate? (roster : Roster α) (id : AccountId) (period : Nat) : Option (Roster α) :=
  if id ∈ roster.active then
    some
      { borrowers := roster.borrowers.modify id fun borrower =>
          { borrower with active := false, deactivatedIn := some period }
        active := roster.active.erase id
        idle := roster.idle.insert id () }
  else none

/-- The roster with the account active, or as it was if the account was not idle. -/
def activate (roster : Roster α) (id : AccountId) (targetCr inattention : α) (period : Nat) : Roster α :=
  (roster.activate? id targetCr inattention period).getD roster

/-- The roster with the account idle, or as it was if the account was not active. -/
def deactivate (roster : Roster α) (id : AccountId) (period : Nat) : Roster α :=
  (roster.deactivate? id period).getD roster

/-- Checks that active and idle accounts divide the roster and agree with what is
    noted for each account. -/
def isPartitioned (roster : Roster α) : Bool :=
  roster.active.length + roster.idle.size == roster.size &&
    decide roster.active.Nodup &&
    roster.borrowers.all fun borrower =>
      let isActive := roster.active.contains borrower.id
      isActive != decide (roster.idle.Has borrower.id) && isActive == borrower.active

end Roster
end Stablecoin
