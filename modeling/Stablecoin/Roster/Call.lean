import Stablecoin.Roster

namespace Stablecoin.Roster

/-- A call that moves an account. -/
inductive Call (α : Type) where
  | activate (id : AccountId) (targetCr inattention : α) (period : Nat)
  | deactivate (id : AccountId) (period : Nat)

/-- The account that the call is about. -/
def Call.account {α : Type} : Call α → AccountId
  | .activate id .. => id
  | .deactivate id _ => id

variable {α : Type}

/-- The roster of an accepted call. -/
def perform? (roster : Roster α) : Call α → Option (Roster α)
  | .activate id targetCr inattention period => roster.activate? id targetCr inattention period
  | .deactivate id period => roster.deactivate? id period

/-- The roster as the call leaves it. -/
def perform (roster : Roster α) : Call α → Roster α
  | .activate id targetCr inattention period => roster.activate id targetCr inattention period
  | .deactivate id period => roster.deactivate id period

/-- The roster after the calls, whichever of them are accepted. -/
def after (roster : Roster α) (calls : List (Call α)) : Roster α := calls.foldl perform roster

/-- The account that the call makes active. -/
def activation? (roster : Roster α) : Call α → Option AccountId
  | .activate id targetCr inattention period => (roster.activate? id targetCr inattention period).map fun _ => id
  | .deactivate .. => none

/-- The accounts that the calls make active, in their order and as often as they are made so. -/
def activations (roster : Roster α) : List (Call α) → List AccountId
  | [] => []
  | call :: calls => (roster.activation? call).toList ++ (roster.perform call).activations calls

end Stablecoin.Roster
