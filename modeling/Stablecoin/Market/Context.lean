import Stablecoin.Ledger.Borrowing
import Stablecoin.Market.Flows
import Stablecoin.Market.Traits
import Stablecoin.Roster

/-!
What the steps of a period share: the market that they act on, what they know of
the period, and the count of accepted and refused actions. A refused action is
skipped for the period.
-/
namespace Stablecoin
open Stablecoin.Random

/-- The protocol and the accounts that deal with it. -/
structure Market (α : Type) where
  ledger : Ledger α
  roster : Roster α

/-- What every step of a period knows. -/
structure Context (α : Type) where
  parameters : Parameters α
  streams : Streams
  traits : TraitModel α
  period : Nat
  collateralPrice : α
  /-- The price of the stablecoin in the period before. -/
  stablePrice : α
  /-- The price of the reward token in the period before. -/
  rewardPrice : α
  naturalRate : α

/-- How many actions of a step were accepted and refused. -/
structure Tally where
  accepted : Nat := 0
  rejected : Nat := 0
deriving Repr, DecidableEq

namespace Tally

def accept (tally : Tally) : Tally := { tally with accepted := tally.accepted + 1 }

def reject (tally : Tally) : Tally := { tally with rejected := tally.rejected + 1 }

end Tally

variable {α : Type} [Number α]

/-- Tops the account up from the whale so that it holds at least the needed amount.
    A gap within the tolerance is left open. -/
def Ledger.topUp (ledger : Ledger α) (account : AccountId) (need : α) : Except (Refusal α) (Ledger α) :=
  let short := need - ledger.balance account
  if Number.tolerance < short ∧ account ≠ whale then ledger.transfer whale account short else pure ledger

/-- The borrower looks at its trove in this period and finds the ratio further from
    the target than it tolerates. -/
def Market.isTriggered (context : Context α) (market : Market α) (account : AccountId) : Bool :=
  isAttentive context.parameters.borrowing.checkProbability context.streams context.period account &&
    match market.roster.get? account, market.ledger.icr? account with
    | some borrower, some icr => decide (borrower.inattention < Number.abs (borrower.deviation icr.toNumber))
    | _, _ => false

/-- Collateral and stablecoin that a step brought into the system. -/
structure Issuance (α : Type) where
  accounts : List AccountId
  collateralAdded : α
  stableIssued : α
  fee : α
  tally : Tally

def Issuance.none : Issuance α := ⟨[], 0, 0, 0, {}⟩

end Stablecoin
