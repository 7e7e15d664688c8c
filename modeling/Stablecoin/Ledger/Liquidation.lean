import Stablecoin.Ledger.Basic

/-!
Liquidation. A trove below the minimum ratio is closed against its owner: the
stability pool cancels as much of its debt as it can and takes the collateral for
it, and what is left goes to the other troves in proportion to their collateral.
In recovery a trove below the ratio of the system goes too, if the pool covers all
of its debt, and its owner keeps the collateral above the minimum ratio.
-/
namespace Stablecoin

/-- What became of a liquidated trove. -/
structure Liquidation (α : Type) where
  account : AccountId
  collateral : α
  debt : α
  /-- Debt cancelled against deposits. -/
  debtOffset : α
  collateralToPool : α
  debtRedistributed : α
  collateralRedistributed : α
  /-- Collateral returned to the owner. -/
  surplus : α
deriving Repr

namespace Ledger
open Number (tolerance)
variable {α : Type} [Number α]

/-- The trove may be liquidated in the state of the ledger. -/
def Liquidatable (ledger : Ledger α) (trove : Trove α) : Prop :=
  let icr := trove.icr ledger.price
  icr.Below (.of ledger.terms.mcr) ∨
    ledger.InRecovery ∧ icr.Below ledger.tcr ∧ trove.debt ≤ ledger.totalDeposits + tolerance

instance (ledger : Ledger α) (trove : Trove α) : Decidable (ledger.Liquidatable trove) :=
  inferInstanceAs (Decidable (_ ∨ _ ∧ _ ∧ _))

/-- The trove that is secured worst, if it is not the only one and may be liquidated. -/
def nextLiquidation? (ledger : Ledger α) : Option AccountId := do
  guard (1 < ledger.troves.size)
  let (account, _) ← ledger.sortedTroves.head?
  let trove ← ledger.troves.get? account
  if ledger.Liquidatable trove then some account else none

/-- Some trove waits for liquidation. -/
def HasPendingLiquidations (ledger : Ledger α) : Prop := ledger.nextLiquidation?.isSome = true

instance (ledger : Ledger α) : Decidable ledger.HasPendingLiquidations :=
  inferInstanceAs (Decidable (_ = true))

/-- Spreads debt and collateral over all troves in proportion to their collateral. -/
def redistribute (ledger : Ledger α) (debt collateral : α) : Ledger α :=
  let total := ledger.totalCollateral
  if total ≤ tolerance then ledger
  else
    { ledger with
      troves := ledger.troves.map fun trove =>
        let share := trove.collateral / total
        { debt := trove.debt + debt * share, collateral := trove.collateral + collateral * share } }

/-- Cancels debt against the deposits and owes the collateral to the depositors, both
    in proportion to the deposits. -/
def offset (ledger : Ledger α) (debt collateral : α) : Ledger α :=
  let total := ledger.totalDeposits
  if total ≤ tolerance then ledger
  else
    let remaining := Number.max (1 - debt / total) 0
    { ledger with
      collateralGains := ledger.deposits.entries.foldl
        (fun gains entry => addTo gains entry.1 (collateral * (entry.2 / total))) ledger.collateralGains
      deposits := ledger.deposits.map (· * remaining)
      poolCollateral := ledger.poolCollateral + collateral
      supply := ledger.supply - debt }

/-- Takes the trove of the account out of the ledger and pays its gas reserve to the
    liquidator. -/
def seize (ledger : Ledger α) (account liquidator : AccountId) (trove : Trove α) : Ledger α :=
  let gas := Number.min ledger.terms.gasCompensation trove.debt
  { ledger with
    troves := ledger.troves.erase account
    gasPool := ledger.gasPool - gas }.credit liquidator gas

/-- Settles a seized trove against the pool alone. The pool takes collateral up to the
    minimum ratio, and the owner keeps what is above. -/
def settleCapped (seized : Ledger α) (account : AccountId) (trove : Trove α) : Liquidation α × Ledger α :=
  let capped := Number.min (trove.debt * seized.terms.mcr / seized.price) trove.collateral
  let surplus := trove.collateral - capped
  let settled := seized.offset trove.debt capped
  ({ account, surplus
     collateral := trove.collateral
     debt := trove.debt
     debtOffset := trove.debt
     collateralToPool := capped
     debtRedistributed := 0
     collateralRedistributed := 0 },
    { settled with surplus := settled.surplus + surplus })

/-- Settles a seized trove in full: the pool takes what it can cancel, and the other
    troves take the rest. -/
def settleInFull (seized : Ledger α) (account : AccountId) (trove : Trove α) : Liquidation α × Ledger α :=
  let debtOffset := Number.min trove.debt seized.totalDeposits
  let collateralToPool := trove.collateral * debtOffset / trove.debt
  let debtRedistributed := trove.debt - debtOffset
  let collateralRedistributed := trove.collateral - collateralToPool
  ({ account, debtOffset, collateralToPool, debtRedistributed, collateralRedistributed
     collateral := trove.collateral
     debt := trove.debt
     surplus := 0 },
    (seized.offset debtOffset collateralToPool).redistribute debtRedistributed collateralRedistributed)

/-- Liquidates the trove of the account, if it has one. In recovery a trove at or above
    the minimum ratio is settled against the pool alone. -/
def liquidateOne? (ledger : Ledger α) (account liquidator : AccountId) : Option (Liquidation α × Ledger α) := do
  let trove ← ledger.troves.get? account
  let seized := ledger.seize account liquidator trove
  if ledger.InRecovery ∧ ¬ (trove.icr ledger.price).Below (.of ledger.terms.mcr) then
    return seized.settleCapped account trove
  else return seized.settleInFull account trove

/-- Liquidates troves from the worst secured one up, at most `count` of them. Whether
    the next one may go is asked of the ledger that the last one left. -/
def liquidateUpTo (liquidator : AccountId) : Nat → Ledger α → List (Liquidation α) × Ledger α
  | 0, ledger => ([], ledger)
  | count + 1, ledger =>
    match ledger.nextLiquidation?.bind (ledger.liquidateOne? · liquidator) with
    | none => ([], ledger)
    | some (liquidation, left) =>
      let (rest, last) := liquidateUpTo liquidator count left
      (liquidation :: rest, last)

/-- Liquidates up to `count` troves, and refuses if there is none to liquidate. -/
def liquidateTroves (ledger : Ledger α) (liquidator : AccountId) (count : Nat) :
    Except (Refusal α) (List (Liquidation α) × Ledger α) :=
  match ledger.liquidateUpTo liquidator count with
  | ([], _) => throw .nothingToLiquidate
  | (liquidations, left) => pure (liquidations, left)

end Ledger
end Stablecoin
