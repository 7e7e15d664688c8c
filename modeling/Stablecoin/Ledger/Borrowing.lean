import Stablecoin.Ledger.Basic

namespace Stablecoin

/-- What an accepted opening, closing or adjustment changes. -/
structure TroveChange (α : Type) where
  collateral : α
  debt : α
  /-- The borrowing fee, in stablecoin. -/
  fee : α
deriving Repr

namespace Ledger
open Number (tolerance)
variable {α : Type} [Number α]

/-- Opens a trove with the collateral and lends the net debt; the debt of the trove
    also covers the fee and the gas reserve. -/
def openTrove (ledger : Ledger α) (account : AccountId) (collateral netDebt : α) :
    Except (Refusal α) (TroveChange α × Ledger α) := do
  let terms := ledger.terms
  if ledger.troves.Has account then throw (.troveExists account)
  if collateral ≤ 0 ∨ Number.isFinite collateral = false then throw (.invalidAmount collateral)
  if Number.isFinite netDebt = false ∨ netDebt + tolerance < terms.minNetDebt then
    throw (.debtBelowMinimum netDebt terms.minNetDebt)
  let fee := if ledger.InRecovery then 0 else netDebt * ledger.borrowingRate
  let debt := netDebt + fee + terms.gasCompensation
  let icr := ratio collateral debt ledger.price
  let minimum := if ledger.InRecovery then terms.ccr else terms.mcr
  if icr.Below (.of minimum) then throw (.ratioBelowMinimum icr.toNumber minimum)
  let tcr := ledger.tcrAfter collateral debt
  if ¬ ledger.InRecovery ∧ tcr.Below (.of terms.ccr) then
    throw (.systemBelowCritical tcr.toNumber terms.ccr)
  let lent := { ledger with troves := ledger.troves.insert account ⟨collateral, debt⟩ }.credit account netDebt
  return (⟨collateral, debt, fee⟩,
    { lent with
      feePool := lent.feePool + fee
      gasPool := lent.gasPool + terms.gasCompensation
      supply := lent.supply + debt })

/-- Repays a trove and returns its collateral. The gas reserve is burned from the
    pool and not repaid by the owner. -/
def closeTrove (ledger : Ledger α) (account : AccountId) : Except (Refusal α) (TroveChange α × Ledger α) := do
  let some trove := ledger.troves.get? account | throw (.noTrove account)
  if ledger.troves.size ≤ 1 then throw .onlyOneTrove
  if ledger.InRecovery then throw .recoveryMode
  let tcr := ledger.tcrAfter (-trove.collateral) (-trove.debt)
  if tcr.Below (.of ledger.terms.ccr) then throw (.systemBelowCritical tcr.toNumber ledger.terms.ccr)
  let gas := Number.min ledger.terms.gasCompensation trove.debt
  let paid ← ledger.debit account (trove.debt - gas)
  return (⟨-trove.collateral, -trove.debt, 0⟩,
    { paid with
      gasPool := paid.gasPool - gas
      supply := paid.supply - trove.debt
      troves := paid.troves.erase account })

/-- Puts an amount into a balance, or takes it out where it is negative. -/
def move (ledger : Ledger α) (account : AccountId) (amount : α) : Except (Refusal α) (Ledger α) :=
  if amount < 0 then ledger.debit account (-amount) else pure (ledger.credit account amount)

/-- Checks the ratios that an adjustment leads to. In recovery no ratio may fall, and a
    trove that draws debt must reach the critical ratio. -/
def checkAdjusted (ledger : Ledger α) (trove : Trove α) (collateralDelta debtDelta fee : α) :
    Except (Refusal α) Unit := do
  let terms := ledger.terms
  let before := trove.icr ledger.price
  let icr := ratio (trove.collateral + collateralDelta) (trove.debt + debtDelta + fee) ledger.price
  if ledger.InRecovery then
    if 0 < debtDelta ∧ icr.Below (.of terms.ccr) then throw (.ratioBelowMinimum icr.toNumber terms.ccr)
    if (icr.raise tolerance).Below before then throw (.ratioBelowMinimum icr.toNumber before.toNumber)
  else
    if icr.Below (.of terms.mcr) then throw (.ratioBelowMinimum icr.toNumber terms.mcr)
    let tcr := ledger.tcrAfter collateralDelta (debtDelta + fee)
    if tcr.Below (.of terms.ccr) then throw (.systemBelowCritical tcr.toNumber terms.ccr)

/-- Changes a trove: positive amounts add collateral and draw debt, negative ones
    withdraw and repay. In recovery no collateral may leave. -/
def adjustTrove (ledger : Ledger α) (account : AccountId) (collateralDelta debtDelta : α) :
    Except (Refusal α) (TroveChange α × Ledger α) := do
  let terms := ledger.terms
  let some trove := ledger.troves.get? account | throw (.noTrove account)
  if Number.abs collateralDelta ≤ tolerance ∧ Number.abs debtDelta ≤ tolerance then throw (.invalidAmount 0)
  if Number.isFinite collateralDelta = false ∨ Number.isFinite debtDelta = false then
    throw (.invalidAmount (collateralDelta + debtDelta))
  if ledger.InRecovery ∧ collateralDelta < 0 then throw .recoveryMode
  let fee := if 0 < debtDelta ∧ ¬ ledger.InRecovery then debtDelta * ledger.borrowingRate else 0
  let collateral := trove.collateral + collateralDelta
  let debt := trove.debt + debtDelta + fee
  if collateral ≤ tolerance then throw (.invalidAmount collateralDelta)
  let netDebt := debt - terms.gasCompensation
  if netDebt + tolerance < terms.minNetDebt then throw (.debtBelowMinimum netDebt terms.minNetDebt)
  let held := ledger.balance account
  if debtDelta < 0 ∧ held + tolerance < -debtDelta then throw (.insufficientBalance held (-debtDelta))
  ledger.checkAdjusted trove collateralDelta debtDelta fee
  let moved ← ledger.move account debtDelta
  return (⟨collateralDelta, debtDelta + fee, fee⟩,
    { moved with
      feePool := moved.feePool + fee
      supply := moved.supply + (debtDelta + fee)
      troves := moved.troves.insert account ⟨collateral, debt⟩ })

end Ledger
end Stablecoin
