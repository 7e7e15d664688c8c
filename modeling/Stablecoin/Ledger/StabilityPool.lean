import Stablecoin.Ledger.Basic

namespace Stablecoin

/-- What the pool owes a depositor. -/
structure Gains (α : Type) where
  collateral : α
  reward : α
deriving Repr

namespace Ledger
open Number (tolerance)
variable {α : Type} [Number α]

/-- Pays out everything owed to the account. -/
def payOutGains (ledger : Ledger α) (account : AccountId) : Gains α × Ledger α :=
  let collateral := (ledger.collateralGains.get? account).getD 0
  let reward := (ledger.rewardGains.get? account).getD 0
  (⟨collateral, reward⟩,
    { ledger with
      collateralGains := ledger.collateralGains.erase account
      rewardGains := ledger.rewardGains.erase account
      poolCollateral := Number.max (ledger.poolCollateral - collateral) 0 })

/-- Moves an amount from the balance of the account into its deposit. -/
def provide (ledger : Ledger α) (account : AccountId) (amount : α) : Except (Refusal α) (Ledger α) := do
  if amount ≤ 0 ∨ Number.isFinite amount = false then throw (.invalidAmount amount)
  let paid ← ledger.debit account amount
  let settled := (paid.payOutGains account).2
  return { settled with deposits := addTo settled.deposits account amount }

/-- Moves an amount from the deposit of the account into its balance, no more than
    is deposited, and answers what was moved. An entry that falls to the tolerance
    is struck. -/
def withdraw (ledger : Ledger α) (account : AccountId) (amount : α) : Except (Refusal α) (α × Ledger α) := do
  if amount ≤ 0 ∨ Number.isFinite amount = false then throw (.invalidAmount amount)
  let deposit := ledger.deposit account
  if deposit ≤ tolerance then throw (.noDeposit account)
  if 1 < ledger.troves.size ∧
      ledger.troves.values.any (fun trove => (trove.icr ledger.price).Below (.of ledger.terms.mcr)) then
    throw .pendingLiquidations
  let settled := (ledger.payOutGains account).2
  let withdrawn := Number.min amount deposit
  let left := deposit - withdrawn
  let deposits :=
    if left ≤ tolerance then settled.deposits.erase account else settled.deposits.insert account left
  return (withdrawn, { settled with deposits }.credit account withdrawn)

/-- Pays out the gains of an account that has a deposit or is owed something. -/
def claim (ledger : Ledger α) (account : AccountId) : Except (Refusal α) (Gains α × Ledger α) :=
  if ledger.deposit account ≤ tolerance ∧ ¬ ledger.collateralGains.Has account ∧
      ¬ ledger.rewardGains.Has account then
    throw (.noDeposit account)
  else pure (ledger.payOutGains account)

/-- Owes reward tokens to the depositors in proportion to their deposits, and answers
    how many. -/
def issueRewards (ledger : Ledger α) (amount : α) : α × Ledger α :=
  let total := ledger.totalDeposits
  if total ≤ tolerance ∨ amount ≤ 0 then (0, ledger)
  else
    (amount,
      { ledger with
        rewardGains := ledger.deposits.entries.foldl
          (fun gains entry => addTo gains entry.1 (amount * entry.2 / total)) ledger.rewardGains })

end Ledger
end Stablecoin
