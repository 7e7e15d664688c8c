import Stablecoin.Book
import Stablecoin.Number

namespace Stablecoin

/-- Why a call is refused. -/
inductive Refusal (α : Type) where
  | troveExists (account : AccountId)
  | noTrove (account : AccountId)
  | ratioBelowMinimum (ratio minimum : α)
  | systemBelowCritical (ratio critical : α)
  | recoveryMode
  | debtBelowMinimum (debt minimum : α)
  | insufficientBalance (held need : α)
  | nothingToLiquidate
  | onlyOneTrove
  /-- The whole system is under water, and nothing may be drawn from it. -/
  | redemptionBlocked
  | nothingToRedeem
  | noDeposit (account : AccountId)
  /-- Troves wait for liquidation, and the pool must stay to absorb them. -/
  | pendingLiquidations
  | invalidAmount (amount : α)
deriving Repr

end Stablecoin
