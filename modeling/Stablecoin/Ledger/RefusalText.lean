import Stablecoin.Decimal.Fixed
import Stablecoin.Decimal.Layout
import Stablecoin.Ledger.Refusal

namespace Stablecoin
open Decimal (fixed text)

/-- An account as messages name it. -/
def accountText (account : AccountId) : String := "#" ++ toString account

namespace Refusal

def message : Refusal Float → String
  | troveExists account => "account " ++ accountText account ++ " already has an active trove"
  | noTrove account => "account " ++ accountText account ++ " has no active trove"
  | ratioBelowMinimum ratio minimum => "ICR " ++ fixed 4 ratio ++ " below minimum " ++ fixed 4 minimum
  | systemBelowCritical ratio critical =>
    "operation would drop TCR to " ++ fixed 4 ratio ++ ", below CCR " ++ fixed 4 critical
  | recoveryMode => "operation not permitted during recovery mode"
  | debtBelowMinimum debt minimum => "net debt " ++ fixed 2 debt ++ " below minimum " ++ fixed 2 minimum
  | insufficientBalance held need => "insufficient balance: have " ++ fixed 2 held ++ ", need " ++ fixed 2 need
  | nothingToLiquidate => "nothing to liquidate"
  | onlyOneTrove => "only one trove in the system"
  | redemptionBlocked => "cannot redeem when TCR < MCR"
  | nothingToRedeem => "no trove eligible for redemption"
  | noDeposit account => "account " ++ accountText account ++ " has no stability deposit"
  | pendingLiquidations => "cannot withdraw while troves with ICR < MCR are pending liquidation"
  | invalidAmount amount => "invalid amount " ++ text amount

end Refusal
end Stablecoin
