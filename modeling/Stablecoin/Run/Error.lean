import Stablecoin.Ledger.RefusalText
import Stablecoin.Parameters.Validation

namespace Stablecoin

/-- Why a run cannot be set up, or set up further. -/
inductive SetupFault (α : Type) where
  | alreadyBootstrapped
  | whaleRefused (refusal : Refusal α)
  | poolSeedRefused (refusal : Refusal α)
  /-- No stablecoin is left outside the stability pool. -/
  | nothingCirculates
  | notRunning
  | accountUnavailable (account : AccountId)
  | seedRefused (account : AccountId) (refusal : Refusal α)
  | pricesAfterBootstrap
deriving Repr

/-- An invariant of the market that a period has broken. -/
inductive Violation (α : Type) where
  | stablePrice (price : α)
  /-- More collateral was liquidated than was ever added. -/
  | collateral (liquidated added : α)
  | roster
deriving Repr

/-- Why a recorded price path cannot be replayed. -/
inductive PathFault (α : Type) where
  | tooShort
  | notPositive (price : α)
deriving Repr

/-- Why a run ends. -/
inductive RunError (α : Type) where
  | setup (fault : SetupFault α)
  | violation (period : Nat) (violation : Violation α)
  | parameters (fault : ParameterFault)
  /-- The parameters of the traits make no distributions. -/
  | noTraitModel
  | path (fault : PathFault α)
deriving Repr

open Decimal (text)

def SetupFault.message : SetupFault Float → String
  | alreadyBootstrapped => "bootstrap already ran"
  | whaleRefused refusal => "whale trove rejected: " ++ refusal.message
  | poolSeedRefused refusal => "stability seed rejected: " ++ refusal.message
  | nothingCirculates => "no stablecoin left outside the stability pool"
  | notRunning => "troves can only be seeded while running"
  | accountUnavailable account => "account " ++ accountText account ++ " is not available"
  | seedRefused account refusal => "seeded trove for " ++ accountText account ++ " rejected: " ++ refusal.message
  | pricesAfterBootstrap => "price path must be set before bootstrap"

def Violation.message : Violation Float → String
  | stablePrice price => "stablecoin price " ++ text price ++ " is not positive"
  | collateral liquidated added =>
    "collateral liquidated " ++ text liquidated ++ " exceeds collateral added " ++ text added
  | roster => "account pool is no longer partitioned"

def PathFault.message : PathFault Float → String
  | tooShort => "price path needs at least two points"
  | notPositive price => "price path contains non-positive price " ++ text price

/-- The text of a fault in what a run is configured with. -/
def configurationText (fault : String) : String := "invalid configuration: " ++ fault

def RunError.message : RunError Float → String
  | setup fault => "setup failed: " ++ fault.message
  | violation period broken => "invariant violated in period " ++ toString period ++ ": " ++ broken.message
  | parameters fault => configurationText fault.message
  | noTraitModel => configurationText "trove distribution parameters are invalid"
  | path fault => configurationText fault.message

end Stablecoin
