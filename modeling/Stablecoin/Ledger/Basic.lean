import Stablecoin.Book
import Stablecoin.Ledger.Refusal
import Stablecoin.Parameters
import Stablecoin.Ratio

/-!
The ledger of the protocol: the troves, the stablecoin that accounts hold or have
deposited in the stability pool, the gains that the pool owes its depositors, and
the reserves of the system. This module holds the ledger itself and what can be
read from it; the calls that change it stand in the modules beside it.
-/
namespace Stablecoin

/-- Collateral posted for a debt. The debt includes the borrowing fee and the gas reserve. -/
structure Trove (α : Type) where
  collateral : α
  debt : α
deriving Repr

structure Ledger (α : Type) where
  terms : Terms α
  /-- The price of the collateral. -/
  price : α
  troves : Book (Trove α) := Book.empty
  balances : Book α := Book.empty
  deposits : Book α := Book.empty
  /-- Collateral owed to depositors. -/
  collateralGains : Book α := Book.empty
  /-- Reward tokens owed to depositors. -/
  rewardGains : Book α := Book.empty
  /-- Collateral held by the stability pool. -/
  poolCollateral : α
  gasPool : α
  /-- Borrowing fees, held by the protocol. -/
  feePool : α
  supply : α
  baseRate : α
  /-- Collateral returned to owners above what a liquidation or redemption took. -/
  surplus : α
  redemptionFees : α

/-- The whole system at one point in time. -/
structure Snapshot (α : Type) where
  collateralPrice : α
  numTroves : Nat
  totalCollateral : α
  totalDebt : α
  tcr : Ratio α
  recoveryMode : Bool
  /-- The ratio of the trove that is secured worst, zero if there is none. -/
  lastIcr : Ratio α
  poolStable : α
  poolCollateral : α
  supply : α

variable {α : Type} [Number α]

/-- The collateral ratio of one trove. -/
def Trove.icr (trove : Trove α) (price : α) : Ratio α :=
  if trove.debt ≤ 0 then .unbounded else .of (trove.collateral * price / trove.debt)

namespace Ledger
open Number (tolerance)

/-- The ledger before the first call. -/
def new (terms : Terms α) (price : α) : Ledger α where
  terms := terms
  price := price
  poolCollateral := 0
  gasPool := 0
  feePool := 0
  supply := 0
  baseRate := 0
  surplus := 0
  redemptionFees := 0

/-- The ratio of collateral to debt; a debt within the tolerance counts as none. -/
def ratio (collateral debt price : α) : Ratio α :=
  if debt ≤ tolerance then .unbounded else .of (collateral * price / debt)

def totalCollateral (ledger : Ledger α) : α := Number.sum (ledger.troves.values.map (·.collateral))

def totalDebt (ledger : Ledger α) : α := Number.sum (ledger.troves.values.map (·.debt))

def totalDeposits (ledger : Ledger α) : α := Number.sum ledger.deposits.values

/-- The collateral ratio of the whole system. -/
def tcr (ledger : Ledger α) : Ratio α := ratio ledger.totalCollateral ledger.totalDebt ledger.price

/-- The ratio of the system once its totals have changed as given. -/
def tcrAfter (ledger : Ledger α) (collateralChange debtChange : α) : Ratio α :=
  ratio (ledger.totalCollateral + collateralChange) (ledger.totalDebt + debtChange) ledger.price

/-- The system is secured below its critical ratio. -/
def InRecovery (ledger : Ledger α) : Prop := ledger.tcr.Below (.of ledger.terms.ccr)

instance (ledger : Ledger α) : Decidable ledger.InRecovery :=
  inferInstanceAs (Decidable (Ratio.Below _ _))

def icr? (ledger : Ledger α) (account : AccountId) : Option (Ratio α) :=
  (ledger.troves.get? account).map (·.icr ledger.price)

def balance (ledger : Ledger α) (account : AccountId) : α := (ledger.balances.get? account).getD 0

def deposit (ledger : Ledger α) (account : AccountId) : α := (ledger.deposits.get? account).getD 0

/-- The accounts whose deposit is above the tolerance, ascending. -/
def depositors (ledger : Ledger α) : List AccountId :=
  (ledger.deposits.entries.filter fun entry => decide (tolerance < entry.2)).map (·.1)

def borrowingRate (ledger : Ledger α) : α :=
  Number.min (ledger.terms.borrowingFeeFloor + ledger.baseRate) ledger.terms.maxBorrowingFee

def redemptionRate (ledger : Ledger α) : α :=
  Number.min (ledger.terms.redemptionFeeFloor + ledger.baseRate) 1

/-- The first trove is secured worse than the second; accounts decide between
    ratios of which neither is below the other. -/
def Precedes (a b : AccountId × Ratio α) : Prop :=
  a.2.Below b.2 ∨ ¬ b.2.Below a.2 ∧ a.1 < b.1

instance (a b : AccountId × Ratio α) : Decidable (Precedes a b) :=
  inferInstanceAs (Decidable (_ ∨ _))

/-- Puts a trove into a list that starts with the best secured one. -/
def place (trove : AccountId × Ratio α) : List (AccountId × Ratio α) → List (AccountId × Ratio α)
  | [] => [trove]
  | best :: rest => if Precedes trove best then best :: place trove rest else trove :: best :: rest

/-- The accounts of the troves and their ratios, from the worst secured one up. -/
def sortedTroves (ledger : Ledger α) : List (AccountId × Ratio α) :=
  (ledger.troves.entries.foldl (fun best entry => place (entry.1, entry.2.icr ledger.price) best) []).reverse

def snapshot (ledger : Ledger α) : Snapshot α where
  collateralPrice := ledger.price
  numTroves := ledger.troves.size
  totalCollateral := ledger.totalCollateral
  totalDebt := ledger.totalDebt
  tcr := ledger.tcr
  recoveryMode := decide ledger.InRecovery
  lastIcr := (ledger.sortedTroves.head?.map (·.2)).getD (.of 0)
  poolStable := ledger.totalDeposits
  poolCollateral := ledger.poolCollateral
  supply := ledger.supply

/-- Adds an amount to an entry of a book, from zero if there is none. -/
def addTo (book : Book α) (account : AccountId) (amount : α) : Book α :=
  book.insert account ((book.get? account).getD 0 + amount)

def credit (ledger : Ledger α) (account : AccountId) (amount : α) : Ledger α :=
  { ledger with balances := addTo ledger.balances account amount }

/-- Takes an amount from a balance. A balance short by no more than the tolerance
    covers it and is used up. -/
def debit (ledger : Ledger α) (account : AccountId) (amount : α) : Except (Refusal α) (Ledger α) :=
  let held := ledger.balance account
  if held + tolerance < amount then throw (.insufficientBalance held amount)
  else pure { ledger with balances := ledger.balances.insert account (Number.max (held - amount) 0) }

/-- Pays stablecoin from one account to another. -/
def transfer (ledger : Ledger α) (sender receiver : AccountId) (amount : α) : Except (Refusal α) (Ledger α) := do
  if amount ≤ 0 ∨ Number.isFinite amount = false then throw (.invalidAmount amount)
  let paid ← ledger.debit sender amount
  return paid.credit receiver amount

def setPrice (ledger : Ledger α) (price : α) : Ledger α := { ledger with price }

/-- Lets one period pass: the base rate decays. -/
def advancePeriod (ledger : Ledger α) : Ledger α :=
  let decay := Number.pow (0.5 : α) (1 / ledger.terms.baseRateHalfLife)
  { ledger with baseRate := ledger.baseRate * decay }

end Ledger
end Stablecoin
