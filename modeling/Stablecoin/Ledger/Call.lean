import Stablecoin.Ledger.Borrowing
import Stablecoin.Ledger.Liquidation
import Stablecoin.Ledger.Redemption
import Stablecoin.Ledger.StabilityPool

namespace Stablecoin

/-- A call to the protocol. -/
inductive Call (α : Type) where
  | setPrice (price : α)
  | advancePeriod
  | openTrove (account : AccountId) (collateral netDebt : α)
  | closeTrove (account : AccountId)
  | adjustTrove (account : AccountId) (collateralDelta debtDelta : α)
  | liquidateTroves (liquidator : AccountId) (count : Nat)
  | redeem (redeemer : AccountId) (amount : α)
  | provide (account : AccountId) (amount : α)
  | withdraw (account : AccountId) (amount : α)
  | claim (account : AccountId)
  | issueRewards (amount : α)
  | transfer (sender receiver : AccountId) (amount : α)

/-- What an accepted call answers. -/
inductive Answer (α : Type) where
  | done
  | changed (change : TroveChange α)
  | liquidated (liquidations : List (Liquidation α))
  | redeemed (redemption : Redemption α)
  | amount (amount : α)
  | claimed (gains : Gains α)

namespace Ledger
variable {α : Type} [Number α]

/-- The ledger of an accepted call, or the ledger as it was. -/
def settle {β : Type} (ledger : Ledger α) (result : Except (Refusal α) (β × Ledger α)) (answer : β → Answer α) :
    Except (Refusal α) (Answer α) × Ledger α :=
  match result with
  | .ok (value, left) => (.ok (answer value), left)
  | .error refusal => (.error refusal, ledger)

/-- Answers a call, together with the ledger that it leaves. -/
def perform (ledger : Ledger α) : Call α → Except (Refusal α) (Answer α) × Ledger α
  | .setPrice price => (.ok .done, ledger.setPrice price)
  | .advancePeriod => (.ok .done, ledger.advancePeriod)
  | .openTrove account collateral netDebt => ledger.settle (ledger.openTrove account collateral netDebt) .changed
  | .closeTrove account => ledger.settle (ledger.closeTrove account) .changed
  | .adjustTrove account collateralDelta debtDelta =>
    ledger.settle (ledger.adjustTrove account collateralDelta debtDelta) .changed
  | .liquidateTroves liquidator count => ledger.settle (ledger.liquidateTroves liquidator count) .liquidated
  | .redeem redeemer amount =>
    let (result, left) := ledger.redeem redeemer amount
    (result.map .redeemed, left)
  | .provide account amount => ledger.settle ((ledger.provide account amount).map ((), ·)) fun _ => .done
  | .withdraw account amount => ledger.settle (ledger.withdraw account amount) .amount
  | .claim account => ledger.settle (ledger.claim account) .claimed
  | .issueRewards amount =>
    let (issued, left) := ledger.issueRewards amount
    (.ok (.amount issued), left)
  | .transfer sender receiver amount =>
    ledger.settle ((ledger.transfer sender receiver amount).map ((), ·)) fun _ => .done

/-- The ledger after the calls, whatever each of them answered. -/
def after (ledger : Ledger α) (calls : List (Call α)) : Ledger α :=
  calls.foldl (fun ledger call => (ledger.perform call).2) ledger

end Ledger
end Stablecoin
