import Stablecoin.Ledger.Basic

/-!
Redemption: stablecoin is exchanged for the collateral of the troves that are
secured worst among those at or above the minimum ratio. The walk over the troves
changes the ledger as it goes, so a redemption answers with the ledger that it
leaves also where it is refused.
-/
namespace Stablecoin

/-- What a redemption took. -/
structure Redemption (α : Type) where
  redeemed : α
  collateralDrawn : α
  /-- The part of the collateral drawn that the protocol keeps as its fee. -/
  fee : α
  /-- The accounts whose troves were redeemed down to the gas reserve and closed. -/
  closed : List AccountId
deriving Repr

namespace Ledger
open Number (tolerance)
variable {α : Type} [Number α]

/-- A redemption on its way: the ledger, what remains to be redeemed, and what was taken. -/
structure Walk (α : Type) where
  ledger : Ledger α
  remaining : α
  taken : Redemption α

/-- Takes `take` of debt from the trove, which keeps `left` of its net debt. A trove
    that keeps nothing is closed: its gas reserve is burned, and collateral above
    what was drawn goes back to the owner. -/
def Walk.take (walk : Walk α) (account : AccountId) (trove : Trove α) (take left : α) : Walk α :=
  let ledger := walk.ledger
  let gas := ledger.terms.gasCompensation
  let drawn := take / ledger.price
  let closes := left ≤ tolerance
  { ledger :=
      if closes then
        { ledger with
          troves := ledger.troves.erase account
          gasPool := ledger.gasPool - gas
          supply := ledger.supply - gas
          surplus := ledger.surplus + Number.max (trove.collateral - drawn) 0 }
      else
        { ledger with
          troves := ledger.troves.insert account
            { collateral := trove.collateral - drawn, debt := trove.debt - take } }
    remaining := walk.remaining - take
    taken :=
      { walk.taken with
        redeemed := walk.taken.redeemed + take
        collateralDrawn := walk.taken.collateralDrawn + drawn
        closed := if closes then walk.taken.closed ++ [account] else walk.taken.closed } }

/-- Walks up the troves until everything is redeemed, or until the next trove would
    be left with less than the minimum net debt. Troves below the minimum ratio are
    passed over. -/
def Walk.along (walk : Walk α) : List (AccountId × Ratio α) → Walk α
  | [] => walk
  | (account, icr) :: rest =>
    let terms := walk.ledger.terms
    if walk.remaining ≤ tolerance then walk
    else if icr.Below (.of terms.mcr) then walk.along rest
    else
      match walk.ledger.troves.get? account with
      | none => walk.along rest
      | some trove =>
        let net := trove.debt - terms.gasCompensation
        let take := Number.min walk.remaining net
        let left := net - take
        if tolerance < left ∧ left + tolerance < terms.minNetDebt then walk
        else (walk.take account trove take left).along rest

/-- Redeems an amount held by the account against the troves. The redeemed share of
    the supply raises the base rate, and the fee follows the raised rate. -/
def redeem (ledger : Ledger α) (redeemer : AccountId) (amount : α) :
    Except (Refusal α) (Redemption α) × Ledger α :=
  let held := ledger.balance redeemer
  if amount ≤ 0 ∨ Number.isFinite amount = false then (throw (.invalidAmount amount), ledger)
  else if held + tolerance < amount then (throw (.insufficientBalance held amount), ledger)
  else if ledger.tcr.Below (.of ledger.terms.mcr) then (throw .redemptionBlocked, ledger)
  else
    let walk := Walk.along ⟨ledger, amount, ⟨0, 0, 0, []⟩⟩ ledger.sortedTroves
    let redeemed := walk.taken.redeemed
    if redeemed ≤ tolerance then (throw .nothingToRedeem, walk.ledger)
    else
      match walk.ledger.debit redeemer redeemed with
      | .error refusal => (throw refusal, walk.ledger)
      | .ok paid =>
        let raised := Number.min (paid.baseRate + redeemed / ledger.supply / ledger.terms.redemptionBeta) 1
        let burned :=
          { paid with
            supply := paid.supply - redeemed
            baseRate := if tolerance < ledger.supply then raised else paid.baseRate }
        let fee := walk.taken.collateralDrawn * burned.redemptionRate
        (pure { walk.taken with fee }, { burned with redemptionFees := burned.redemptionFees + fee })

end Ledger
end Stablecoin
