import Stablecoin.Number

namespace Stablecoin

/-- The state carried between periods. A series has one entry for each period; the
    entry of period zero is zero. -/
structure MarketState (α : Type) where
  period : Nat
  stablePrice : α
  rewardPrice : α
  /-- The scale of the demand for the stablecoin. -/
  liquidityDemand : α
  stabilityReturn : α
  totalCollateralAdded : α
  totalCollateralLiquidated : α
  totalStableRedeemed : α
  liquidationGain : Array α
  airdropGain : Array α
  /-- Borrowing fees at the price of the stablecoin. -/
  issuanceFee : Array α
  redemptionFee : Array α

variable {α : Type} [Number α]

/-- The sum of the last `window` entries of the series before position `stop`. -/
def windowSum (series : Array α) (stop window : Nat) : α :=
  let stop := min stop series.size
  Number.sum (series.extract (stop - window) stop).toList

namespace MarketState

/-- The state before period zero. -/
def initial : MarketState α where
  period := 0
  stablePrice := 0
  rewardPrice := 0
  liquidityDemand := 0
  stabilityReturn := 0
  totalCollateralAdded := 0
  totalCollateralLiquidated := 0
  totalStableRedeemed := 0
  liquidationGain := #[]
  airdropGain := #[]
  issuanceFee := #[]
  redemptionFee := #[]

/-- The gains of the stability pool in the window before `stop`. -/
def trailingGains (state : MarketState α) (stop window : Nat) : α :=
  windowSum state.liquidationGain stop window + windowSum state.airdropGain stop window

/-- The fees in the window before `stop`. -/
def trailingRevenue (state : MarketState α) (stop window : Nat) : α :=
  windowSum state.issuanceFee stop window + windowSum state.redemptionFee stop window

end MarketState
end Stablecoin
