import Stablecoin.Parameters

/-!
Which bundles of parameters a run accepts. The checks are made in a fixed order and
the first that fails is reported. A check fails only where its comparison holds, so
an undefined number passes, except where a value has to lie between zero and one.
-/
namespace Stablecoin

/-- What is wrong with a bundle of parameters. -/
inductive ParameterFault where
  | noAccounts
  | periodsPerYear
  | mcr
  | ccrBelowMcr
  | maxLiquidationsPerCall
  | baseRateHalfLife
  | collateralInitial
  | collateralVolatility
  | gammaParameters
  | targetCrDf
  | checkProbability
  | returnWindow
  | elasticity
  | arbitrageCrBelowMcr
  | initialStablePrice
  | stabilityAboveWhaleDebt
  | rewardPriceOrSupply
  | feeFeedback
deriving Repr, DecidableEq

namespace ParameterFault

def message : ParameterFault → String
  | noAccounts => "accounts must include at least the whale"
  | periodsPerYear => "periods_per_year must be positive"
  | mcr => "protocol.mcr must exceed 1.0"
  | ccrBelowMcr => "protocol.ccr must be at least protocol.mcr"
  | maxLiquidationsPerCall => "protocol.max_liquidations_per_call must be positive"
  | baseRateHalfLife => "protocol.base_rate_half_life must be positive"
  | collateralInitial => "collateral_price.initial must be positive"
  | collateralVolatility => "collateral_price.volatility must be non-negative"
  | gammaParameters => "gamma shape and scale parameters must be positive"
  | targetCrDf => "troves.target_cr_df must be positive"
  | checkProbability => "troves.check_probability must be within [0, 1]"
  | returnWindow => "stability.return_window must be positive"
  | elasticity => "liquidity.elasticity must be negative"
  | arbitrageCrBelowMcr => "liquidity.arbitrage_cr must be at least protocol.mcr"
  | initialStablePrice => "bootstrap.initial_stable_price must be positive"
  | stabilityAboveWhaleDebt => "bootstrap.stability_initial cannot exceed the whale's debt"
  | rewardPriceOrSupply => "reward_token price and supply must be positive"
  | feeFeedback => "reward_token.fee_feedback must be within [0, 1]"

end ParameterFault

namespace Parameters
variable {α : Type} [Number α]

/-- The number lies between zero and one. -/
def IsShare (a : α) : Prop := 0 ≤ a ∧ a ≤ 1

instance (a : α) : Decidable (IsShare a) := inferInstanceAs (Decidable (_ ∧ _))

/-- Accepts a bundle that a run can make sense of. -/
def validate (p : Parameters α) : Except ParameterFault Unit := do
  if p.accounts < 1 then throw .noAccounts
  if p.periodsPerYear ≤ 0 then throw .periodsPerYear
  if p.terms.mcr ≤ 1 then throw .mcr
  if p.terms.ccr < p.terms.mcr then throw .ccrBelowMcr
  if p.terms.maxLiquidationsPerCall = 0 then throw .maxLiquidationsPerCall
  if p.terms.baseRateHalfLife ≤ 0 then throw .baseRateHalfLife
  if p.collateral.initial ≤ 0 then throw .collateralInitial
  if p.collateral.volatility < 0 then throw .collateralVolatility
  if p.borrowing.collateralGammaK ≤ 0 ∨ p.borrowing.collateralGammaTheta ≤ 0 ∨
      p.borrowing.inattentionGammaK ≤ 0 ∨ p.borrowing.inattentionGammaTheta ≤ 0 then
    throw .gammaParameters
  if p.borrowing.targetCrDf ≤ 0 then throw .targetCrDf
  if ¬ IsShare p.borrowing.checkProbability then throw .checkProbability
  if p.stability.returnWindow = 0 then throw .returnWindow
  if 0 ≤ p.liquidity.elasticity then throw .elasticity
  if p.liquidity.arbitrageCr < p.terms.mcr then throw .arbitrageCrBelowMcr
  if p.bootstrap.initialStablePrice ≤ 0 then throw .initialStablePrice
  if p.bootstrap.whaleDebt < p.bootstrap.stabilityInitial then throw .stabilityAboveWhaleDebt
  if p.reward.initialPrice ≤ 0 ∨ p.reward.totalSupply ≤ 0 then throw .rewardPriceOrSupply
  if ¬ IsShare p.reward.feeFeedback then throw .feeFeedback

end Parameters
end Stablecoin
