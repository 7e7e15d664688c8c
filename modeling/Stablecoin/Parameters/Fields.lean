import Stablecoin.Parameters

namespace Stablecoin

/-- Where a scalar stands in the parameters: a number, or a 64-bit word. -/
inductive Slot where
  | real (get : Parameters Float → Float) (set : Float → Parameters Float → Parameters Float)
  | word (get : Parameters Float → Nat) (set : Nat → Parameters Float → Parameters Float)

/-- A scalar and its name. -/
structure Field where
  key : String
  slot : Slot

/-- Scalars under a common name. -/
structure Group where
  key : String
  fields : List Field

namespace Parameters

/-- The scalars at the root. -/
def rootFields : List Field :=
  [⟨"periods", .word (·.periods) fun x p => { p with periods := x }⟩,
    ⟨"seed", .word (·.seed.toNat) fun x p => { p with seed := x.toUInt64 }⟩,
    ⟨"accounts", .word (·.accounts) fun x p => { p with accounts := x }⟩,
    ⟨"periods_per_year", .real (·.periodsPerYear) fun x p => { p with periodsPerYear := x }⟩]

def termsFields : List Field :=
  [⟨"mcr", .real (·.terms.mcr) fun x p => { p with terms.mcr := x }⟩,
    ⟨"ccr", .real (·.terms.ccr) fun x p => { p with terms.ccr := x }⟩,
    ⟨"min_net_debt", .real (·.terms.minNetDebt) fun x p => { p with terms.minNetDebt := x }⟩,
    ⟨"gas_compensation", .real (·.terms.gasCompensation) fun x p => { p with terms.gasCompensation := x }⟩,
    ⟨"borrowing_fee_floor", .real (·.terms.borrowingFeeFloor) fun x p => { p with terms.borrowingFeeFloor := x }⟩,
    ⟨"max_borrowing_fee", .real (·.terms.maxBorrowingFee) fun x p => { p with terms.maxBorrowingFee := x }⟩,
    ⟨"redemption_fee_floor", .real (·.terms.redemptionFeeFloor) fun x p => { p with terms.redemptionFeeFloor := x }⟩,
    ⟨"base_rate_half_life", .real (·.terms.baseRateHalfLife) fun x p => { p with terms.baseRateHalfLife := x }⟩,
    ⟨"redemption_beta", .real (·.terms.redemptionBeta) fun x p => { p with terms.redemptionBeta := x }⟩,
    ⟨"max_liquidations_per_call", .word (·.terms.maxLiquidationsPerCall) fun x p => { p with terms.maxLiquidationsPerCall := x }⟩]

def bootstrapFields : List Field :=
  [⟨"whale_collateral", .real (·.bootstrap.whaleCollateral) fun x p => { p with bootstrap.whaleCollateral := x }⟩,
    ⟨"whale_debt", .real (·.bootstrap.whaleDebt) fun x p => { p with bootstrap.whaleDebt := x }⟩,
    ⟨"stability_initial", .real (·.bootstrap.stabilityInitial) fun x p => { p with bootstrap.stabilityInitial := x }⟩,
    ⟨"initial_stable_price", .real (·.bootstrap.initialStablePrice) fun x p => { p with bootstrap.initialStablePrice := x }⟩]

def collateralFields : List Field :=
  [⟨"initial", .real (·.collateral.initial) fun x p => { p with collateral.initial := x }⟩,
    ⟨"drift", .real (·.collateral.drift) fun x p => { p with collateral.drift := x }⟩,
    ⟨"volatility", .real (·.collateral.volatility) fun x p => { p with collateral.volatility := x }⟩]

def borrowingFields : List Field :=
  [⟨"collateral_gamma_k", .real (·.borrowing.collateralGammaK) fun x p => { p with borrowing.collateralGammaK := x }⟩,
    ⟨"collateral_gamma_theta", .real (·.borrowing.collateralGammaTheta) fun x p => { p with borrowing.collateralGammaTheta := x }⟩,
    ⟨"target_cr_a", .real (·.borrowing.targetCrA) fun x p => { p with borrowing.targetCrA := x }⟩,
    ⟨"target_cr_b", .real (·.borrowing.targetCrB) fun x p => { p with borrowing.targetCrB := x }⟩,
    ⟨"target_cr_df", .real (·.borrowing.targetCrDf) fun x p => { p with borrowing.targetCrDf := x }⟩,
    ⟨"inattention_gamma_k", .real (·.borrowing.inattentionGammaK) fun x p => { p with borrowing.inattentionGammaK := x }⟩,
    ⟨"inattention_gamma_theta", .real (·.borrowing.inattentionGammaTheta) fun x p => { p with borrowing.inattentionGammaTheta := x }⟩,
    ⟨"initial_open", .real (·.borrowing.initialOpen) fun x p => { p with borrowing.initialOpen := x }⟩,
    ⟨"open_base", .real (·.borrowing.openBase) fun x p => { p with borrowing.openBase := x }⟩,
    ⟨"open_sd", .real (·.borrowing.openSd) fun x p => { p with borrowing.openSd := x }⟩,
    ⟨"open_price_sensitivity", .real (·.borrowing.openPriceSensitivity) fun x p => { p with borrowing.openPriceSensitivity := x }⟩,
    ⟨"close_base", .real (·.borrowing.closeBase) fun x p => { p with borrowing.closeBase := x }⟩,
    ⟨"close_sd", .real (·.borrowing.closeSd) fun x p => { p with borrowing.closeSd := x }⟩,
    ⟨"close_warmup_periods", .word (·.borrowing.closeWarmupPeriods) fun x p => { p with borrowing.closeWarmupPeriods := x }⟩,
    ⟨"close_price_sensitivity", .real (·.borrowing.closePriceSensitivity) fun x p => { p with borrowing.closePriceSensitivity := x }⟩,
    ⟨"check_probability", .real (·.borrowing.checkProbability) fun x p => { p with borrowing.checkProbability := x }⟩]

def stabilityFields : List Field :=
  [⟨"initial_return", .real (·.stability.initialReturn) fun x p => { p with stability.initialReturn := x }⟩,
    ⟨"natural_rate_initial", .real (·.stability.naturalRateInitial) fun x p => { p with stability.naturalRateInitial := x }⟩,
    ⟨"natural_rate_sd", .real (·.stability.naturalRateSd) fun x p => { p with stability.naturalRateSd := x }⟩,
    ⟨"shock_sd", .real (·.stability.shockSd) fun x p => { p with stability.shockSd := x }⟩,
    ⟨"sensitivity", .real (·.stability.sensitivity) fun x p => { p with stability.sensitivity := x }⟩,
    ⟨"return_window", .word (·.stability.returnWindow) fun x p => { p with stability.returnWindow := x }⟩,
    ⟨"airdrop_quantity", .real (·.stability.airdropQuantity) fun x p => { p with stability.airdropQuantity := x }⟩]

def liquidityFields : List Field :=
  [⟨"drift", .real (·.liquidity.drift) fun x p => { p with liquidity.drift := x }⟩,
    ⟨"shock_sd", .real (·.liquidity.shockSd) fun x p => { p with liquidity.shockSd := x }⟩,
    ⟨"elasticity", .real (·.liquidity.elasticity) fun x p => { p with liquidity.elasticity := x }⟩,
    ⟨"ceiling", .real (·.liquidity.ceiling) fun x p => { p with liquidity.ceiling := x }⟩,
    ⟨"arbitrage_cr", .real (·.liquidity.arbitrageCr) fun x p => { p with liquidity.arbitrageCr := x }⟩]

def rewardFields : List Field :=
  [⟨"initial_price", .real (·.reward.initialPrice) fun x p => { p with reward.initialPrice := x }⟩,
    ⟨"drift", .real (·.reward.drift) fun x p => { p with reward.drift := x }⟩,
    ⟨"volatility", .real (·.reward.volatility) fun x p => { p with reward.volatility := x }⟩,
    ⟨"warmup_periods", .word (·.reward.warmupPeriods) fun x p => { p with reward.warmupPeriods := x }⟩,
    ⟨"pe_ratio", .real (·.reward.peRatio) fun x p => { p with reward.peRatio := x }⟩,
    ⟨"total_supply", .real (·.reward.totalSupply) fun x p => { p with reward.totalSupply := x }⟩,
    ⟨"fee_feedback", .real (·.reward.feeFeedback) fun x p => { p with reward.feeFeedback := x }⟩]

/-- The sections after the root. -/
def groups : List Group :=
  [⟨"protocol", termsFields⟩,
    ⟨"bootstrap", bootstrapFields⟩,
    ⟨"collateral_price", collateralFields⟩,
    ⟨"troves", borrowingFields⟩,
    ⟨"stability", stabilityFields⟩,
    ⟨"liquidity", liquidityFields⟩,
    ⟨"reward_token", rewardFields⟩]

end Parameters
end Stablecoin
