import Stablecoin.Number

namespace Stablecoin

/-- The terms of the protocol. -/
structure Terms (α : Type) where
  /-- The collateral ratio below which a trove is liquidated, 1.1 for 110%. -/
  mcr : α
  /-- The collateral ratio of the whole system below which it is in recovery. -/
  ccr : α
  /-- The least debt of a trove, its gas reserve apart. -/
  minNetDebt : α
  /-- Stablecoin reserved for each trove and paid to its liquidator. -/
  gasCompensation : α
  borrowingFeeFloor : α
  maxBorrowingFee : α
  redemptionFeeFloor : α
  /-- The periods in which the base rate falls to its half. -/
  baseRateHalfLife : α
  /-- What the redeemed share of the supply is divided by to raise the base rate. -/
  redemptionBeta : α
  maxLiquidationsPerCall : Nat
deriving Repr

/-- The state of period zero: the trove of the whale and the seeded stability pool. -/
structure Bootstrap (α : Type) where
  whaleCollateral : α
  whaleDebt : α
  stabilityInitial : α
  initialStablePrice : α
deriving Repr

/-- The geometric random walk of the collateral price. -/
structure CollateralWalk (α : Type) where
  initial : α
  /-- The mean relative move of a period. -/
  drift : α
  /-- The logarithmic volatility of a period. -/
  volatility : α
deriving Repr

/-- The behaviour of borrowers: sizes, targets, arrivals and exits. -/
structure Borrowing (α : Type) where
  collateralGammaK : α
  collateralGammaTheta : α
  targetCrA : α
  targetCrB : α
  targetCrDf : α
  inattentionGammaK : α
  inattentionGammaTheta : α
  /-- The troves opened in the first period. -/
  initialOpen : α
  openBase : α
  openSd : α
  /-- Further openings for each percentage point of the stablecoin above par and fee. -/
  openPriceSensitivity : α
  closeBase : α
  closeSd : α
  closeWarmupPeriods : Nat
  /-- Further closures for each percentage point of the stablecoin below par. -/
  closePriceSensitivity : α
  /-- The chance that an account looks at its trove in a period. -/
  checkProbability : α
deriving Repr

/-- The behaviour of stability depositors. -/
structure Stability (α : Type) where
  /-- The yearly return assumed before gains are observed. -/
  initialReturn : α
  naturalRateInitial : α
  naturalRateSd : α
  shockSd : α
  /-- The growth of the pool for each unit of return above the natural rate. -/
  sensitivity : α
  /-- The periods over which returns and earnings are averaged. -/
  returnWindow : Nat
  /-- Reward tokens handed to depositors in each period. -/
  airdropQuantity : α
deriving Repr

/-- The demand of the market for the stablecoin. -/
structure Liquidity (α : Type) where
  drift : α
  shockSd : α
  /-- The price elasticity of demand, a negative number. -/
  elasticity : α
  /-- The price that troves opened at `arbitrageCr` defend from above. -/
  ceiling : α
  arbitrageCr : α
deriving Repr

/-- The market of the reward token. -/
structure RewardToken (α : Type) where
  initialPrice : α
  drift : α
  volatility : α
  /-- The periods in which the price follows the random walk alone. -/
  warmupPeriods : Nat
  peRatio : α
  totalSupply : α
  /-- The weight of the value earned by fees in the later price. -/
  feeFeedback : α
deriving Repr

/-- All parameters of a run. -/
structure Parameters (α : Type) where
  periods : Nat
  seed : UInt64
  /-- The number of accounts, the whale included. -/
  accounts : Nat
  periodsPerYear : α
  terms : Terms α
  bootstrap : Bootstrap α
  collateral : CollateralWalk α
  borrowing : Borrowing α
  stability : Stability α
  liquidity : Liquidity α
  reward : RewardToken α
deriving Repr

variable {α : Type} [Number α]

namespace Parameters

def defaultTerms : Terms α where
  mcr := 1.1
  ccr := 1.5
  minNetDebt := 1800.0
  gasCompensation := 200.0
  borrowingFeeFloor := 0.005
  maxBorrowingFee := 0.05
  redemptionFeeFloor := 0.005
  baseRateHalfLife := 12.0
  redemptionBeta := 2.0
  maxLiquidationsPerCall := 90

def defaultBootstrap : Bootstrap α where
  whaleCollateral := 30000.0
  whaleDebt := 10000000.0
  stabilityInitial := 500000.0
  initialStablePrice := 1.0

def defaultCollateral : CollateralWalk α where
  initial := 2000.0
  drift := 0.0
  volatility := 0.02

def defaultBorrowing : Borrowing α where
  collateralGammaK := 10.0
  collateralGammaTheta := 5.0
  targetCrA := 1.1
  targetCrB := 0.1
  targetCrDf := 16.0
  inattentionGammaK := 4.0
  inattentionGammaTheta := 0.08
  initialOpen := 10.0
  openBase := 1.0
  openSd := 0.5
  openPriceSensitivity := 1.0
  closeBase := 0.5
  closeSd := 0.5
  closeWarmupPeriods := 240
  closePriceSensitivity := 1.0
  checkProbability := 0.2

def defaultStability : Stability α where
  initialReturn := 0.2
  naturalRateInitial := 0.2
  naturalRateSd := 0.002
  shockSd := 0.001
  sensitivity := 0.01
  returnWindow := 720
  airdropQuantity := 500.0

def defaultLiquidity : Liquidity α where
  drift := 1.0003
  shockSd := 0.001
  elasticity := -20.0
  ceiling := 1.1
  arbitrageCr := 1.2

def defaultReward : RewardToken α where
  initialPrice := 0.4
  drift := 0.0035
  volatility := 0.005
  warmupPeriods := 720
  peRatio := 50.0
  totalSupply := 100000000.0
  feeFeedback := 0.1

/-- The bundle of default values. -/
def default : Parameters α where
  periods := 720
  seed := 42
  accounts := 200
  periodsPerYear := 8760.0
  terms := defaultTerms
  bootstrap := defaultBootstrap
  collateral := defaultCollateral
  borrowing := defaultBorrowing
  stability := defaultStability
  liquidity := defaultLiquidity
  reward := defaultReward

instance : Inhabited (Parameters α) := ⟨default⟩

/-- The bundle without shocks and without borrowers: the whale keeps the only
    trove, and scripted scenarios start from a market at rest. -/
def quiet : Parameters α :=
  { default with
    collateral := { defaultCollateral with volatility := 0.0, drift := 0.0 }
    borrowing :=
      { defaultBorrowing with
        initialOpen := 0.0, openBase := 0.0, openSd := 0.0, openPriceSensitivity := 0.0
        closeBase := 0.0, closeSd := 0.0, closeWarmupPeriods := 0, closePriceSensitivity := 0.0
        checkProbability := 0.0 }
    stability := { defaultStability with naturalRateSd := 0.0, shockSd := 0.0, sensitivity := 0.0 }
    liquidity := { defaultLiquidity with drift := 1.0, shockSd := 0.0 } }

end Parameters
end Stablecoin
