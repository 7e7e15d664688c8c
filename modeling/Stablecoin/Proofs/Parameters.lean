import Stablecoin.Parameters.Validation
import Stablecoin.Proofs.Checks
import Stablecoin.Proofs.Exact

/-!
What the validation of parameters lets pass. `Valid` lists the checks, each as the
comparison that has to fail, and a bundle is accepted exactly if it is valid
(`validate_ok_iff`). The validation looks at the ratios and the half-life of the terms
and leaves the rest of them open; with conventional values there the terms are
admissible, which is what the protocol needs of them.
-/
namespace Stablecoin

namespace Parameters
variable {α : Type} [Number α] {p : Parameters α}

/-- The bundle passes every check. -/
structure Valid (p : Parameters α) : Prop where
  accounts : ¬ p.accounts < 1
  periodsPerYear : ¬ p.periodsPerYear ≤ 0
  mcr : ¬ p.terms.mcr ≤ 1
  ccr : ¬ p.terms.ccr < p.terms.mcr
  maxLiquidationsPerCall : ¬ p.terms.maxLiquidationsPerCall = 0
  baseRateHalfLife : ¬ p.terms.baseRateHalfLife ≤ 0
  collateralInitial : ¬ p.collateral.initial ≤ 0
  collateralVolatility : ¬ p.collateral.volatility < 0
  gamma : ¬ (p.borrowing.collateralGammaK ≤ 0 ∨ p.borrowing.collateralGammaTheta ≤ 0 ∨
    p.borrowing.inattentionGammaK ≤ 0 ∨ p.borrowing.inattentionGammaTheta ≤ 0)
  targetCrDf : ¬ p.borrowing.targetCrDf ≤ 0
  checkProbability : IsShare p.borrowing.checkProbability
  returnWindow : ¬ p.stability.returnWindow = 0
  elasticity : ¬ 0 ≤ p.liquidity.elasticity
  arbitrageCr : ¬ p.liquidity.arbitrageCr < p.terms.mcr
  initialStablePrice : ¬ p.bootstrap.initialStablePrice ≤ 0
  stabilityInitial : ¬ p.bootstrap.whaleDebt < p.bootstrap.stabilityInitial
  reward : ¬ (p.reward.initialPrice ≤ 0 ∨ p.reward.totalSupply ≤ 0)
  feeFeedback : IsShare p.reward.feeFeedback

theorem validate_ok_iff (p : Parameters α) : p.validate = .ok () ↔ p.Valid := by
  constructor
  · intro accepted
    unfold validate at accepted
    obtain ⟨accounts, accepted⟩ := ok_of_check accepted
    obtain ⟨periodsPerYear, accepted⟩ := ok_of_check accepted
    obtain ⟨mcr, accepted⟩ := ok_of_check accepted
    obtain ⟨ccr, accepted⟩ := ok_of_check accepted
    obtain ⟨maxLiquidations, accepted⟩ := ok_of_check accepted
    obtain ⟨halfLife, accepted⟩ := ok_of_check accepted
    obtain ⟨collateralInitial, accepted⟩ := ok_of_check accepted
    obtain ⟨volatility, accepted⟩ := ok_of_check accepted
    obtain ⟨gamma, accepted⟩ := ok_of_check accepted
    obtain ⟨targetCrDf, accepted⟩ := ok_of_check accepted
    obtain ⟨checkProbability, accepted⟩ := ok_of_check accepted
    obtain ⟨returnWindow, accepted⟩ := ok_of_check accepted
    obtain ⟨elasticity, accepted⟩ := ok_of_check accepted
    obtain ⟨arbitrageCr, accepted⟩ := ok_of_check accepted
    obtain ⟨initialStablePrice, accepted⟩ := ok_of_check accepted
    obtain ⟨stabilityInitial, accepted⟩ := ok_of_check accepted
    obtain ⟨reward, accepted⟩ := ok_of_check accepted
    obtain ⟨feeFeedback, _⟩ := ok_of_check accepted
    exact ⟨accounts, periodsPerYear, mcr, ccr, maxLiquidations, halfLife, collateralInitial, volatility, gamma,
      targetCrDf, not_not.mp checkProbability, returnWindow, elasticity, arbitrageCr, initialStablePrice,
      stabilityInitial, reward, not_not.mp feeFeedback⟩
  · intro valid
    unfold validate
    simp only [valid.accounts, valid.periodsPerYear, valid.mcr, valid.ccr, valid.maxLiquidationsPerCall,
      valid.baseRateHalfLife, valid.collateralInitial, valid.collateralVolatility, valid.gamma, valid.targetCrDf,
      valid.checkProbability, valid.returnWindow, valid.elasticity, valid.arbitrageCr, valid.initialStablePrice,
      valid.stabilityInitial, valid.reward, valid.feeFeedback, not_true_eq_false, if_false]
    rfl

end Parameters

/-! ### Terms over exact numbers -/

/-- The terms are as in both bundles that come with the library: a minimum debt above
    the tolerances that are applied to it, and neither reserve nor fees below zero. -/
structure Terms.Conventional (terms : Terms ℝ) : Prop where
  gas : 0 ≤ terms.gasCompensation
  minNetDebt : 2 * Number.tolerance < terms.minNetDebt
  borrowingFeeFloor : 0 ≤ terms.borrowingFeeFloor
  maxBorrowingFee : 0 ≤ terms.maxBorrowingFee
  redemptionFeeFloor : 0 ≤ terms.redemptionFeeFloor
  redemptionBeta : 0 < terms.redemptionBeta

/-- The terms are conventional, the ratios ordered and above one, and the base rate has
    a half-life. -/
structure Terms.Admissible (terms : Terms ℝ) : Prop extends Terms.Conventional terms where
  mcr : 1 < terms.mcr
  ccr : terms.mcr ≤ terms.ccr
  halfLife : 0 < terms.baseRateHalfLife

/-- The terms are conventional, and the ratios ordered and above one. -/
structure Terms.Secure (terms : Terms ℝ) : Prop extends Terms.Conventional terms where
  mcr : 1 < terms.mcr
  ccr : terms.mcr ≤ terms.ccr

theorem Terms.Admissible.secure {terms : Terms ℝ} (admissible : terms.Admissible) : terms.Secure :=
  { admissible with }

theorem Parameters.Valid.admissible {p : Parameters ℝ} (valid : p.Valid) (conventional : p.terms.Conventional) :
    p.terms.Admissible :=
  { conventional with
    mcr := not_le.mp valid.mcr
    ccr := not_lt.mp valid.ccr
    halfLife := not_le.mp valid.baseRateHalfLife }

theorem defaultTerms_conventional : (Parameters.defaultTerms : Terms ℝ).Conventional := by
  constructor <;> norm_num [Parameters.defaultTerms, Number.tolerance_real]

theorem defaultTerms_admissible : (Parameters.defaultTerms : Terms ℝ).Admissible :=
  { defaultTerms_conventional with
    mcr := by norm_num [Parameters.defaultTerms]
    ccr := by norm_num [Parameters.defaultTerms]
    halfLife := by norm_num [Parameters.defaultTerms] }

theorem quiet_valid : (Parameters.quiet : Parameters ℝ).Valid := by
  constructor <;>
    dsimp only [Parameters.quiet, Parameters.default, Parameters.defaultTerms, Parameters.defaultBootstrap,
      Parameters.defaultCollateral, Parameters.defaultBorrowing, Parameters.defaultStability,
      Parameters.defaultLiquidity, Parameters.defaultReward, Parameters.IsShare] <;>
    norm_num

end Stablecoin
