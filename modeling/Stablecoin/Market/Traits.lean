import Stablecoin.Parameters
import Stablecoin.Random.Distribution
import Stablecoin.Random.Streams

namespace Stablecoin
open Stablecoin.Random

/-- The distributions of the traits. -/
structure TraitModel (α : Type) where
  collateral : Gamma α
  ratio : ChiSquare α
  inattention : Gamma α
  ratioBase : α
  ratioScale : α
  minimumRatio : α
deriving Repr

/-- The traits of one trove. -/
structure Traits (α : Type) where
  collateral : α
  targetCr : α
  inattention : α
deriving Repr

/-- The mean and the standard deviation of a trait. -/
structure Moments (α : Type) where
  mean : α
  deviation : α
deriving Repr

namespace TraitModel
variable {α : Type} [Number α]

/-- The model with the given parameters, if they make distributions. -/
def ofParameters? (borrowing : Borrowing α) (minimumRatio : α) : Option (TraitModel α) := do
  return {
    collateral := ← Gamma.ofParameters? borrowing.collateralGammaK borrowing.collateralGammaTheta
    ratio := ← ChiSquare.ofDegrees? borrowing.targetCrDf
    inattention := ← Gamma.ofParameters? borrowing.inattentionGammaK borrowing.inattentionGammaTheta
    ratioBase := borrowing.targetCrA
    ratioScale := borrowing.targetCrB
    minimumRatio }

def drawCollateral (model : TraitModel α) (streams : Streams) (period index : Nat) : α :=
  (model.collateral.sample.run (streams.stream .troveCollateral period index)).1

/-- The target ratio, which never lies below the minimum. -/
def drawTargetCr (model : TraitModel α) (streams : Streams) (period index : Nat) : α :=
  let drawn := (model.ratio.sample.run (streams.stream .targetRatio period index)).1
  Number.max (model.ratioBase + model.ratioScale * drawn) model.minimumRatio

def drawInattention (model : TraitModel α) (streams : Streams) (period index : Nat) : α :=
  (model.inattention.sample.run (streams.stream .inattention period index)).1

def draw (model : TraitModel α) (streams : Streams) (period index : Nat) : Traits α where
  collateral := model.drawCollateral streams period index
  targetCr := model.drawTargetCr streams period index
  inattention := model.drawInattention streams period index

end TraitModel

namespace Borrowing
variable {α : Type} [Number α]

def collateralMoments (borrowing : Borrowing α) : Moments α where
  mean := borrowing.collateralGammaK * borrowing.collateralGammaTheta
  deviation := Number.sqrt borrowing.collateralGammaK * borrowing.collateralGammaTheta

/-- The moments of the target ratio before it is raised to the minimum. -/
def targetCrMoments (borrowing : Borrowing α) : Moments α where
  mean := borrowing.targetCrA + borrowing.targetCrB * borrowing.targetCrDf
  deviation := borrowing.targetCrB * Number.sqrt (2.0 * borrowing.targetCrDf)

def inattentionMoments (borrowing : Borrowing α) : Moments α where
  mean := borrowing.inattentionGammaK * borrowing.inattentionGammaTheta
  deviation := Number.sqrt borrowing.inattentionGammaK * borrowing.inattentionGammaTheta

end Borrowing
end Stablecoin
