import Stablecoin.Parameters
import Stablecoin.Random.Distribution
import Stablecoin.Random.Streams

/-!
The paths that are drawn once for a whole run: the price of the collateral and the
rate that stability depositors could earn elsewhere. A path starts at period zero
and goes on one step at a time, so a shorter run sees the beginning of a longer one.
-/
namespace Stablecoin
open Stablecoin.Random
variable {α : Type} [Number α]

/-- The values that `steps` steps reach one after another. -/
def walk (step : α → Draw α) : Nat → α → Draw (List α)
  | 0, _ => return []
  | steps + 1, value => do
    let next ← step value
    return next :: (← walk step steps next)

/-- A path from `start` with the given number of steps, drawn from a stream. -/
def path (step : α → Draw α) (periods : Nat) (start : α) (stream : KeyStream) : Array α :=
  (start :: ((walk step periods start).run stream).1).toArray

/-- The collateral prices of the periods: in the mean a step moves the price by the
    drift, and a positive price stays positive while the drift is above minus one. -/
def collateralPath (collateral : CollateralWalk α) (periods : Nat) (streams : Streams) : Array α :=
  let volatility := Number.max collateral.volatility 0
  path (fun price => do return price * (1 + collateral.drift) * (← logNormal volatility))
    periods collateral.initial (streams.pathStream .collateralPrice)

/-- The natural rates of the periods, none of them negative. -/
def naturalRatePath (stability : Stability α) (periods : Nat) (streams : Streams) : Array α :=
  path (fun rate => do return Number.max (rate * (1 + (← gaussian stability.naturalRateSd))) 0)
    periods stability.naturalRateInitial (streams.pathStream .naturalRate)

end Stablecoin
