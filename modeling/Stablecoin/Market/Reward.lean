import Stablecoin.Market.Context
import Stablecoin.Market.State

namespace Stablecoin
variable {α : Type} [Number α]

/-- The market of the reward token in a period. -/
structure RewardMarket (α : Type) where
  price : α
  annualizedEarnings : α
  marketCap : α
deriving Repr

/-- Prices the reward token. The tokens in circulation approach a third of the supply,
    by half of what is missing in each year. -/
def rewardMarket (context : Context α) (state : MarketState α) : RewardMarket α :=
  let reward := context.parameters.reward
  let years := (context.period : α) / context.parameters.periodsPerYear
  let walked := rewardWalkStep reward context.rewardPrice context.streams context.period
  let window := min (max context.period 1) context.parameters.stability.returnWindow
  let revenue := state.trailingRevenue (context.period + 1) window
  let annualizedEarnings := revenue / (window : α) * context.parameters.periodsPerYear
  let price :=
    if context.period ≤ reward.warmupPeriods then walked
    else
      let discount := Number.min years 1
      let fundamental := discount * reward.peRatio * annualizedEarnings / reward.totalSupply
      Number.max ((1 - reward.feeFeedback) * walked + reward.feeFeedback * fundamental) 0
  let circulating := reward.totalSupply / 3.0 * (1 - Number.pow (0.5 : α) years)
  { price, annualizedEarnings, marketCap := price * circulating }

end Stablecoin
