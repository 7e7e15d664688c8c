import Stablecoin.Book
import Stablecoin.Parameters
import Stablecoin.Random.Distribution
import Stablecoin.Random.Sample
import Stablecoin.Random.Streams

/-!
What happens by chance in a period: how many troves are opened and closed, whose
turn it is, who looks at a trove, and how demand and the reward token move. The
stablecoin draws borrowers in while it trades above par and its fee, and lets them
go while it trades below par.
-/
namespace Stablecoin
open Stablecoin.Random
variable {α : Type} [Number α]

/-- A whole number of actions, no more than are available. -/
def wholeCount (raw : α) (available : Nat) : Nat := min (Number.nearestNat (Number.max raw 0)) available

/-- How many troves are opened in a period. The first period opens a fixed number. -/
def openCount (borrowing : Borrowing α) (streams : Streams) (period : Nat) (stablePrice borrowingRate : α)
    (available : Nat) : Nat :=
  if period ≤ 1 then wholeCount borrowing.initialOpen available
  else
    let shock : α := ((gaussian borrowing.openSd).run (streams.stream .openCount period 0)).1
    let raw := borrowing.openBase + shock
    let premium := stablePrice - 1 - borrowingRate
    wholeCount (if 0 < premium then raw + borrowing.openPriceSensitivity * premium * 100.0 else raw) available

/-- How many troves are closed in a period: at most one while the market warms up. -/
def closeCount (borrowing : Borrowing α) (streams : Streams) (period : Nat) (stablePrice : α)
    (available : Nat) : Nat :=
  let stream := streams.stream .closeCount period 0
  if period ≤ borrowing.closeWarmupPeriods then
    wholeCount (Number.ofFloat (Draw.unit.run stream).1 : α) available
  else
    let shock : α := ((gaussian borrowing.closeSd).run stream).1
    let raw := borrowing.closeBase + shock
    wholeCount
      (if stablePrice < 1 then raw + borrowing.closePriceSensitivity * (1 - stablePrice) * 100.0 else raw) available

/-- Distinct items in random order, `amount` of them or all there are. -/
def choose {β : Type} (items : List β) (amount : Nat) (streams : Streams) (purpose : Purpose) (period : Nat) :
    List β :=
  let amount := min amount items.length
  if amount = 0 then []
  else
    let items := items.toArray
    ((sampleIndices items.size amount).run (streams.stream purpose period 0)).1.filterMap (items[·]?)

/-- The account looks at its trove in the period. Every question about the same
    account and period has the same answer. -/
def isAttentive (probability : α) (streams : Streams) (period : Nat) (account : AccountId) : Bool :=
  decide ((Number.ofFloat (Draw.unit.run (streams.stream .attention period account)).1 : α) < probability)

/-- A fair coin for each account and period, which decides between the two ways back
    to a target ratio. -/
def coinFlip (streams : Streams) (period : Nat) (account : AccountId) : Bool :=
  (Draw.coin.run (streams.stream .adjustChoice period account)).1

/-- The normal shock of a purpose in a period. -/
def normalShock (deviation : α) (streams : Streams) (purpose : Purpose) (period : Nat) : α :=
  ((gaussian deviation).run (streams.stream purpose period 0)).1

/-- The least positive number that is held with full precision. -/
def leastPositive : α := 2.2250738585072014e-308

/-- One step of the random walk of the reward token, which stays positive. -/
def rewardWalkStep (reward : RewardToken α) (previous : α) (streams : Streams) (period : Nat) : α :=
  let shock := normalShock reward.volatility streams .rewardPrice period
  Number.max (previous * (1 + reward.drift) * (1 + shock)) leastPositive

end Stablecoin
