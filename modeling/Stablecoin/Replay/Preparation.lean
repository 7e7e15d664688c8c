import Stablecoin.Number

namespace Stablecoin.Replay
variable {α : Type} [Number α]

/-- The start of an interval and the points inside it, evenly spaced. -/
def interval (first second : α) (steps : Nat) : List α :=
  (List.range steps).map fun (j : Nat) => first + (second - first) * ((j : α) / (steps : α))

/-- The points of all intervals and the last price. -/
def intervals (steps : Nat) : List α → List α
  | [] => []
  | [last] => [last]
  | first :: second :: rest => interval first second steps ++ intervals steps (second :: rest)

/-- Splits every interval into as many steps. One step or none leaves the prices alone. -/
def interpolate (prices : List α) (steps : Nat) : List α := if steps ≤ 1 then prices else intervals steps prices

/-- Scales the prices to start at `initial`. A path that does not start above zero is
    left alone. -/
def rebase (prices : List α) (initial : α) : List α :=
  match prices with
  | [] => []
  | first :: _ => if 0 < first then prices.map fun price => price / first * initial else prices

end Stablecoin.Replay
