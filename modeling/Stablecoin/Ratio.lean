import Stablecoin.Number

namespace Stablecoin

/-- A ratio of collateral to debt. -/
inductive Ratio (α : Type) where
  | of (value : α)
  | unbounded
deriving Repr

namespace Ratio
variable {α : Type} [Number α]

/-- The ratio as a plain number. -/
def toNumber : Ratio α → α
  | of value => value
  | unbounded => Number.infinity

/-- The first ratio is below the second. A number lies below the unbounded ratio
    unless it is itself infinite or undefined. -/
def Below : Ratio α → Ratio α → Prop
  | of a, of b => a < b
  | of a, unbounded => Number.isFinite a = true ∨ a < 0
  | unbounded, _ => False

instance (r s : Ratio α) : Decidable (Below r s) :=
  match r, s with
  | of a, of b => inferInstanceAs (Decidable (a < b))
  | of a, unbounded => inferInstanceAs (Decidable (_ ∨ a < 0))
  | unbounded, _ => inferInstanceAs (Decidable False)

/-- The ratio moved up by a number. -/
def raise : Ratio α → α → Ratio α
  | of value, a => of (value + a)
  | unbounded, _ => unbounded

end Ratio
end Stablecoin
