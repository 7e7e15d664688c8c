/-!
The numbers of the model. Every amount, price, rate and ratio is computed over a
type with the operations of `Number`, and no computation of the library asks for
a law of them: it runs over `Float` and can be reasoned about over any field.
Where several orders of the same operations are possible, the order written here
is the one that the answers show, since floats do not associate.
-/
namespace Stablecoin

/-- The operations that the model needs of its numbers. -/
class Number (α : Type) extends Zero α, One α, Add α, Sub α, Mul α, Div α, Neg α, LT α, LE α,
    NatCast α, OfScientific α where
  decidableLt : (a b : α) → Decidable (a < b)
  decidableLe : (a b : α) → Decidable (a ≤ b)
  /-- Neither an infinity nor undefined. -/
  isFinite : α → Bool
  /-- What stands for an unbounded value where a plain number is written. -/
  infinity : α
  /-- The nearest natural number, halves upwards; what lies below or is undefined
      gives zero, and what lies beyond a 64-bit word gives the greatest word. -/
  nearestNat : α → Nat
  /-- A total order that agrees with `≤` and also places what `≤` does not compare. -/
  totalLe : α → α → Bool
  exp : α → α
  log : α → α
  sqrt : α → α
  pow : α → α → α
  /-- The number that a drawn float stands for. -/
  ofFloat : Float → α

namespace Number
variable {α : Type} [Number α]

instance (a b : α) : Decidable (a < b) := decidableLt a b

instance (a b : α) : Decidable (a ≤ b) := decidableLe a b

instance : Inhabited α := ⟨0⟩

/-- Amounts and ratios closer than this are taken as equal. -/
def tolerance : α := 1e-9

/-- The number is comparable with itself. -/
def IsDefined (a : α) : Prop := a ≤ a

instance (a : α) : Decidable (IsDefined a) := inferInstanceAs (Decidable (a ≤ a))

/-- The lesser of two numbers, the first of equal ones; an undefined one gives way. -/
def min (a b : α) : α := if b < a then b else if IsDefined a then a else b

/-- The greater of two numbers, the first of equal ones; an undefined one gives way. -/
def max (a b : α) : α := if a < b then b else if IsDefined a then a else b

/-- The number without its sign. -/
def abs (a : α) : α := if a < 0 then -a else a

/-- The two numbers are at most each other. -/
def Same (a b : α) : Prop := a ≤ b ∧ b ≤ a

instance (a b : α) : Decidable (Same a b) := inferInstanceAs (Decidable (_ ∧ _))

/-- The sum from the left. The empty sum is the negative zero, the neutral element
    of the addition of floats. -/
def sum (l : List α) : α := l.foldl (· + ·) (-0)

/-- The least of the numbers that are defined, infinity if there is none. -/
def least (l : List α) : α :=
  match l.filter (IsDefined ·) with
  | [] => infinity
  | a :: rest => rest.foldl min a

/-- The greatest of the numbers that are defined, minus infinity if there is none. -/
def greatest (l : List α) : α :=
  match l.filter (IsDefined ·) with
  | [] => -infinity
  | a :: rest => rest.foldl max a

/-- The bit of a float that holds its sign. -/
def signBit : Nat := 0x8000000000000000

/-- The place of a float in the total order: the negative floats from the greatest
    magnitude down, the negative zero, the positive zero, the positive floats. -/
def rank (x : Float) : Int :=
  let bits := x.toBits.toNat
  if bits < signBit then bits else -(bits - signBit : Nat) - 1

end Number

instance : Number Float where
  zero := 0.0
  one := 1.0
  natCast n := Float.ofNat n
  decidableLt _ _ := inferInstance
  decidableLe _ _ := inferInstance
  isFinite x := x.isFinite
  infinity := 1.0 / 0.0
  nearestNat x := x.round.toUInt64.toNat
  totalLe x y := decide (Number.rank x ≤ Number.rank y)
  exp x := x.exp
  log x := x.log
  sqrt x := x.sqrt
  pow x y := x.pow y
  ofFloat x := x

end Stablecoin
