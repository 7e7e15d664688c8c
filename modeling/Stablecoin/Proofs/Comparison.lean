import Mathlib.Data.Prod.Lex
import Stablecoin.Proofs.Exact

/-!
Which numbers can be compared. Over exact numbers all of them lie on one line. Floats lie
on one as well, from the negative infinity to the positive one, all but the undefined
number, of which every comparison is false (`lt_float_iff`, `isDefined_float_iff`). What
the order of the troves needs of the comparisons holds on both (`Ordered`), and carries
over to ratios that are defined (`below_asymm`, `below_or_below`).
-/
namespace Stablecoin
open Float.Model (UnpackedFloat)

namespace Number

/-- The number lies below the positive infinity. -/
def Limited {α : Type} [Number α] (a : α) : Prop := isFinite a = true ∨ a < 0

/-- Defined numbers lie on a line, and the positive infinity, if it is among them, lies
    above the others. -/
class Ordered (α : Type) [Number α] : Prop where
  asymm : ∀ {a b : α}, a < b → ¬ b < a
  between : ∀ {a b c : α}, IsDefined b → a < c → a < b ∨ b < c
  limited : ∀ {a b : α}, a < b → Limited a
  infinite : ∀ {a b : α}, Limited a → IsDefined b → ¬ Limited b → a < b

instance : Ordered ℝ where
  asymm := lt_asymm
  between {_ b _} _ less := (lt_or_ge _ b).imp_right fun above => lt_of_le_of_lt above less
  limited _ := .inl rfl
  infinite _ _ unlimited := absurd (.inl rfl) unlimited

/-- The place of a float on the line; the undefined number has none and is put at zero. -/
def level : UnpackedFloat → ℤ ×ₗ ℤ ×ₗ ℤ
  | .infinity .negative => toLex (-2, toLex (0, 0))
  | .finite .negative mantissa exponent _ => toLex (-1, toLex (-exponent, -mantissa))
  | .notANumber | .zero _ => toLex (0, toLex (0, 0))
  | .finite .positive mantissa exponent _ => toLex (1, toLex (exponent, mantissa))
  | .infinity .positive => toLex (2, toLex (0, 0))

theorem compare_opposite : compare UnpackedFloat.Sign.negative .positive = .lt := rfl

theorem compare_same (sign : UnpackedFloat.Sign) : compare sign sign = .eq := by cases sign <;> rfl

theorem isNaN_infinity (sign : UnpackedFloat.Sign) : (UnpackedFloat.infinity sign).isNaN = false := rfl

theorem isNaN_notANumber : UnpackedFloat.notANumber.isNaN = true := rfl

theorem isNaN_zero (sign : UnpackedFloat.Sign) : (UnpackedFloat.zero sign).isNaN = false := rfl

theorem isNaN_finite (sign : UnpackedFloat.Sign) (mantissa : Nat) (exponent : ℤ) (positive : 0 < mantissa) :
    (UnpackedFloat.finite sign mantissa exponent positive).isNaN = false := rfl

/-- Floats that are defined compare as their places do. -/
theorem unpacked_lt_iff (x y : UnpackedFloat) :
    x.lt y = true ↔ x.isNaN = false ∧ y.isNaN = false ∧ level x < level y := by
  rcases x with (_ | _) | _ | _ | ⟨_ | _, mantissa, exponent, _⟩ <;>
    rcases y with (_ | _) | _ | _ | ⟨_ | _, other, power, _⟩ <;>
      dsimp only [UnpackedFloat.lt, UnpackedFloat.compare, isNaN_infinity, isNaN_notANumber, isNaN_zero,
        isNaN_finite, level] <;>
        simp [Prod.Lex.toLex_lt_toLex, Ordering.then_eq_lt, Ordering.then_eq_gt, compare_lt_iff_lt, compare_gt_iff_gt,
          compare_opposite]

theorem unpacked_le_self (x : UnpackedFloat) : x.le x = true ↔ x.isNaN = false := by
  rcases x with _ | _ | _ | ⟨_ | _, _, _, _⟩ <;>
    dsimp only [UnpackedFloat.le, UnpackedFloat.compare, isNaN_infinity, isNaN_notANumber, isNaN_zero,
      isNaN_finite] <;>
      simp [compare_same]

theorem unpacked_limited_iff (x : UnpackedFloat) :
    x.isFinite = true ∨ x.lt (.zero .positive) = true ↔ x.isNaN = false ∧ level x < toLex (2, toLex (0, 0)) := by
  rw [unpacked_lt_iff]
  rcases x with (_ | _) | _ | _ | ⟨_ | _, _, _, _⟩ <;>
    dsimp only [UnpackedFloat.isFinite, isNaN_infinity, isNaN_notANumber, isNaN_zero, isNaN_finite, level] <;>
      simp [Prod.Lex.toLex_lt_toLex]

theorem level_le (x : UnpackedFloat) : level x ≤ toLex (2, toLex (0, 0)) := by
  rcases x with (_ | _) | _ | _ | ⟨_ | _, _, _, _⟩ <;> dsimp only [level] <;>
    simp [Prod.Lex.toLex_le_toLex]

theorem lt_float_iff (x y : Float) :
    x < y ↔ x.toModel.unpack.isNaN = false ∧ y.toModel.unpack.isNaN = false ∧
      level x.toModel.unpack < level y.toModel.unpack := by
  rw [← unpacked_lt_iff]
  exact decide_eq_true_iff

theorem isDefined_float_iff (x : Float) : IsDefined x ↔ x.toModel.unpack.isNaN = false := by
  rw [← unpacked_le_self]
  exact decide_eq_true_iff

theorem limited_float_iff (x : Float) :
    Limited x ↔ x.toModel.unpack.isNaN = false ∧ level x.toModel.unpack < toLex (2, toLex (0, 0)) := by
  rw [← unpacked_limited_iff]
  exact Iff.or Iff.rfl decide_eq_true_iff

instance : Ordered Float where
  asymm less above := lt_asymm ((lt_float_iff _ _).mp less).2.2 ((lt_float_iff _ _).mp above).2.2
  between {a b c} defined less := by
    rw [isDefined_float_iff] at defined
    simp only [lt_float_iff] at less ⊢
    obtain ⟨first, last, below⟩ := less
    exact (lt_or_ge _ (level b.toModel.unpack)).imp (fun before => ⟨first, defined, before⟩)
      fun after => ⟨defined, last, after.trans_lt below⟩
  limited {a b} less := by
    obtain ⟨defined, _, below⟩ := (lt_float_iff a b).mp less
    exact (limited_float_iff a).mpr ⟨defined, below.trans_le (level_le _)⟩
  infinite {a b} limited defined unlimited := by
    rw [isDefined_float_iff] at defined
    rw [limited_float_iff] at limited unlimited
    have top : ¬ level b.toModel.unpack < toLex (2, toLex (0, 0)) := fun below => unlimited ⟨defined, below⟩
    exact (lt_float_iff a b).mpr ⟨limited.1, defined, limited.2.trans_le (not_lt.mp top)⟩

end Number

namespace Ratio
variable {α : Type} [Number α]

/-- The ratio is unbounded or a defined number. -/
def IsDefined : Ratio α → Prop
  | of value => Number.IsDefined value
  | unbounded => True

instance (r : Ratio α) : Decidable r.IsDefined :=
  match r with
  | of value => inferInstanceAs (Decidable (Number.IsDefined value))
  | unbounded => inferInstanceAs (Decidable True)

theorem isDefined_real (r : Ratio ℝ) : r.IsDefined := by
  cases r with
  | of value => exact le_refl value
  | unbounded => trivial

variable [Number.Ordered α] {r s t : Ratio α}

theorem below_asymm (below : r.Below s) : ¬ s.Below r := by
  cases s with
  | unbounded => exact id
  | of b =>
    cases r with
    | unbounded => exact below.elim
    | of a => exact Number.Ordered.asymm below

/-- What lies below a ratio lies below a defined one, or that one does. -/
theorem below_or_below (defined : s.IsDefined) (below : r.Below t) : r.Below s ∨ s.Below t := by
  cases r with
  | unbounded => exact below.elim
  | of a =>
    cases s with
    | of b =>
      cases t with
      | of c => exact Number.Ordered.between defined below
      | unbounded =>
        by_cases limited : Number.Limited b
        · exact .inr limited
        · exact .inl (Number.Ordered.infinite below defined limited)
    | unbounded =>
      cases t with
      | of c => exact .inl (Number.Ordered.limited below)
      | unbounded => exact .inl below

end Ratio
end Stablecoin
