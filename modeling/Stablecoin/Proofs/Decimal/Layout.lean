import Stablecoin.Decimal.Layout
import Stablecoin.Proofs.Decimal.Numeral

namespace Stablecoin.Decimal

theorem digitsValue_append (start : ℕ) (front back : List Char) :
    digitsValue start (front ++ back) = digitsValue (digitsValue start front) back :=
  List.foldl_append

theorem digitsValue_replicate_zero (start places : ℕ) :
    digitsValue start (List.replicate places '0') = 10 ^ places * start := Nat.ofDigitChars_replicate_zero

theorem digitsValue_toDigits (n : ℕ) : digitsValue 0 (Nat.toDigits 10 n) = n :=
  Nat.ofDigitChars_toDigits (by decide) (by decide)

theorem isDigit_of_mem_toDigits {n : ℕ} {c : Char} (member : c ∈ Nat.toDigits 10 n) : c.isDigit = true :=
  Nat.isDigit_of_mem_toDigits (by decide) (by decide) member

/-- Only the number zero is written with a zero in front. -/
theorem eq_zero_of_head {n : ℕ} (zero : (Nat.toDigits 10 n).head? = some '0') : n = 0 := by
  induction n using Nat.strong_induction_on with
  | _ n ih =>
    rw [Nat.toDigits_eq_if (by decide)] at zero
    split at zero
    · next single =>
      interval_cases n <;> simp_all [Nat.digitChar]
    · next more =>
      -- The first digit of a longer number is that of its tenth part.
      rw [List.head?_append_of_ne_nil _ Nat.toDigits_ne_nil] at zero
      have none := ih (n / 10) (by omega) zero
      omega

theorem toList_pushn (n : ℕ) : ("".pushn '0' n).toList = List.replicate n '0' := by
  have all : ∀ s : String, (s.pushn '0' n).toList = s.toList ++ List.replicate n '0' := by
    intro s
    induction n with
    | zero => simp [String.pushn, Nat.repeat]
    | succ n ih =>
      rw [String.pushn, Nat.repeat, String.toList_push, ← String.pushn, ih, List.replicate_succ', List.append_assoc]
  simpa using all ""

theorem toList_toString (n : ℕ) : (toString n).toList = Nat.toDigits 10 n := by
  rw [Nat.toString_eq_repr, Nat.toList_repr]

/-- Digits before a point and behind it, as a number is written: nothing stands before
    the first digit but a zero alone. -/
structure Plain (whole fraction : List Char) : Prop where
  digits : ∀ c ∈ whole ++ fraction, c.isDigit = true
  before : whole ≠ []
  behind : fraction ≠ []
  leading : whole.head? = some '0' → whole = ['0']

namespace Layout

/-- A number without fraction gets a zero behind its point. -/
theorem plain_whole {n exponent : ℕ} (zero : n = 0 → exponent = 0) :
    Plain (Nat.toDigits 10 n ++ List.replicate exponent '0') ['0'] where
  digits c member := by
    simp only [List.append_assoc, List.mem_append, List.mem_replicate, List.mem_singleton] at member
    rcases member with digit | ⟨-, rfl⟩ | rfl
    · exact isDigit_of_mem_toDigits digit
    · rfl
    · rfl
  before := by simp [Nat.toDigits_ne_nil]
  behind := by simp
  leading first := by
    rw [List.head?_append_of_ne_nil _ Nat.toDigits_ne_nil] at first
    obtain rfl := eq_zero_of_head first
    rw [zero rfl]
    rfl

/-- The last places stand behind the point; zeros in front make one digit stand before it. -/
theorem plain_fraction {n places : ℕ} (some : 0 < places) :
    let padded := List.replicate (places + 1 - (Nat.toDigits 10 n).length) '0' ++ Nat.toDigits 10 n
    Plain (padded.take (padded.length - places)) (padded.drop (padded.length - places)) := by
  intro padded
  have filled : 0 < (Nat.toDigits 10 n).length := List.length_pos_iff.mpr Nat.toDigits_ne_nil
  have long : padded.length = max (places + 1) (Nat.toDigits 10 n).length := by
    simp only [padded, List.length_append, List.length_replicate]
    omega
  refine ⟨fun c member => ?_, ?_, ?_, fun first => ?_⟩
  · rw [List.take_append_drop] at member
    rcases List.mem_append.mp member with zero | digit
    · rw [(List.mem_replicate.mp zero).2]
      rfl
    · exact isDigit_of_mem_toDigits digit
  · rw [← List.length_pos_iff, List.length_take]
    omega
  · rw [← List.length_pos_iff, List.length_drop]
    omega
  · rcases Nat.lt_or_ge places (Nat.toDigits 10 n).length with inside | front
    · -- No zero is put in front, and the first digit is not zero.
      have unpadded : padded = Nat.toDigits 10 n := by
        simp only [padded, Nat.sub_eq_zero_of_le inside, List.replicate_zero, List.nil_append]
      rw [List.head?_take, if_neg (by omega), unpadded] at first
      obtain rfl := eq_zero_of_head first
      simp at inside
      omega
    · rw [show padded.length - places = 1 by omega]
      simp only [padded]
      rw [Nat.succ_sub front, List.replicate_succ]
      rfl

/-- The digits of a decimal, with the point put in. -/
theorem toList_position {layout : Layout} (point : layout.pointZero = true) {d : Digits}
    (zero : d.digits = 0 → d.exponent = 0) :
    ∃ whole fraction, (layout.position d).toList = whole ++ '.' :: fraction ∧ Plain whole fraction ∧
      (digitsValue 0 (whole ++ fraction) : ℚ) * 10 ^ (-(fraction.length : ℤ)) = d.value := by
  obtain ⟨digits, exponent⟩ := d
  unfold position
  dsimp only at zero ⊢
  split
  · next whole =>
    obtain ⟨places, rfl⟩ := Int.eq_ofNat_of_zero_le whole
    refine ⟨Nat.toDigits 10 digits ++ List.replicate places '0', ['0'], ?_, plain_whole (by omega), ?_⟩
    · simp [toList_pushn]
    · rw [digitsValue_append, digitsValue_append, digitsValue_toDigits, digitsValue_replicate_zero]
      simp [digitsValue, digitValue, Digits.value]
      ring
  · next fraction =>
    obtain ⟨places, rfl⟩ := Int.exists_eq_neg_ofNat (show exponent ≤ 0 by omega)
    have some : 0 < places := by omega
    refine ⟨_, _, ?_, @plain_fraction digits _ some, ?_⟩
    · simp only [neg_neg, Int.toNat_natCast, String.toList_append, String.toList_copy_take, String.toList_copy_drop,
        toList_pushn, toList_toString, ← String.length_toList]
      simp
    · rw [List.take_append_drop, digitsValue_append, digitsValue_replicate_zero, mul_zero, digitsValue_toDigits]
      have length : ∀ padded : List Char, places + 1 ≤ padded.length →
          (padded.drop (padded.length - places)).length = places := by
        intro padded long
        rw [List.length_drop]
        omega
      rw [length _ ?_]
      · rfl
      · simp only [List.length_append, List.length_replicate]
        omega

end Layout

theorem isNaN_of_isFinite {x : Float} (finite : x.isFinite = true) : x.isNaN = false := by
  change x.toModel.unpack.isNaN = false
  rcases unpack_eq finite with ⟨-, parts⟩ | ⟨_, -, parts⟩ <;> rw [parts] <;> rfl

/-- The shortest digits of a finite float read back to it. -/
theorem toFloat_shortest {x : Float} (finite : x.isFinite = true) (tie : Tie) {n : Numeral}
    (sign : n.negative = isNegative x)
    (value : (n.digits * 10 ^ n.exponent : ℚ) = (shortest tie (Binary.ofBits x.toBits)).value) : n.toFloat = x := by
  by_cases zero : (Binary.ofBits x.toBits).significand = 0
  · refine Numeral.toFloat_zero finite zero sign ?_
    rw [shortest, if_pos zero] at value
    simpa [Digits.value, zpow_ne_zero] using value
  · refine Numeral.toFloat_eq finite zero sign ?_
    rw [value]
    exact shortest_attracted tie (Nat.pos_of_ne_zero zero)

/-- The digits are zero for the number zero alone, and then stand at the point. -/
theorem shortest_zero {x : Float} (finite : x.isFinite = true) (tie : Tie)
    (zero : (shortest tie (Binary.ofBits x.toBits)).digits = 0) :
    (shortest tie (Binary.ofBits x.toBits)).exponent = 0 := by
  rcases unpack_eq finite with ⟨none, -⟩ | ⟨canonical, -⟩
  · rw [shortest, if_pos none]
  · have least := (shortest_attracted tie canonical.positive).ge canonical
    rw [Digits.value, zero, Nat.cast_zero, zero_mul] at least
    exact absurd least (not_le.mpr (by positivity))

/-- The text behind a sign, which only negative numbers have. -/
def signed (negative : Bool) (text : List Char) : List Char := if negative then '-' :: text else text

@[simp] theorem signed_true (text : List Char) : signed true text = '-' :: text := rfl

@[simp] theorem signed_false (text : List Char) : signed false text = text := rfl

/-- A finite float written without exponent reads back: a sign, and digits on both
    sides of a point. -/
theorem Layout.toList_render {layout : Layout} (full : layout.positional = none) (point : layout.pointZero = true)
    {x : Float} (finite : x.isFinite = true) :
    ∃ whole fraction,
      (layout.render x).toList = signed (isNegative x) (whole ++ '.' :: fraction) ∧
        Plain whole fraction ∧
        (⟨isNegative x, digitsValue 0 (whole ++ fraction), -fraction.length⟩ : Numeral).toFloat = x := by
  obtain ⟨whole, fraction, text, plain, value⟩ :=
    toList_position point (shortest_zero finite layout.tie)
  refine ⟨whole, fraction, ?_, plain, toFloat_shortest finite layout.tie rfl value⟩
  simp only [render, isNaN_of_isFinite finite, finite, magnitude, full, Bool.false_eq_true, if_false, if_true,
    String.toList_append, text]
  cases isNegative x <;> rfl

end Stablecoin.Decimal
