import Stablecoin.Proofs.Decimal.Layout
import Stablecoin.Toml.Reader

namespace Stablecoin.Toml
open Decimal (digitsValue signed splitSign)

theorem ne_of_isDigit {c d : Char} (digit : c.isDigit = true) (other : d.isDigit = false) : c ≠ d := by
  rintro rfl
  rw [digit] at other
  cases other

/-- The digits of a number end at the first character that is none. -/
theorem moreDigits_append {digits : List Char} (all : ∀ c ∈ digits, c.isDigit = true) {stop : Char}
    (ends : stop = '.' ∨ stop = '\n') (rest : List Char) :
    moreDigits? Char.isDigit (digits ++ stop :: rest) = some (digits, stop :: rest) := by
  induction digits with
  | nil => rcases ends with rfl | rfl <;> simp [moreDigits?]
  | cons c digits ih =>
    have digit := all c List.mem_cons_self
    have mark : c ≠ '_' := ne_of_isDigit digit rfl
    have tail := ih fun d member => all d (List.mem_cons_of_mem c member)
    rw [List.cons_append, moreDigits?, if_pos digit, tail]
    · rfl
    all_goals simp [mark]

theorem digits_append {digits : List Char} (all : ∀ c ∈ digits, c.isDigit = true) (some : digits ≠ [])
    {stop : Char} (ends : stop = '.' ∨ stop = '\n') (rest : List Char) :
    digits? Char.isDigit (digits ++ stop :: rest) = .some (digits, stop :: rest) := by
  obtain ⟨c, digits, rfl⟩ := List.exists_cons_of_ne_nil some
  rw [List.cons_append, digits?, if_pos (all c List.mem_cons_self),
    moreDigits_append (fun d member => all d (List.mem_cons_of_mem c member)) ends]
  rfl

/-- Digits before a point or a line end, with no zero in front of others. -/
structure Whole (digits : List Char) (stop : Char) : Prop where
  all : ∀ c ∈ digits, c.isDigit = true
  some : digits ≠ []
  leading : digits.head? = .some '0' → digits = ['0']
  ends : stop = '.' ∨ stop = '\n'

variable {digits : List Char} {stop : Char}

theorem Whole.cons (whole : Whole digits stop) : ∃ c more, digits = c :: more ∧ c.isDigit = true := by
  obtain ⟨c, more, rfl⟩ := List.exists_cons_of_ne_nil whole.some
  exact ⟨c, more, rfl, whole.all c List.mem_cons_self⟩

theorem Whole.read (whole : Whole digits stop) (rest : List Char) :
    wholeDigits? (digits ++ stop :: rest) = .some (digits, stop :: rest) := by
  obtain ⟨c, more, rfl, -⟩ := whole.cons
  by_cases zero : c = '0'
  · subst zero
    obtain ⟨rfl⟩ := List.cons_eq_cons.mp (whole.leading rfl) |>.2
    rfl
  · rw [← digits_append whole.all whole.some whole.ends rest]
    simp [wholeDigits?, zero]

theorem splitSign_digits (whole : Whole digits stop) (rest : List Char) (negative : Bool) :
    splitSign (signed negative (digits ++ stop :: rest)) = (negative, digits ++ stop :: rest) := by
  obtain ⟨c, more, rfl, digit⟩ := whole.cons
  cases negative with
  | true => rfl
  | false => simp [splitSign, ne_of_isDigit digit (d := '-') rfl, ne_of_isDigit digit (d := '+') rfl]

/-- Digits, and then a point or a line end. -/
def Numeric (text : List Char) : Prop :=
  ∃ digits stop rest, text = digits ++ stop :: rest ∧ (∀ c ∈ digits, c.isDigit = true) ∧ (stop = '.' ∨ stop = '\n')

theorem Whole.numeric (whole : Whole digits stop) (rest : List Char) : Numeric (digits ++ stop :: rest) :=
  ⟨digits, stop, rest, rfl, whole.all, whole.ends⟩

/-- Such a text does not go on as a date or a time does. -/
theorem Numeric.head {c : Char} {rest : List Char} (numeric : Numeric (c :: rest)) : c ≠ '-' ∧ c ≠ ':' := by
  obtain ⟨digits, stop, rest', split, all, ends⟩ := numeric
  cases digits with
  | nil =>
    obtain ⟨rfl, -⟩ := List.cons_eq_cons.mp split
    rcases ends with rfl | rfl <;> decide
  | cons d digits =>
    obtain ⟨rfl, -⟩ := List.cons_eq_cons.mp split
    have digit := all c List.mem_cons_self
    exact ⟨ne_of_isDigit digit rfl, ne_of_isDigit digit rfl⟩

theorem Numeric.twoDigits {text rest : List Char} (numeric : Numeric text) {value : ℕ}
    (read : twoDigits? text = some (value, rest)) : Numeric rest := by
  obtain ⟨digits, stop, rest', rfl, all, ends⟩ := numeric
  have stops : stop.isDigit = false := by rcases ends with rfl | rfl <;> rfl
  match digits with
  | [] =>
    cases rest' <;> simp [twoDigits?, stops] at read
  | [a] => simp [twoDigits?, stops] at read
  | a :: b :: digits =>
    simp only [List.cons_append, twoDigits?, all a (by simp), all b (by simp), and_self, if_true,
      Option.some.injEq, Prod.mk.injEq] at read
    obtain ⟨-, rfl⟩ := read
    exact ⟨digits, stop, rest', rfl, fun c member => all c (by simp [member]), ends⟩

theorem Numeric.between {text rest : List Char} (numeric : Numeric text) {least most value : ℕ}
    (read : between? least most text = some (value, rest)) : Numeric rest := by
  unfold between? at read
  obtain ⟨⟨value', rest'⟩, digits, read⟩ := Option.bind_eq_some_iff.mp read
  dsimp only at read
  split at read
  · cases read
    exact numeric.twoDigits digits
  · cases read

theorem Numeric.afterTime {text : List Char} (numeric : Numeric text) : afterTime? text = none := by
  unfold afterTime?
  cases hour : between? 0 23 text with
  | none => rfl
  | some read =>
    obtain ⟨value, rest⟩ := read
    have numeric := numeric.between hour
    cases rest with
    | nil => rfl
    | cons c rest => simp [numeric.head.2]

theorem Numeric.afterDate {text : List Char} (numeric : Numeric text) : afterDate? text = none := by
  unfold afterDate?
  cases century : twoDigits? text with
  | none => rfl
  | some read =>
    obtain ⟨value, rest⟩ := read
    have numeric := numeric.twoDigits century
    cases year : twoDigits? rest with
    | none => simp [year]
    | some read =>
      obtain ⟨value', rest⟩ := read
      have numeric := numeric.twoDigits year
      cases rest with
      | nil => simp [year]
      | cons c rest => simp [year, numeric.head.1]

theorem moment_none (whole : Whole digits stop) (rest : List Char) (negative : Bool) :
    moment? (signed negative (digits ++ stop :: rest)) = none := by
  cases negative with
  | true =>
    obtain ⟨c, more, rfl, -⟩ := whole.cons
    rfl
  | false =>
    have numeric := whole.numeric rest
    simp [moment?, numeric.afterDate, numeric.afterTime]

/-- A text that begins with a digit is no hexadecimal, octal or binary number if a zero in
    front stands alone. -/
theorem number_eq (whole : Whole digits stop) (rest : List Char) (negative : Bool) :
    number? (signed negative (digits ++ stop :: rest)) =
      decimal? (signed negative (digits ++ stop :: rest)) := by
  have sign := splitSign_digits whole rest negative
  obtain ⟨c, more, rfl, digit⟩ := whole.cons
  have special : special? (signed negative (c :: more ++ stop :: rest)) = none := by
    rw [special?, sign]
    simp [ne_of_isDigit digit (d := 'i') rfl, ne_of_isDigit digit (d := 'n') rfl]
  cases negative with
  | true =>
    simp only [Decimal.signed_true, List.cons_append] at special ⊢
    rw [number?, special]
    · rfl
    all_goals simp
  | false =>
    by_cases zero : c = '0'
    · subst zero
      obtain rfl := (List.cons_eq_cons.mp (whole.leading rfl)).2
      -- No letter of another base can stand behind the zero.
      rcases whole.ends with rfl | rfl <;> rfl
    · simp only [Decimal.signed_false, List.cons_append] at special ⊢
      rw [number?, special]
      · rfl
      all_goals simp [zero]

/-- A value that begins with a digit or a sign and is no date is a decimal number. -/
theorem value_eq_decimal (whole : Whole digits stop) (rest : List Char) (negative : Bool) (depth : ℕ) :
    value? depth (signed negative (digits ++ stop :: rest)) =
      decimal? (signed negative (digits ++ stop :: rest)) := by
  have moment := moment_none whole rest negative
  have number := number_eq whole rest negative
  obtain ⟨c, more, rfl, digit⟩ := whole.cons
  cases negative with
  | true =>
    simp only [Decimal.signed_true, List.cons_append] at moment number ⊢
    rw [value?, string?, moment, number]
    · rfl
    all_goals simp
  | false =>
    simp only [Decimal.signed_false, List.cons_append] at moment number ⊢
    rw [value?, string?, moment, number]
    · rfl
    all_goals simp [ne_of_isDigit digit]

theorem decimal_integer (whole : Whole digits '\n') (rest : List Char) :
    decimal? (digits ++ '\n' :: rest) = (integer? (digitsValue 0 digits)).map (·, '\n' :: rest) := by
  have sign := splitSign_digits whole rest false
  simp only [Decimal.signed_false] at sign
  rw [decimal?, sign]
  simp [whole.read rest, fraction?, exponent?, Option.map_eq_bind]

theorem decimal_fraction (whole : Whole digits '.') {fraction : List Char}
    (all : ∀ c ∈ fraction, c.isDigit = true) (some : fraction ≠ []) (rest : List Char) (negative : Bool) :
    decimal? (signed negative (digits ++ '.' :: (fraction ++ '\n' :: rest))) =
      (float? ⟨negative, digitsValue 0 (digits ++ fraction), -fraction.length⟩).map (·, '\n' :: rest) := by
  have behind := digits_append all some (.inr rfl) rest
  rw [decimal?, splitSign_digits whole (fraction ++ '\n' :: rest) negative]
  simp [whole.read, fraction?, behind, exponent?, some, Option.map_eq_bind]

/-- A finite float is not beyond all others. -/
theorem ne_infinity {x : Float} (finite : x.isFinite = true) : (x == 1.0 / 0.0) = false := by
  have infinite : (1.0 / 0.0 : Float).toModel.unpack = .infinity .positive := by rfl
  change x.toModel.unpack.beq (1.0 / 0.0 : Float).toModel.unpack = false
  rcases Decimal.unpack_eq finite with ⟨-, parts⟩ | ⟨_, -, parts⟩ <;> rw [parts, infinite]
  · rfl
  · cases Decimal.signOf x <;> rfl

/-- No blank stands in front of a number. -/
theorem afterSpace_digits (whole : Whole digits stop) (rest : List Char) (negative : Bool) :
    afterSpace (signed negative (digits ++ stop :: rest)) =
      signed negative (digits ++ stop :: rest) := by
  obtain ⟨c, more, rfl, digit⟩ := whole.cons
  cases negative with
  | true => rfl
  | false => simp [afterSpace, isSpace, ne_of_isDigit digit (d := ' ') rfl, ne_of_isDigit digit (d := '\t') rfl]

/-- A text that is read as a value up to the end of its line, behind blanks. -/
def Spells (text : List Char) (value : Toml) : Prop :=
  ∀ rest, value? deepest (afterSpace (text ++ '\n' :: rest)) = some (value, '\n' :: rest)

/-- A number of the format's range, written with its digits, reads back. -/
theorem spells_integer {n : ℕ} (fits : (n : ℤ) ≤ Int64.maxValue.toInt) : Spells (toString n).toList (.integer n) := by
  intro rest
  have whole : Whole (Nat.toDigits 10 n) '\n' :=
    ⟨fun c => Decimal.isDigit_of_mem_toDigits, Nat.toDigits_ne_nil,
      fun zero => by rw [Decimal.eq_zero_of_head zero]; rfl, .inr rfl⟩
  have unspaced := afterSpace_digits whole rest false
  have read := value_eq_decimal whole rest false deepest
  simp only [Decimal.signed_false] at unspaced read
  rw [Decimal.toList_toString, unspaced, read, decimal_integer whole, Decimal.digitsValue_toDigits, integer?, if_pos]
  · rfl
  · exact ⟨(show Int64.minValue.toInt ≤ 0 by decide).trans (Int.natCast_nonneg n), fits⟩

/-- A finite float, written with all its digits, reads back. -/
theorem spells_float {layout : Decimal.Layout} (full : layout.positional = none) (point : layout.pointZero = true)
    {x : Float} (finite : x.isFinite = true) : Spells (layout.render x).toList (.float x) := by
  intro rest
  obtain ⟨before, fraction, text, plain, value⟩ := Decimal.Layout.toList_render full point finite
  have whole : Whole before '.' :=
    ⟨fun c member => plain.digits c (by simp [member]), plain.before, plain.leading, .inl rfl⟩
  have behind : ∀ c ∈ fraction, c.isDigit = true := fun c member => plain.digits c (by simp [member])
  have shape : (layout.render x).toList ++ '\n' :: rest =
      signed (Decimal.isNegative x) (before ++ '.' :: (fraction ++ '\n' :: rest)) := by
    rw [text]
    cases Decimal.isNegative x <;> simp
  rw [shape, afterSpace_digits whole, value_eq_decimal whole, decimal_fraction whole behind plain.behind, float?]
  simp [value, ne_infinity finite]

end Stablecoin.Toml
