namespace Stablecoin.Decimal

/-- The digits of a numeral without their point, and where the point stood. -/
structure Numeral where
  negative : Bool
  digits : Nat
  exponent : Int
deriving Repr, DecidableEq

/-- The value of a digit. -/
def digitValue (c : Char) : Nat := c.toNat - 48

/-- The number that the digits make, continued from `start`. -/
def digitsValue (start : Nat) (digits : List Char) : Nat :=
  digits.foldl (fun value c => 10 * value + digitValue c) start

/-- The nearest float to a numeral. Exponents far beyond those of the floats are decided
    without computing the power. -/
def Numeral.toFloat (n : Numeral) : Float :=
  let size := (toString n.digits).length
  let magnitude :=
    if n.digits = 0 then 0.0
    else if n.exponent + size < -400 then 0.0
    else if 400 < n.exponent + size then 1.0 / 0.0
    else Float.ofScientific n.digits (decide (n.exponent < 0)) n.exponent.natAbs
  if n.negative then -magnitude else magnitude

/-- The sign in front of the characters, and what follows it. -/
def splitSign : List Char → Bool × List Char
  | '-' :: rest => (true, rest)
  | '+' :: rest => (false, rest)
  | text => (false, text)

/-- The leading digits of the characters, and what follows them. -/
def splitDigits (text : List Char) : List Char × List Char := text.span Char.isDigit

/-- The exponent that the characters after its mark write, all of them. -/
def exponent? (text : List Char) : Option Int :=
  let (negative, rest) := splitSign text
  let (digits, rest) := splitDigits rest
  if digits.isEmpty ∨ ¬ rest.isEmpty then none
  else
    let value : Int := digitsValue 0 digits
    some (if negative then -value else value)

/-- The numeral that the characters write. -/
def numeral? (text : List Char) : Option Numeral := do
  let (negative, rest) := splitSign text
  let (whole, rest) := splitDigits rest
  let (fraction, rest) :=
    match rest with
    | '.' :: rest => splitDigits rest
    | _ => ([], rest)
  guard (¬ (whole.isEmpty ∧ fraction.isEmpty))
  let exponent ←
    match rest with
    | [] => some 0
    | mark :: rest => if mark = 'e' ∨ mark = 'E' then exponent? rest else none
  return ⟨negative, digitsValue 0 (whole ++ fraction), exponent - fraction.length⟩

/-- The text in lower case is one of the words. -/
def isWord (words : List String) (text : List Char) : Bool :=
  words.contains (String.ofList (text.map Char.toLower))

/-- The float that the characters write: a numeral, or a word for infinity or for an
    undefined number, in any case and with an optional sign. -/
def float? (text : List Char) : Option Float :=
  match numeral? text with
  | some n => some n.toFloat
  | none =>
    let (negative, rest) := splitSign text
    if isWord ["inf", "infinity"] rest then
      some (if negative then -(1.0 / 0.0) else 1.0 / 0.0)
    else if isWord ["nan"] rest then some (0.0 / 0.0)
    else none

end Stablecoin.Decimal
