import Stablecoin.Decimal.Numeral
import Stablecoin.Toml.Value

namespace Stablecoin.Toml
open Decimal (digitsValue splitDigits)

/-- A character that may stand in a comment or, its own marks apart, in a string. -/
def isVisible (c : Char) : Bool := c = '\t' || (' ' ≤ c && c ≠ '\x7f')

def isSpace (c : Char) : Bool := c = ' ' || c = '\t'

/-- What follows a line end at the front of the characters. -/
def afterLineEnd? : List Char → Option (List Char)
  | '\n' :: rest => some rest
  | '\r' :: '\n' :: rest => some rest
  | _ => none

def hexValue? (c : Char) : Option Nat :=
  if '0' ≤ c ∧ c ≤ '9' then some (c.toNat - 48)
  else if 'a' ≤ c ∧ c ≤ 'f' then some (c.toNat - 87)
  else if 'A' ≤ c ∧ c ≤ 'F' then some (c.toNat - 55)
  else none

/-- The character with the code that the digits write. -/
def coded? (digits : List Char) : Option Char := do
  let values ← digits.mapM hexValue?
  let code := values.foldl (fun code value => 16 * code + value) 0
  if code < 0xD800 ∨ 0xE000 ≤ code ∧ code < 0x110000 then some (Char.ofNat code) else none

/-- The character that an escape of one letter stands for. -/
def escaped? : Char → Option Char
  | '"' => some '"'
  | '\\' => some '\\'
  | 'b' => some '\x08'
  | 't' => some '\t'
  | 'n' => some '\n'
  | 'f' => some '\x0c'
  | 'r' => some '\r'
  | _ => none

/-- The rest of a string between double quotes; `read` holds its characters, the last
    one first. -/
def basic? (read : List Char) : List Char → Option (List Char × List Char)
  | [] => none
  | '"' :: rest => some (read.reverse, rest)
  | '\\' :: 'u' :: a :: b :: c :: d :: rest =>
    match coded? [a, b, c, d] with
    | some c => basic? (c :: read) rest
    | none => none
  | '\\' :: 'U' :: a :: b :: c :: d :: e :: f :: g :: h :: rest =>
    match coded? [a, b, c, d, e, f, g, h] with
    | some c => basic? (c :: read) rest
    | none => none
  | '\\' :: c :: rest =>
    match escaped? c with
    | some c => basic? (c :: read) rest
    | none => none
  | c :: rest => if isVisible c then basic? (c :: read) rest else none

/-- The rest of a string between single quotes. -/
def literal? (read : List Char) : List Char → Option (List Char × List Char)
  | [] => none
  | '\'' :: rest => some (read.reverse, rest)
  | c :: rest => if isVisible c then literal? (c :: read) rest else none

/-- The rest of a string of several lines between double quotes. Up to two quotes may
    stand before the three that close it. A backslash at the end of a line folds
    it: all blanks and line ends up to the next character are left out. -/
def longBasic? (read : List Char) : Bool → List Char → Option (List Char × List Char)
  | _, [] => none
  | true, ' ' :: rest => longBasic? read true rest
  | true, '\t' :: rest => longBasic? read true rest
  | true, '\n' :: rest => longBasic? read true rest
  | true, '\r' :: '\n' :: rest => longBasic? read true rest
  | _, '"' :: '"' :: '"' :: '"' :: '"' :: rest => some (('"' :: '"' :: read).reverse, rest)
  | _, '"' :: '"' :: '"' :: '"' :: rest => some (('"' :: read).reverse, rest)
  | _, '"' :: '"' :: '"' :: rest => some (read.reverse, rest)
  | _, '\n' :: rest => longBasic? ('\n' :: read) false rest
  | _, '\r' :: '\n' :: rest => longBasic? ('\n' :: read) false rest
  | _, '\\' :: 'u' :: a :: b :: c :: d :: rest =>
    match coded? [a, b, c, d] with
    | some c => longBasic? (c :: read) false rest
    | none => none
  | _, '\\' :: 'U' :: a :: b :: c :: d :: e :: f :: g :: h :: rest =>
    match coded? [a, b, c, d, e, f, g, h] with
    | some c => longBasic? (c :: read) false rest
    | none => none
  | _, '\\' :: c :: rest =>
    match escaped? c with
    | some c => longBasic? (c :: read) false rest
    | none =>
      if (afterLineEnd? ((c :: rest).dropWhile isSpace)).isSome then longBasic? read true rest else none
  | _, c :: rest => if isVisible c then longBasic? (c :: read) false rest else none

/-- The rest of a string of several lines between single quotes. -/
def longLiteral? (read : List Char) : List Char → Option (List Char × List Char)
  | [] => none
  | '\'' :: '\'' :: '\'' :: '\'' :: '\'' :: rest => some (('\'' :: '\'' :: read).reverse, rest)
  | '\'' :: '\'' :: '\'' :: '\'' :: rest => some (('\'' :: read).reverse, rest)
  | '\'' :: '\'' :: '\'' :: rest => some (read.reverse, rest)
  | '\n' :: rest => longLiteral? ('\n' :: read) rest
  | '\r' :: '\n' :: rest => longLiteral? ('\n' :: read) rest
  | c :: rest => if isVisible c then longLiteral? (c :: read) rest else none

/-- The characters without a line end in front of them. -/
def withoutFirstLineEnd (text : List Char) : List Char := (afterLineEnd? text).getD text

/-- The string at the front of the characters. -/
def string? : List Char → Option (List Char × List Char)
  | '"' :: '"' :: '"' :: rest => longBasic? [] false (withoutFirstLineEnd rest)
  | '\'' :: '\'' :: '\'' :: rest => longLiteral? [] (withoutFirstLineEnd rest)
  | '"' :: rest => basic? [] rest
  | '\'' :: rest => literal? [] rest
  | _ => none

/-- Further digits of a number. An underscore may stand between two digits. -/
def moreDigits? (isDigit : Char → Bool) : List Char → Option (List Char × List Char)
  | '_' :: c :: rest =>
    if isDigit c then (moreDigits? isDigit rest).map fun (digits, rest) => (c :: digits, rest) else none
  | ['_'] => none
  | c :: rest =>
    if isDigit c then (moreDigits? isDigit rest).map fun (digits, rest) => (c :: digits, rest)
    else some ([], c :: rest)
  | [] => some ([], [])

/-- Digits, at least one. -/
def digits? (isDigit : Char → Bool) : List Char → Option (List Char × List Char)
  | c :: rest =>
    if isDigit c then (moreDigits? isDigit rest).map fun (digits, rest) => (c :: digits, rest) else none
  | [] => none

/-- The digits of a decimal number before its point. A leading zero stands alone. -/
def wholeDigits? : List Char → Option (List Char × List Char)
  | '0' :: rest => some (['0'], rest)
  | text => digits? Char.isDigit text

/-- The fraction behind a point, no digits where there is no point. -/
def fraction? : List Char → Option (List Char × List Char)
  | '.' :: rest => digits? Char.isDigit rest
  | text => some ([], text)

/-- The exponent of a number, if there is one. -/
def exponent? : List Char → Option (Option Int × List Char)
  | mark :: rest =>
    if mark = 'e' ∨ mark = 'E' then
      let (negative, rest) := Decimal.splitSign rest
      (digits? Char.isDigit rest).map fun (digits, rest) =>
        let value : Int := digitsValue 0 digits
        (some (if negative then -value else value), rest)
    else some (none, mark :: rest)
  | [] => some (none, [])

/-- An integer of 64 bits with a sign. -/
def integer? (n : Int) : Option Toml :=
  if Int64.minValue.toInt ≤ n ∧ n ≤ Int64.maxValue.toInt then some (.integer n) else none

/-- A float that is not beyond all others. Below all others it may lie. -/
def float? (n : Decimal.Numeral) : Option Toml :=
  let x := n.toFloat
  if x == 1.0 / 0.0 then none else some (.float x)

/-- The decimal number at the front of the characters: a float if it has a fraction or
    an exponent. -/
def decimal? (text : List Char) : Option (Toml × List Char) := do
  let (negative, rest) := Decimal.splitSign text
  let (whole, rest) ← wholeDigits? rest
  let (fraction, rest) ← fraction? rest
  let (exponent, rest) ← exponent? rest
  if fraction.isEmpty ∧ exponent.isNone then
    let value : Int := digitsValue 0 whole
    return (← integer? (if negative then -value else value), rest)
  else
    return (← float? ⟨negative, digitsValue 0 (whole ++ fraction), exponent.getD 0 - fraction.length⟩, rest)

/-- The integer of the given radix whose digits stand at the front of the characters. -/
def radix? (radix : Nat) (text : List Char) : Option (Toml × List Char) := do
  let isDigit (c : Char) : Bool := (hexValue? c).any (· < radix)
  let (digits, rest) ← digits? isDigit text
  let value := digits.foldl (fun value c => radix * value + (hexValue? c).getD 0) 0
  return (← integer? value, rest)

/-- The word for a float without digits at the front of the characters, behind its sign. -/
def special? (text : List Char) : Option (Toml × List Char) :=
  let (negative, rest) := Decimal.splitSign text
  match rest with
  | 'i' :: 'n' :: 'f' :: rest => some (.float (if negative then -(1.0 / 0.0) else 1.0 / 0.0), rest)
  | 'n' :: 'a' :: 'n' :: rest => some (.float (0.0 / 0.0), rest)
  | _ => none

def number? : List Char → Option (Toml × List Char)
  | '0' :: 'x' :: rest => radix? 16 rest
  | '0' :: 'o' :: rest => radix? 8 rest
  | '0' :: 'b' :: rest => radix? 2 rest
  | text => (special? text).or (decimal? text)

/-- The number that two digits at the front of the characters write. -/
def twoDigits? : List Char → Option (Nat × List Char)
  | a :: b :: rest => if a.isDigit ∧ b.isDigit then some (digitsValue 0 [a, b], rest) else none
  | _ => none

/-- Two digits within bounds. -/
def between? (least most : Nat) (text : List Char) : Option (Nat × List Char) := do
  let (value, rest) ← twoDigits? text
  if least ≤ value ∧ value ≤ most then some (value, rest) else none

def IsLeapYear (year : Nat) : Prop := year % 4 = 0 ∧ (year % 100 ≠ 0 ∨ year % 400 = 0)

instance (year : Nat) : Decidable (IsLeapYear year) := inferInstanceAs (Decidable (_ ∧ _))

def daysInMonth (year month : Nat) : Nat :=
  if month = 2 then if IsLeapYear year then 29 else 28
  else if month = 4 ∨ month = 6 ∨ month = 9 ∨ month = 11 then 30
  else 31

/-- What follows a date at the front of the characters. -/
def afterDate? (text : List Char) : Option (List Char) := do
  let (century, rest) ← twoDigits? text
  let (year, rest) ← twoDigits? rest
  let '-' :: rest := rest | none
  let (month, rest) ← between? 1 12 rest
  let '-' :: rest := rest | none
  let (_, rest) ← between? 1 (daysInMonth (100 * century + year) month) rest
  return rest

/-- What follows a fraction of a second, of at least one digit if there is a point. -/
def afterSecondFraction? : List Char → Option (List Char)
  | '.' :: rest =>
    let (digits, rest) := splitDigits rest
    if digits.isEmpty then none else some rest
  | text => some text

/-- What follows a time of day at the front of the characters. -/
def afterTime? (text : List Char) : Option (List Char) := do
  let (_, rest) ← between? 0 23 text
  let ':' :: rest := rest | none
  let (_, rest) ← between? 0 59 rest
  let ':' :: rest := rest | none
  let (_, rest) ← between? 0 60 rest
  afterSecondFraction? rest

/-- What follows an offset from universal time, if there is one. -/
def afterOffset? : List Char → Option (List Char)
  | 'Z' :: rest => some rest
  | 'z' :: rest => some rest
  | mark :: rest =>
    if mark = '+' ∨ mark = '-' then do
      let (_, rest) ← between? 0 23 rest
      let ':' :: rest := rest | none
      let (_, rest) ← between? 0 59 rest
      return rest
    else some (mark :: rest)
  | [] => some []

/-- The date, time or both at the front of the characters. -/
def moment? (text : List Char) : Option (Toml × List Char) :=
  match afterDate? text with
  | some rest =>
    match rest with
    | mark :: time =>
      if mark = 'T' ∨ mark = 't' ∨ mark = ' ' then
        match afterTime? time with
        | some rest => (afterOffset? rest).map (.moment, ·)
        | none => some (.moment, rest)
      else some (.moment, rest)
    | [] => some (.moment, [])
  | none => (afterTime? text).map (.moment, ·)

end Stablecoin.Toml
