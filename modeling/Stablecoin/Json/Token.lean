import Stablecoin.Json.Value

namespace Stablecoin

inductive JsonToken where
  | openBrace
  | closeBrace
  | openBracket
  | closeBracket
  | colon
  | comma
  /-- A value that holds no other: a word, a number or a string. -/
  | scalar (value : Json)
deriving Repr

namespace JsonToken
open Decimal (splitDigits digitsValue)

def isBlank (c : Char) : Bool := c = ' ' || c = '\t' || c = '\n' || c = '\r'

def hexValue? (c : Char) : Option Nat :=
  if '0' ≤ c ∧ c ≤ '9' then some (c.toNat - 48)
  else if 'a' ≤ c ∧ c ≤ 'f' then some (c.toNat - 87)
  else if 'A' ≤ c ∧ c ≤ 'F' then some (c.toNat - 55)
  else none

/-- The character that an escape of one letter stands for. -/
def escaped? : Char → Option Char
  | '"' => some '"'
  | '\\' => some '\\'
  | '/' => some '/'
  | 'b' => some '\x08'
  | 'f' => some '\x0c'
  | 'n' => some '\n'
  | 'r' => some '\r'
  | 't' => some '\t'
  | _ => none

/-- The pieces of a string after its opening quote, put in front of `read` in reverse,
    and what follows the closing quote. -/
def string? (read : List JsonPiece) : List Char → Option (List JsonPiece × List Char)
  | [] => none
  | '"' :: rest => some (read.reverse, rest)
  | '\\' :: 'u' :: a :: b :: c :: d :: rest =>
    match hexValue? a, hexValue? b, hexValue? c, hexValue? d with
    | some a, some b, some c, some d => string? (.unit (((a * 16 + b) * 16 + c) * 16 + d) :: read) rest
    | _, _, _, _ => none
  | '\\' :: c :: rest =>
    match escaped? c with
    | some c => string? (.char c :: read) rest
    | none => none
  | c :: rest => if c = '\\' ∨ c < ' ' then none else string? (.char c :: read) rest

/-- The exponent at the front of the characters, zero where none is written. -/
def exponent? : List Char → Option (Int × List Char)
  | mark :: rest =>
    if mark = 'e' ∨ mark = 'E' then
      let (negative, rest) := Decimal.splitSign rest
      let (digits, rest) := splitDigits rest
      let value : Int := digitsValue 0 digits
      if digits.isEmpty then none else some (if negative then -value else value, rest)
    else some (0, mark :: rest)
  | [] => some (0, [])

/-- The number at the front of the characters. A leading zero stands alone. -/
def number? (text : List Char) : Option (JsonNumber × List Char) := do
  let (negative, rest) :=
    match text with
    | '-' :: rest => (true, rest)
    | _ => (false, text)
  let (whole, rest) :=
    match rest with
    | '0' :: rest => (['0'], rest)
    | _ => splitDigits rest
  guard (¬ whole.isEmpty)
  let (pointed, fraction, rest) :=
    match rest with
    | '.' :: rest => (true, splitDigits rest)
    | _ => (false, [], rest)
  guard (¬ (pointed ∧ fraction.isEmpty))
  let (exponent, after) ← exponent? rest
  let numeral : Decimal.Numeral := ⟨negative, digitsValue 0 (whole ++ fraction), exponent - fraction.length⟩
  return (⟨numeral, ¬ pointed ∧ after.length = rest.length⟩, after)

/-- The token at the front of the characters. -/
def next? : List Char → Option (JsonToken × List Char)
  | '\x7b' :: rest => some (openBrace, rest)
  | '\x7d' :: rest => some (closeBrace, rest)
  | '[' :: rest => some (openBracket, rest)
  | ']' :: rest => some (closeBracket, rest)
  | ':' :: rest => some (colon, rest)
  | ',' :: rest => some (comma, rest)
  | '"' :: rest => (string? [] rest).map fun (pieces, rest) => (scalar (.string pieces), rest)
  | 'n' :: 'u' :: 'l' :: 'l' :: rest => some (scalar .null, rest)
  | 't' :: 'r' :: 'u' :: 'e' :: rest => some (scalar (.bool true), rest)
  | 'f' :: 'a' :: 'l' :: 's' :: 'e' :: rest => some (scalar (.bool false), rest)
  | text => (number? text).map fun (n, rest) => (scalar (.number n), rest)

/-- The tokens of the characters after those read, of which there are at most `fuel`. -/
def scan (read : List JsonToken) : Nat → List Char → Option (List JsonToken)
  | _, [] => some read.reverse
  | 0, _ => none
  | fuel + 1, c :: rest =>
    if isBlank c then scan read fuel rest
    else
      match next? (c :: rest) with
      | some (token, rest) => scan (token :: read) fuel rest
      | none => none

/-- The tokens of a text; every token has at least one character. -/
def ofText? (text : String) : Option (List JsonToken) :=
  let text := text.toList
  scan [] text.length text

end JsonToken
end Stablecoin
