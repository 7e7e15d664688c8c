import Stablecoin.Decimal.Layout
import Stablecoin.Decimal.Numeral

/-!
JSON values as they are written. Strings keep their escapes and numbers their digits,
so that a reader decides what it asks of them: a value that nobody reads may hold
half a surrogate pair or a number beyond every float.
-/
namespace Stablecoin

/-- A part of a string: a character, or a UTF-16 unit written as an escape. -/
inductive JsonPiece where
  | char (c : Char)
  | unit (code : Nat)
deriving Repr, DecidableEq

/-- A number: its decimal, and whether it is written without point and exponent. -/
structure JsonNumber where
  numeral : Decimal.Numeral
  integral : Bool
deriving Repr, DecidableEq

inductive Json where
  | null
  | bool (b : Bool)
  | number (n : JsonNumber)
  | string (pieces : List JsonPiece)
  | array (items : List Json)
  | object (members : List (List JsonPiece × Json))
deriving Repr

namespace JsonPiece

/-- The text that the pieces stand for. Units have to be characters or to pair up. -/
def decode? : List JsonPiece → Option (List Char)
  | [] => some []
  | char c :: rest => (decode? rest).map (c :: ·)
  | unit high :: unit low :: rest =>
    if 0xD800 ≤ high ∧ high < 0xDC00 then
      if 0xDC00 ≤ low ∧ low < 0xE000 then
        (decode? rest).map (Char.ofNat (0x10000 + (high - 0xD800) * 0x400 + (low - 0xDC00)) :: ·)
      else none
    else if 0xDC00 ≤ high ∧ high < 0xE000 then none
    else (decode? (unit low :: rest)).map (Char.ofNat high :: ·)
  | unit code :: rest =>
    if 0xD800 ≤ code ∧ code < 0xE000 then none else (decode? rest).map (Char.ofNat code :: ·)

/-- The text that the pieces stand for. -/
def text? (pieces : List JsonPiece) : Option String := (decode? pieces).map String.ofList

/-- The pieces of a text, without escapes. -/
def ofText (text : String) : List JsonPiece := text.toList.map char

end JsonPiece

namespace JsonNumber

/-- The number as a 64-bit word. The negative zero is none. -/
def word? (n : JsonNumber) : Option Nat :=
  if n.integral ∧ ¬ n.numeral.negative ∧ n.numeral.digits < UInt64.size then some n.numeral.digits else none

/-- The nearest float, which is finite. -/
def float? (n : JsonNumber) : Option Float :=
  let x := n.numeral.toFloat
  if x.isFinite then some x else none

def ofNat (n : Nat) : JsonNumber := ⟨⟨false, n, 0⟩, true⟩

end JsonNumber

namespace Json

def ofText (text : String) : Json := .string (JsonPiece.ofText text)

def ofNat (n : Nat) : Json := .number (JsonNumber.ofNat n)

/-- A float by its shortest decimal; what is not finite has no number. -/
def ofFloat (x : Float) : Json :=
  if x.isFinite then
    let d := Decimal.shortest .awayFromZero (Decimal.Binary.ofBits x.toBits)
    .number ⟨⟨Decimal.isNegative x, d.digits, d.exponent⟩, false⟩
  else .null

end Json
end Stablecoin
