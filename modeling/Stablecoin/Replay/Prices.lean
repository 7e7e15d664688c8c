import Stablecoin.Csv
import Stablecoin.Decimal.Numeral
import Stablecoin.Text.Blank
import Stablecoin.Text.Quoted

namespace Stablecoin.Replay

/-- Why a table has no prices. -/
inductive PriceFault where
  /-- A record is no text, or has another number of fields than the header. -/
  | malformed
  | noColumns
  | unreadable (row : Nat) (field : List Char)
  | notPositive (row : Nat)
  | tooFew
deriving Repr, DecidableEq

/-- The text of a fault in the table at a path. -/
def PriceFault.message (path : String) : PriceFault → String
  | malformed => path ++ " is not a table of comma-separated values"
  | noColumns => path ++ " has no columns"
  | unreadable row field => path ++ " row " ++ toString row ++ ": cannot parse price " ++ Text.quoted field
  | notPositive row => path ++ " row " ++ toString row ++ ": price must be positive"
  | tooFew => path ++ " needs at least two prices"

/-- The record as text. -/
def texts? (record : List Csv.Bytes) : Option (List (List Char)) :=
  record.mapM fun field => (String.fromUTF8? (ByteArray.mk field.toArray)).map String.toList

/-- The header has this name, in any case of the ASCII letters. -/
def isNamed (name : String) (header : List Char) : Bool := header.map Char.toLower == name.toList

/-- The column that holds the prices. -/
def priceColumn? (header : List (List Char)) : Option Nat :=
  (header.findIdx? (isNamed "close")).or
    ((header.findIdx? (isNamed "price")).or (if header.isEmpty then none else some (header.length - 1)))

/-- The price in a field of a row. -/
def price (row : Nat) (field : List Char) : Except PriceFault Float := do
  let field := Text.trimBlanks field
  match Decimal.float? field with
  | none => throw (.unreadable row field)
  | some price => if 0 < price ∧ price.isFinite then return price else throw (.notPositive row)

/-- The prices of the rows from the given one on. -/
def columnPrices (width column : Nat) : Nat → List (List Csv.Bytes) → Except PriceFault (List Float)
  | _, [] => return []
  | row, record :: rest => do
    if record.length ≠ width then throw .malformed
    let some fields := texts? record | throw .malformed
    let first ← price row ((fields[column]?).getD [])
    return first :: (← columnPrices width column (row + 1) rest)

/-- The prices of a table, of which there are at least two. -/
def readPrices (bytes : Csv.Bytes) : Except PriceFault (List Float) := do
  let records := Csv.records bytes
  let some header := texts? (records.headD []) | throw .malformed
  let some column := priceColumn? header | throw .noColumns
  let prices ← columnPrices header.length column 1 records.tail
  if prices.length < 2 then throw .tooFew
  return prices

end Stablecoin.Replay
