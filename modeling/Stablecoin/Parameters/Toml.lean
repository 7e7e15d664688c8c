import Stablecoin.Decimal.Layout
import Stablecoin.Parameters.Fields
import Stablecoin.Toml.Reader

/-!
Parameters as TOML. They are written with the root scalars one a line, then each
section after an empty line, under its name in brackets. A section that is read may
also be an array of its fields in their order. What is missing keeps its default
value, and names that are not known are passed over.
-/
namespace Stablecoin

/-- Numbers in TOML: all digits, no exponent, and always a point. -/
def tomlNumbers : Decimal.Layout where
  positional := none
  pointZero := true
  tie := .awayFromZero
  nan := "nan"
  infinity := "inf"

namespace Parameters

/-- A word that the format has no place for. -/
inductive TomlFault where
  | outOfRange
deriving Repr, DecidableEq

def TomlFault.message : TomlFault → String
  | outOfRange => "out-of-range value for u64 type"

/-- The line of a scalar. Integers of the format have 63 bits and a sign. -/
def tomlLine (p : Parameters Float) (field : Field) : Except TomlFault String :=
  match field.slot with
  | .real get _ => pure (field.key ++ " = " ++ tomlNumbers.render (get p) ++ "\n")
  | .word get _ =>
    if (get p : Int) ≤ Int64.maxValue.toInt then pure (field.key ++ " = " ++ toString (get p) ++ "\n")
    else throw .outOfRange

/-- The text of the bundle. -/
def toToml (p : Parameters Float) : Except TomlFault String := do
  let root ← rootFields.mapM p.tomlLine
  let sections ← groups.mapM fun group => do
    return "\n[" ++ group.key ++ "]\n" ++ String.join (← group.fields.mapM p.tomlLine)
  return String.join (root ++ sections)

/-- The bundle with one scalar read from TOML. A number may be written as an integer. -/
def readTomlScalar? (field : Field) (value : Toml) (p : Parameters Float) : Option (Parameters Float) :=
  match field.slot, value with
  | .real _ set, .float x => some (set x p)
  | .real _ set, .integer n => some (set (Float.ofInt n) p)
  | .word _ set, .integer n => if 0 ≤ n then some (set n.toNat p) else none
  | _, _ => none

/-- Reads fields from items in the order of the fields. Items beyond the last field are
    passed over. -/
def readTomlItems? : List Field → List Toml → Parameters Float → Option (Parameters Float)
  | field :: fields, item :: items, p => readTomlScalar? field item p >>= readTomlItems? fields items
  | _, _, p => some p

/-- Reads fields from the members of a table. -/
def readTomlMembers? (fields : List Field) (members : Toml.Members) (p : Parameters Float) :
    Option (Parameters Float) :=
  fields.foldlM
    (fun p field =>
      match members.lookup field.key.toList with
      | some value => readTomlScalar? field value p
      | none => some p)
    p

/-- The bundle with a section read from TOML. -/
def readTomlGroup? (group : Group) (value : Toml) (p : Parameters Float) : Option (Parameters Float) :=
  match value with
  | .table _ members => readTomlMembers? group.fields members p
  | .array items => readTomlItems? group.fields items p
  | _ => none

/-- The bundle that the members of a document describe. -/
def ofToml? (members : Toml.Members) : Option (Parameters Float) := do
  let p ← readTomlMembers? rootFields members default
  groups.foldlM
    (fun p group =>
      match members.lookup group.key.toList with
      | some value => readTomlGroup? group value p
      | none => some p)
    p

end Parameters
end Stablecoin
