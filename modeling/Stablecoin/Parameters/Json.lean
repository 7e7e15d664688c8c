import Stablecoin.Json.Reader
import Stablecoin.Parameters.Fields

/-!
Parameters as JSON: an object of the root scalars and the sections, each section an
object of its scalars. A bundle or section may also be an array of its fields in
their order. What is missing keeps its default value, and names that are not known
are passed over.
-/
namespace Stablecoin
namespace Parameters

/-- The bundle as a JSON object. -/
def toJson (p : Parameters Float) : Json :=
  let scalar (field : Field) : List JsonPiece × Json :=
    (JsonPiece.ofText field.key,
      match field.slot with
      | .real get _ => Json.ofFloat (get p)
      | .word get _ => Json.ofNat (get p))
  .object (rootFields.map scalar ++
    groups.map fun group => (JsonPiece.ofText group.key, .object (group.fields.map scalar)))

/-- The bundle with one scalar read from JSON. -/
def readScalar? (field : Field) (value : Json) (p : Parameters Float) : Option (Parameters Float) :=
  match field.slot, value with
  | .real _ set, .number n => n.float?.map (set · p)
  | .word _ set, .number n => n.word?.map (set · p)
  | _, _ => none

/-- Reads items of an array in the order of what they stand for. An item too many is
    an error. -/
def readItems? {β : Type} (read : β → Json → Parameters Float → Option (Parameters Float)) :
    List β → List Json → Parameters Float → Option (Parameters Float)
  | _, [], p => some p
  | [], _ :: _, _ => none
  | target :: targets, item :: items, p => read target item p >>= readItems? read targets items

/-- Reads the members of an object. A known name may stand only once. -/
def readMembers? {β : Type} (name : β → String)
    (read : β → Json → Parameters Float → Option (Parameters Float)) (targets : List β)
    (members : List (List JsonPiece × Json)) (p : Parameters Float) : Option (Parameters Float) := do
  let keys ← members.mapM fun member => JsonPiece.text? member.1
  guard (targets.all fun target => keys.count (name target) ≤ 1)
  (keys.zip members).foldlM
    (fun p (key, member) =>
      match targets.find? fun target => name target = key with
      | some target => read target member.2 p
      | none => some p)
    p

/-- The bundle with a section read from JSON. -/
def readGroup? (group : Group) (value : Json) (p : Parameters Float) : Option (Parameters Float) :=
  match value with
  | .array items => readItems? readScalar? group.fields items p
  | .object members => readMembers? (·.key) readScalar? group.fields members p
  | _ => none

/-- A part of the bundle: a root scalar or a section. -/
abbrev Part := Field ⊕ Group

def Part.key : Part → String
  | .inl field => field.key
  | .inr group => group.key

/-- The parts of the bundle in their order. -/
def parts : List Part := rootFields.map .inl ++ groups.map .inr

def readPart? (part : Part) (value : Json) (p : Parameters Float) : Option (Parameters Float) :=
  match part with
  | .inl field => readScalar? field value p
  | .inr group => readGroup? group value p

/-- The bundle that a JSON value describes. -/
def ofJson? (value : Json) : Option (Parameters Float) :=
  match value with
  | .array items => readItems? readPart? parts items default
  | .object members => readMembers? Part.key readPart? parts members default
  | _ => none

end Parameters
end Stablecoin
