import Stablecoin.Json.Token

/-!
Reading a JSON text. The tokens are put together with a stack of the arrays and
objects that are still open, so that a text may nest as deeply as it likes.
-/
namespace Stablecoin
namespace Json

/-- An array or object that is still open, its contents last first. -/
inductive Open where
  | array (items : List Json)
  | object (members : List (List JsonPiece × Json)) (key : List JsonPiece)

/-- What the next token has to be. `closes` admits the end of what has just been opened. -/
inductive Expected where
  | value (closes : Bool)
  | key (closes : Bool)
  | colon
  | separator
  | done (value : Json)

/-- A reader between two tokens. -/
structure Reader where
  stack : List Open
  expected : Expected

namespace Reader

/-- The reader once a value is complete. -/
def put (stack : List Open) (value : Json) : Reader :=
  match stack with
  | [] => ⟨[], .done value⟩
  | .array items :: rest => ⟨.array (value :: items) :: rest, .separator⟩
  | .object members key :: rest => ⟨.object ((key, value) :: members) key :: rest, .separator⟩

/-- The reader after one more token. -/
def next? (reader : Reader) (token : JsonToken) : Option Reader :=
  match reader.expected, token, reader.stack with
  | .value _, .scalar value, stack => some (put stack value)
  | .value _, .openBracket, stack => some ⟨.array [] :: stack, .value true⟩
  | .value _, .openBrace, stack => some ⟨.object [] [] :: stack, .key true⟩
  | .value true, .closeBracket, .array items :: rest => some (put rest (.array items.reverse))
  | .key _, .scalar (.string key), .object members _ :: rest => some ⟨.object members key :: rest, .colon⟩
  | .key true, .closeBrace, .object members _ :: rest => some (put rest (.object members.reverse))
  | .colon, .colon, stack => some ⟨stack, .value false⟩
  | .separator, .comma, .array items :: rest => some ⟨.array items :: rest, .value false⟩
  | .separator, .comma, .object members key :: rest => some ⟨.object members key :: rest, .key false⟩
  | .separator, .closeBracket, .array items :: rest => some (put rest (.array items.reverse))
  | .separator, .closeBrace, .object members _ :: rest => some (put rest (.object members.reverse))
  | _, _, _ => none

end Reader

/-- The value that the tokens write. -/
def ofTokens? (tokens : List JsonToken) : Option Json := do
  let reader ← tokens.foldlM Reader.next? ⟨[], .value false⟩
  match reader.expected with
  | .done value => some value
  | _ => none

/-- The value that a text writes. -/
def ofText? (text : String) : Option Json := JsonToken.ofText? text >>= ofTokens?

end Json
end Stablecoin
