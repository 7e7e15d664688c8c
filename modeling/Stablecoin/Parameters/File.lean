import Stablecoin.Parameters.Json
import Stablecoin.Parameters.Toml
import Stablecoin.Parameters.Validation
import Stablecoin.Path

namespace Stablecoin

/-- Why a file gives no parameters. -/
inductive ParameterFileFault where
  /-- The bytes are no text. -/
  | notText
  | notJson
  | notToml
  | invalid (fault : ParameterFault)
deriving Repr, DecidableEq

namespace Parameters

/-- The bundle that a text describes, as JSON if the file has that extension. -/
def ofText (path : Path) (text : String) : Except ParameterFileFault (Parameters Float) :=
  if path.extension? = some "json".toList then
    match Json.ofText? text >>= ofJson? with
    | some p => pure p
    | none => throw .notJson
  else
    match Toml.ofText? text >>= ofToml? with
    | some p => pure p
    | none => throw .notToml

/-- The bundle that a file describes. -/
def ofFile (path : Path) (bytes : ByteArray) : Except ParameterFileFault (Parameters Float) := do
  let some text := String.fromUTF8? bytes | throw .notText
  let p ← ofText path text
  p.validate.mapError .invalid
  return p

end Parameters
end Stablecoin
