namespace Stablecoin

/-- The options of a run. -/
structure RunOptions where
  /-- The file of the parameters. -/
  config : Option String := none
  periods : Option Nat := none
  seed : Option UInt64 := none
  /-- The file of the table. -/
  output : String := "output/simulation.csv"
  /-- The file of recorded collateral prices to replay. -/
  prices : Option String := none
  /-- The periods that an interval between two recorded prices is split into. -/
  interpolate : Nat := 1
  /-- The number of seeds to run. -/
  runs : Nat := 1
deriving Repr, DecidableEq

inductive Command where
  | help
  | run (options : RunOptions)
deriving Repr, DecidableEq

namespace Command

/-- The number that the text writes in 64 bits. A plus may stand in front of the digits. -/
def word? (text : String) : Option Nat :=
  let digits :=
    match text.toList with
    | '+' :: rest => rest
    | digits => digits
  if digits.isEmpty ∨ ¬ digits.all Char.isDigit then none
  else
    let value := digits.foldl (fun value c => 10 * value + (c.toNat - 48)) 0
    if value < UInt64.size then some value else none

/-- The name of a file, which is not empty. -/
def fileName? (text : String) : Option String := if text.isEmpty then none else some text

/-- The options with the value of one more. -/
def set? (options : RunOptions) (name value : String) : Option RunOptions :=
  match name with
  | "config" => (fileName? value).map fun file => { options with config := some file }
  | "periods" => (word? value).map fun n => { options with periods := some n }
  | "seed" => (word? value).map fun n => { options with seed := some n.toUInt64 }
  | "output" => (fileName? value).map fun file => { options with output := file }
  | "prices" => (fileName? value).map fun file => { options with prices := some file }
  | "interpolate" => (word? value).map fun n => { options with interpolate := n }
  | "runs" => (word? value).map fun n => { options with runs := n }
  | _ => none

/-- An argument, told by the dashes that it starts with. -/
inductive Argument where
  /-- Two dashes alone, which no option follows. -/
  | divider
  | long (name : String) (value : Option String)
  | short (letters : List Char)
  | plain (text : String)
deriving Repr, DecidableEq

namespace Argument

def ofText (text : String) : Argument :=
  match text.toList with
  | ['-', '-'] => divider
  | '-' :: '-' :: rest =>
    match rest.dropWhile (· ≠ '=') with
    | _ :: value => long (String.ofList (rest.takeWhile (· ≠ '='))) (some (String.ofList value))
    | [] => long (String.ofList rest) none
  | '-' :: c :: rest => short (c :: rest)
  | _ => plain text

/-- The argument asks for help. -/
def AsksForHelp : Argument → Prop
  | long name value => name = "help" ∧ value = none
  | short letters => letters.head? = some 'h'
  | _ => False

instance (argument : Argument) : Decidable argument.AsksForHelp :=
  match argument with
  | long _ _ => inferInstanceAs (Decidable (_ ∧ _))
  | short _ => inferInstanceAs (Decidable (_ = _))
  | divider => inferInstanceAs (Decidable False)
  | plain _ => inferInstanceAs (Decidable False)

end Argument

/-- The command of `run` with its arguments. `given` holds the options read so far. -/
def ofRunArguments? (options : RunOptions) (given : List String) : List String → Option Command
  | [] => some (.run options)
  | argument :: rest =>
    let argument := Argument.ofText argument
    if argument.AsksForHelp then some .help
    else
      match argument, rest with
      | .divider, [] => some (.run options)
      | .long name (some value), rest =>
        if name ∈ given then none else (set? options name value).bind (ofRunArguments? · (name :: given) rest)
      | .long name none, next :: rest =>
        match Argument.ofText next with
        | .plain value =>
          if name ∈ given then none else (set? options name value).bind (ofRunArguments? · (name :: given) rest)
        | _ => none
      | _, _ => none

/-- The command that the arguments give. -/
def ofArguments? : List String → Option Command
  | [] => none
  | "run" :: rest => ofRunArguments? {} [] rest
  | "help" :: rest => if rest = [] ∨ rest = ["run"] ∨ rest = ["help"] then some .help else none
  | argument :: _ => if (Argument.ofText argument).AsksForHelp then some .help else none

end Command
end Stablecoin
