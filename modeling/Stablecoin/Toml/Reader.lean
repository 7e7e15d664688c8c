import Stablecoin.Toml.Scalar

namespace Stablecoin.Toml

/-- What follows blanks, line ends and comments; the flag says whether a comment is
    being read. -/
def afterFiller : Bool → List Char → List Char
  | _, [] => []
  | _, '\n' :: rest => afterFiller false rest
  | _, '\r' :: '\n' :: rest => afterFiller false rest
  | true, c :: rest => if isVisible c then afterFiller true rest else c :: rest
  | false, c :: rest =>
    if isSpace c then afterFiller false rest else if c = '#' then afterFiller true rest else c :: rest

/-- What follows blanks. -/
def afterSpace (text : List Char) : List Char := text.dropWhile isSpace

/-- What follows blanks and a comment at the end of a line, and the end of the line. -/
def afterLine? (text : List Char) : Option (List Char) :=
  let rest :=
    match afterSpace text with
    | '#' :: rest => rest.dropWhile isVisible
    | rest => rest
  if rest.isEmpty then some [] else afterLineEnd? rest

def isBare (c : Char) : Bool := c.isAlphanum || c = '-' || c = '_'

/-- One part of a key. -/
def simpleKey? : List Char → Option (List Char × List Char)
  | '"' :: rest => basic? [] rest
  | '\'' :: rest => literal? [] rest
  | text =>
    let (bare, rest) := text.span isBare
    if bare.isEmpty then none else some (bare, rest)

/-- The parts of a key with dots between them, at most `count`, and what follows them. -/
def key? : Nat → List Char → Option (List (List Char) × List Char)
  | 0, _ => none
  | count + 1, text => do
    let (part, rest) ← simpleKey? (afterSpace text)
    match afterSpace rest with
    | '.' :: rest => (key? count rest).map fun (parts, rest) => (part :: parts, rest)
    | rest => return ([part], rest)

/-- The most parts of a key. -/
def longestKey : Nat := 79

/-- The deepest nesting of values. -/
def deepest : Nat := 79

/-- The items of an array after its bracket, at most `count` of them. A comma may stand
    behind the last one. -/
def items? (value? : List Char → Option (Toml × List Char)) :
    Nat → List Char → Option (List Toml × List Char)
  | 0, _ => none
  | count + 1, text =>
    match afterFiller false text with
    | ']' :: rest => some ([], rest)
    | text => do
      let (item, rest) ← value? text
      match afterFiller false rest with
      | ',' :: rest => (items? value? count rest).map fun (items, rest) => (item :: items, rest)
      | ']' :: rest => return ([item], rest)
      | _ => none

/-- A key, the sign of equality and a value. -/
def pair? (value? : List Char → Option (Toml × List Char)) (text : List Char) :
    Option ((List (List Char) × Toml) × List Char) := do
  let (key, rest) ← key? longestKey text
  let '=' :: rest := rest | none
  let (value, rest) ← value? (afterSpace rest)
  return ((key, value), rest)

/-- Adds a value under the parts of a key. -/
def insertPair (members : Members) (key : List (List Char)) (value : Toml) : Option Members :=
  match key.getLast? with
  | some last => insert members key.dropLast last value
  | none => none

/-- The pairs of a table between braces, added to its members, at most `count` of them. -/
def pairs? (value? : List Char → Option (Toml × List Char)) :
    Nat → Members → List Char → Option (Members × List Char)
  | 0, _, _ => none
  | count + 1, members, text => do
    let ((key, value), rest) ← pair? value? text
    let members ← insertPair members key value
    match afterSpace rest with
    | ',' :: rest => pairs? value? count members rest
    | '\x7d' :: rest => return (members, rest)
    | _ => none

/-- The value at the front of the characters, with no more than `depth` levels. -/
def value? (depth : Nat) (text : List Char) : Option (Toml × List Char) :=
  match text with
  | '[' :: rest =>
    match depth with
    | 0 => none
    | depth + 1 => (items? (value? depth) rest.length rest).map fun (items, rest) => (.array items, rest)
  | '\x7b' :: rest =>
    match depth with
    | 0 => none
    | depth + 1 =>
      match afterSpace rest with
      | '\x7d' :: rest => some (.table .inline [], rest)
      | rest =>
        (pairs? (value? depth) rest.length [] rest).map fun (members, rest) => (.table .inline members, rest)
  | 't' :: 'r' :: 'u' :: 'e' :: rest => some (.boolean true, rest)
  | 'f' :: 'a' :: 'l' :: 's' :: 'e' :: rest => some (.boolean false, rest)
  | _ => ((string? text).map fun (s, rest) => (.string s, rest)).or ((moment? text).or (number? text))

/-- A document on its way: its members, and the path of the table whose lines are read. -/
structure Draft where
  members : Members
  path : List (List Char)

namespace Draft

/-- The draft behind a header. -/
def head? (draft : Draft) (opening : List Char → Members → Option Members) (path : List (List Char)) :
    Option Draft := do
  let last ← path.getLast?
  return ⟨← update (opening last) path.dropLast draft.members, path⟩

/-- The draft behind a key and its value. -/
def add? (draft : Draft) (key : List (List Char)) (value : Toml) : Option Draft := do
  return { draft with members := ← update (insertPair · key value) draft.path draft.members }

/-- The draft behind a line with something in it, and what follows the line. -/
def line? (draft : Draft) : List Char → Option (Draft × List Char)
  | '[' :: '[' :: rest => do
    let (path, rest) ← key? longestKey rest
    let ']' :: ']' :: rest := rest | none
    return (← draft.head? openNext path, ← afterLine? rest)
  | '[' :: rest => do
    let (path, rest) ← key? longestKey rest
    let ']' :: rest := rest | none
    return (← draft.head? openTable path, ← afterLine? rest)
  | text => do
    let ((key, value), rest) ← pair? (value? deepest) text
    return (← draft.add? key value, ← afterLine? rest)

/-- The draft behind all lines, of which there are at most `count`. -/
def lines? : Nat → Draft → List Char → Option Draft
  | 0, draft, text => if text.isEmpty then some draft else none
  | count + 1, draft, text =>
    match afterLine? text with
    | some [] => some draft
    | some rest => lines? count draft rest
    | none => do
      let (draft, rest) ← draft.line? (afterSpace text)
      lines? count draft rest

end Draft

/-- The text without the mark of its byte order. -/
def withoutMark : List Char → List Char
  | '\uFEFF' :: rest => rest
  | text => text

/-- The members of the document that a text writes. -/
def ofText? (text : String) : Option Members :=
  let text := withoutMark text.toList
  (Draft.lines? text.length ⟨[], []⟩ text).map (·.members)

end Stablecoin.Toml
