/-!
TOML values and the tables of a document. A table may be written in several parts,
and how it came about decides what may still be added to it.
-/
namespace Stablecoin

/-- How a table came about. -/
inductive TableOrigin where
  /-- By a header of its own. -/
  | header
  /-- On the way of a header to a table inside it. -/
  | implied
  /-- On the way of a dotted key. -/
  | dotted
  /-- Between braces, where nothing can be added any more. -/
  | inline
deriving Repr, DecidableEq

inductive Toml where
  | boolean (b : Bool)
  | integer (n : Int)
  | float (x : Float)
  | string (s : List Char)
  /-- A date, a time of day, or both. -/
  | moment
  | array (items : List Toml)
  | table (origin : TableOrigin) (members : List (List Char × Toml))
  /-- Tables under a common header, in their order. -/
  | tables (items : List (List (List Char × Toml)))

namespace Toml

/-- What a table holds, by key. -/
abbrev Members := List (List Char × Toml)

/-- The members with the value under the key, at its place or behind the others. -/
def put (key : List Char) (value : Toml) : Members → Members
  | [] => [(key, value)]
  | member :: rest => if member.1 = key then (key, value) :: rest else member :: put key value rest

/-- Adds a value under a dotted key. A key on the way makes a table, or goes on in one
    that dotted keys have made; it may pass through a table that headers have
    implied, but not end in it. -/
def insert (members : Members) : List (List Char) → List Char → Toml → Option Members
  | [], key, value => if (members.lookup key).isSome then none else some (members ++ [(key, value)])
  | first :: rest, key, value =>
    match members.lookup first with
    | none => (insert [] rest key value).map fun inner => members ++ [(first, .table .dotted inner)]
    | some (.table .dotted inner) =>
      (insert inner rest key value).map fun inner => put first (.table .dotted inner) members
    | some (.table .implied inner) =>
      if rest.isEmpty then none
      else (insert inner rest key value).map fun inner => put first (.table .implied inner) members
    | some (.tables items) =>
      if rest.isEmpty then none
      else
        match items.getLast? with
        | some last =>
          (insert last rest key value).map fun inner => put first (.tables (items.dropLast ++ [inner])) members
        | none => none
    | some _ => none

/-- Changes the table at a path of keys. Tables that are missing on the way are
    implied, and of several tables under one header the last is meant. -/
def update (change : Members → Option Members) : List (List Char) → Members → Option Members
  | [], members => change members
  | first :: rest, members =>
    match members.lookup first with
    | none => (update change rest []).map fun inner => members ++ [(first, .table .implied inner)]
    | some (.table .inline _) => none
    | some (.table origin inner) =>
      (update change rest inner).map fun inner => put first (.table origin inner) members
    | some (.tables items) =>
      match items.getLast? with
      | some last =>
        (update change rest last).map fun inner => put first (.tables (items.dropLast ++ [inner])) members
      | none => none
    | some _ => none

/-- Opens the table of a header. A table may have one header, and none if dotted keys
    have made it. -/
def openTable (key : List Char) (members : Members) : Option Members :=
  match members.lookup key with
  | none => some (members ++ [(key, .table .header [])])
  | some (.table .implied inner) => some (put key (.table .header inner) members)
  | some _ => none

/-- Opens one more table under a common header. -/
def openNext (key : List Char) (members : Members) : Option Members :=
  match members.lookup key with
  | none => some (members ++ [(key, .tables [[]])])
  | some (.tables items) => some (put key (.tables (items ++ [[]])) members)
  | some _ => none

end Toml
end Stablecoin
