import BlockHarness.Number.Binary64

/-! TOML values and tables. A table remembers what made it, because that decides which later lines may add to it. -/
namespace BlockHarness.Toml
set_option autoImplicit false

/-- What made a table: its own header, a header of a table inside it, a dotted key, or braces. -/
inductive Origin where
  | header
  | innerHeader
  | dottedKey
  | braces
  deriving DecidableEq, Repr

/-- A value. `tables` is what headers in double brackets make. -/
inductive Value where
  | text (value : Text)
  | integer (value : Int)
  | floating (value : Binary64)
  | boolean (value : Bool)
  | datetime
  | list (items : List Value)
  | table (origin : Origin) (entries : List (Text × Value))
  | tables (items : List (List (Text × Value)))

/-- The entries of a table, in the order in which their keys were first given. -/
abbrev Entries := List (Text × Value)

namespace Entries

/-- Puts a value at a key that is there. -/
def replace (es : Entries) (key : Text) (value : Value) : Entries :=
  es.map fun e => if e.1 = key then (key, value) else e

/-- Changes the table at the end of a path, which starts at a table of the given origin. Tables on the way that are
not there are made; of tables in double brackets the last one is meant. A dotted key may not pass through a table
that has its own header, and nothing may pass through braces or other values. -/
def changeAt? (dotted : Bool) (change : Origin → Entries → Option Entries) :
    List Text → Origin → Entries → Option Entries
  | [], origin, es => change origin es
  | key :: path, _, es =>
    match es.lookup key with
    | none =>
      let origin := if dotted then .dottedKey else .innerHeader
      (changeAt? dotted change path origin []).map fun inner => es ++ [(key, .table origin inner)]
    | some (.table origin inner) =>
      if origin = .braces ∨ (dotted ∧ origin = .header) then none
      else (changeAt? dotted change path origin inner).map fun inner => es.replace key (.table origin inner)
    | some (.tables items) =>
      match items.getLast? with
      | none => none
      | some inner =>
        (changeAt? dotted change path .header inner).map fun inner =>
          es.replace key (.tables (items.dropLast ++ [inner]))
    | some _ => none

/-- Adds a value at a key that is not there yet. -/
def add? (es : Entries) (key : Text) (value : Value) : Option Entries :=
  if (es.lookup key).isSome then none else some (es ++ [(key, value)])

/-- Adds a value at a dotted key to a table of the given origin. A dotted key adds to tables that dotted keys have
made, and to no other ones below the first. -/
def addDotted? (es : Entries) (origin : Origin) (path : List Text) (key : Text) (value : Value) :
    Option Entries :=
  changeAt? true
    (fun origin inner => if path ≠ [] ∧ origin ≠ .dottedKey then none else inner.add? key value)
    path origin es

end Entries
end BlockHarness.Toml
