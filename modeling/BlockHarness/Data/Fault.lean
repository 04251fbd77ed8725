import BlockHarness.Number.Binary64
import BlockHarness.Text.Quoted

/-! What can be wrong with a data file once its text has been split into values, and how it is worded. -/
namespace BlockHarness.Data
set_option autoImplicit false

/-! ## Values as they are named in messages -/

/-- A value that was found where another kind was due. -/
inductive Found where
  | unit
  | boolean (value : Bool)
  | integer (value : Int)
  | wideUnsigned (value : Int)
  | wideSigned (value : Int)
  | floating (value : Binary64)
  | text (value : Text)
  | sequence
  | map
  deriving DecidableEq, Repr

def Found.name : Found → Text
  | .unit => "unit value"
  | .boolean b => if b then "boolean \x60true\x60" else "boolean \x60false\x60"
  | .integer i => "integer \x60" ++ Text.ofInt i ++ "\x60"
  | .wideUnsigned i => "integer \x60" ++ Text.ofInt i ++ "\x60 as u128"
  | .wideSigned i => "integer \x60" ++ Text.ofInt i ++ "\x60 as i128"
  | .floating x => "floating point \x60" ++ x.render ++ "\x60"
  | .text t => "string " ++ t.quoted
  | .sequence => "sequence"
  | .map => "map"

/-- The kind of value that was due. -/
inductive Due where
  | text
  | path
  | boolean
  | sequence
  | fieldName
  | record (name : Text)
  | null
  | integer
  | floating
  deriving DecidableEq, Repr

def Due.name : Due → Text
  | .text => "a string"
  | .path => "path string"
  | .boolean => "a boolean"
  | .sequence => "a sequence"
  | .fieldName => "field identifier"
  | .record name => "struct " ++ name
  | .null => "null"
  | .integer => "an integer"
  | .floating => "a float"

/-! ## Places -/

/-- A step from a value to one inside it. A key that is itself an alias has no name. -/
inductive Step where
  | key (name : Text)
  | namelessKey
  | item (index : Nat)
  deriving DecidableEq, Repr

/-- A place in a document, outermost step first. -/
abbrev Place := List Step

/-- The text of a place behind the text `before`. -/
def Place.renderOnto (before : Text) : Place → Text
  | [] => before
  | .key name :: rest => renderOnto (if before = [] then name else before ++ "." ++ name) rest
  | .namelessKey :: rest => renderOnto (if before = [] then "?" else before ++ ".?") rest
  | .item i :: rest => renderOnto ((if before = [] then ['.'] else before) ++ "[" ++ Text.ofNat i ++ "]") rest

/-- Keys with points between them, and positions in brackets. -/
def Place.render (place : Place) : Text := renderOnto [] place

/-! ## Faults -/

/-- The first thing that is wrong with a data file. -/
inductive Fault where
  | malformed
  | wrongType (place : Place) (found : Found) (due : Due)
  | wrongValue (place : Place) (text : Text) (due : Due)
  | missingField (place : Place) (name : Text)
  | duplicateField (place : Place) (name : Text)
  deriving DecidableEq, Repr

/-- A message with its place in front, unless that is the whole document. -/
def atPlace (place : Place) (message : Text) : Text :=
  if place = [] then message else place.render ++ ": " ++ message

/-- The wording of a fault. A malformed text is named in one word, whatever is wrong with it. -/
def Fault.message : Fault → Text
  | .malformed => "(syntax)"
  | .wrongType place found due => atPlace place ("invalid type: " ++ found.name ++ ", expected " ++ due.name)
  | .wrongValue place text due =>
    atPlace place ("invalid value: string " ++ text.quoted ++ ", expected " ++ due.name)
  | .missingField place name => atPlace place ("missing field \x60" ++ name ++ "\x60")
  | .duplicateField place name => atPlace place ("duplicate field \x60" ++ name ++ "\x60")

end BlockHarness.Data
