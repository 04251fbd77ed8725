import BlockHarness.Data.Fault
import BlockHarness.Yaml.Node

/-! What kind of value a scalar is when no text is due: a plain scalar is a null, a boolean or a number if it is
spelt like one, and a text otherwise; a tag may decide the kind. -/
namespace BlockHarness.Yaml
set_option autoImplicit false

/-! ## Plain scalars -/

/-- The spellings of null; an absent scalar is another one. -/
def isNullWord (t : Text) : Bool := t = "null" || t = "Null" || t = "NULL" || t = "~"

/-- The spellings of booleans. -/
def readBoolean? (t : Text) : Option Bool :=
  if t = "true" ∨ t = "True" ∨ t = "TRUE" then some true
  else if t = "false" ∨ t = "False" ∨ t = "FALSE" then some false
  else none

/-- Whether a text is digits behind a needless zero, with or without a sign. Such a text is not a number. -/
def isPaddedDigits (t : Text) : Bool :=
  let digits := match t with
    | '-' :: rest => rest
    | '+' :: rest => rest
    | _ => t
  match digits with
  | '0' :: rest => rest ≠ [] && rest.all fun c => '0' ≤ c && c ≤ '9'
  | _ => false

/-- The value of digits behind a mark for their base, if there is one. -/
def readMagnitude? : Text → Option Nat
  | '0' :: 'x' :: digits => Text.toNat? 16 digits
  | '0' :: 'o' :: digits => Text.toNat? 8 digits
  | '0' :: 'b' :: digits => Text.toNat? 2 digits
  | digits => Text.toNat? 10 digits

/-- The spellings of integers: a sign, then digits. -/
def readInteger? (t : Text) : Option Int :=
  if isPaddedDigits t then none
  else
    match t with
    | '-' :: rest => (readMagnitude? rest).map fun n => -(n : Int)
    | '+' :: rest => (readMagnitude? rest).map fun n => (n : Int)
    | _ => (readMagnitude? t).map fun n => (n : Int)

/-- An integer as a found value: in 64 bits, else in 128 bits, else not as an integer at all. -/
def foundInteger? (i : Int) : Option Data.Found :=
  if -(Nat.pow 2 63 : Int) ≤ i ∧ i < Nat.pow 2 64 then some (.integer i)
  else if 0 ≤ i ∧ i < Nat.pow 2 128 then some (.wideUnsigned i)
  else if -(Nat.pow 2 127 : Int) ≤ i ∧ i < 0 then some (.wideSigned i)
  else none

/-- The spellings of floating-point numbers. A decimal must have a finite value. -/
def readFloating? (t : Text) : Option Binary64 :=
  if t = ".inf" ∨ t = ".Inf" ∨ t = ".INF" ∨ t = "+.inf" ∨ t = "+.Inf" ∨ t = "+.INF" then
    some (.infinite false)
  else if t = "-.inf" ∨ t = "-.Inf" ∨ t = "-.INF" then some (.infinite true)
  else if t = ".nan" ∨ t = ".NaN" ∨ t = ".NAN" then some .nan
  else
    match Binary64.read? t with
    | some (.finite negative mantissa exponent) => some (.finite negative mantissa exponent)
    | _ => none

/-- The kind of a plain scalar without a deciding tag. -/
def foundPlain (t : Text) : Data.Found :=
  if t = [] ∨ isNullWord t then .unit
  else
    match readBoolean? t, (readInteger? t).bind foundInteger? with
    | some b, _ => .boolean b
    | none, some found => found
    | none, none =>
      match if isPaddedDigits t then none else readFloating? t with
      | some x => .floating x
      | none => .text t

/-! ## Tags -/

def standardTag (kind : Text) : Text := "tag:yaml.org,2002:" ++ kind

/-- The fault of a scalar that stands where another kind of value is due. A tag for a kind that the scalar is not
spelt as is a fault of its own. -/
def scalarFault (place : Data.Place) (due : Data.Due) (tag : Option Text) (isPlain : Bool) (t : Text) :
    Data.Fault :=
  let judged (found : Option Data.Found) (kind : Data.Due) : Data.Fault :=
    match found with
    | some found => .wrongType place found due
    | none => .wrongValue place t kind
  let untagged : Data.Fault := .wrongType place (if isPlain then foundPlain t else .text t) due
  match tag with
  | none => untagged
  | some tag =>
    if tag = standardTag "bool" then judged ((readBoolean? t).map .boolean) .boolean
    else if tag = standardTag "int" then judged ((readInteger? t).bind foundInteger?) .integer
    else if tag = standardTag "float" then judged ((readFloating? t).map .floating) .floating
    else if tag = standardTag "null" then judged (if isNullWord t then some .unit else none) .null
    else if tag.head? = some '!' then untagged
    else .wrongType place (.text t) due

end BlockHarness.Yaml
