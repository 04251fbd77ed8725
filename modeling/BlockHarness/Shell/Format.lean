import BlockHarness.Number.Places
import BlockHarness.Shell.Escape
import BlockHarness.Shell.State

/-! Printing arguments with a format: directives that say how an argument is written, and text in between. -/
namespace BlockHarness.Shell
set_option autoImplicit false

/-! ## Directives -/

/-- How an argument is printed: aligned, filled up to a width, cut or filled to a number of digits. -/
structure Directive where
  flags : Text := []
  width : Nat := 0
  places : Option Nat := none

namespace Directive

def has (d : Directive) (flag : Char) : Bool := d.flags.contains flag

/-- A text filled up to the width. -/
def fill (d : Directive) (t : Text) : Text :=
  let gap := List.replicate (d.width - t.length) ' '
  if d.has '-' then t ++ gap else gap ++ t

/-- A text, cut to the places that there are for it. -/
def text (d : Directive) (t : Text) : Text := d.fill (d.places.elim t t.take)

/-- A number behind its sign, filled with zeros if that is asked for. -/
def filled (d : Directive) (sign digits : Text) : Text :=
  if d.has '0' ∧ ¬ d.has '-' then
    sign ++ List.replicate (d.width - sign.length - digits.length) '0' ++ digits
  else d.fill (sign ++ digits)

/-- A whole number behind its sign, with as many digits as there are places for. -/
def number (d : Directive) (sign digits : Text) : Text :=
  match d.places with
  | some n =>
    let digits := if n = 0 ∧ digits = ['0'] then [] else digits
    d.fill (sign ++ List.replicate (n - digits.length) '0' ++ digits)
  | none => d.filled sign digits

def sign (d : Directive) (isNegative : Bool) : Text :=
  if isNegative then ['-'] else if d.has '+' then ['+'] else if d.has ' ' then [' '] else []

def integer (d : Directive) (n : Int) : Text := d.number (d.sign (n < 0)) (Text.ofNat n.natAbs)

def natural (d : Directive) (base : Nat) (isUpper : Bool) (n : Nat) : Text :=
  let digits := Text.digitsOnto base (n + 1) n []
  let isMarked := d.has '#'
  if base = 8 ∧ isMarked then
    let digits := if n = 0 then digits else '0' :: digits
    let d : Directive := { d with places := d.places.map (max 1) }
    d.number [] digits
  else
    let mark : Text := if base = 16 ∧ isMarked ∧ n ≠ 0 then (if isUpper then "0X" else "0x") else []
    d.number mark (if isUpper then digits.map Char.toUpper else digits)

/-- A real number; the letter says in which notation. -/
def real (d : Directive) (letter : Char) (isNegative : Bool) (value : Binary64) : Text :=
  let isUpper := Shell.isUpper letter
  let cased (t : Text) : Text := if isUpper then t.map Char.toUpper else t
  let sign := d.sign isNegative
  let unscaled (t : Text) : Text := d.fill (sign ++ cased t)
  match value with
  | .nan => unscaled "nan"
  | .infinite _ => unscaled "inf"
  | .finite _ mantissa exponent =>
    let (u, q) := Binary64.scale 2 exponent
    let p := mantissa * u
    let keepsPoint := d.has '#'
    let places := d.places.getD 6
    let (mark, w) : Text × Binary64.Written :=
      match letter.toLower with
      | 'a' => ("0x", Binary64.hexadecimal keepsPoint d.places mantissa exponent)
      | 'e' => ([], Binary64.scientific keepsPoint 'e' places p q)
      | 'f' => ([], ⟨Binary64.fixed keepsPoint places p q, []⟩)
      | _ => ([], Binary64.general keepsPoint 'e' places p q)
    d.filled (sign ++ cased mark) (cased (w.digits ++ w.exponent))

end Directive

/-! ## Arguments -/

/-- What printing with a format has come to: the arguments that are left, whether one has been used, and whether one
was not what its directive asks for. -/
structure Formatting where
  args : List Text
  hasUsed : Bool := false
  isFaulty : Bool := false

/-- A computation that prints with a format. -/
abbrev Formatted (α : Type) := StateT Formatting Run α

namespace Formatted

def nextArgument : Formatted (Option Text) := do
  let f ← get
  match f.args with
  | [] => return none
  | t :: rest =>
    set { f with args := rest, hasUsed := true }
    return some t

/-- Adds to what is printed. -/
def put (t : Text) : Formatted Unit := Run.print t

/-- Tells of an argument that is no number, is more than one, or is out of range. -/
def check (argument rest : Text) (isOutOfRange : Bool) : Formatted Unit := do
  let complaint : Text :=
    if rest ≠ [] then
      argument ++ (if rest = argument then (": expected numeric value" : Text) else ": not completely converted")
    else if isOutOfRange then argument ++ ": " ++ Errno.outOfRange.description
    else []
  if complaint ≠ [] then
    Run.warn complaint
    modify fun f => { f with isFaulty := true }

/-- The value of an argument that is a quote with a character behind it. -/
def quotedValue? : Text → Option Nat
  | '\'' :: rest | '"' :: rest => some ((rest.head?.map Char.toNat).getD 0)
  | _ => none

def nextInteger (isSigned : Bool) : Formatted Int := do
  match ← nextArgument with
  | none => return 0
  | some t =>
    match quotedValue? t with
    | some n => return n
    | none =>
      match if isSigned then Numeral.readSigned? 0 t else Numeral.readUnsigned? 0 t with
      | none =>
        check t t false
        return 0
      | some n =>
        check t n.rest n.isOutOfRange
        return n.value

/-- The next argument as a real number, with its sign. -/
def nextReal : Formatted (Bool × Binary64) := do
  match ← nextArgument with
  | none => return (false, .ofRatio false 0 1)
  | some t =>
    match quotedValue? t with
    | some n => return (false, .ofRatio false n 1)
    | none =>
      match Binary64.readFront? (t.dropWhile isSpace) with
      | none =>
        check t t false
        return (false, .ofRatio false 0 1)
      | some r =>
        check t r.rest r.isOutOfRange
        return (r.isNegative, r.value)

/-! ## Formats -/

/-- Prints the next argument as the conversion `letter` asks. The directive `source` is named if it means nothing.
The answer tells whether printing goes on. -/
def convert (d : Directive) (letter : Char) (source : Text) : Formatted Bool := do
  let proceed (t : Text) : Formatted Bool := do
    put t
    return true
  match letter with
  | 's' => proceed (d.text ((← nextArgument).getD []))
  | 'c' =>
    let t := (← nextArgument).getD []
    proceed (d.fill [t.head?.getD '\x00'])
  | 'b' =>
    let (t, isEnded) := Escape.replace ((← nextArgument).getD [])
    put (d.text t)
    return !isEnded
  | 'd' | 'i' => proceed (d.integer (← nextInteger true))
  | 'o' => proceed (d.natural 8 false (← nextInteger false).natAbs)
  | 'u' => proceed (d.natural 10 false (← nextInteger false).natAbs)
  | 'x' => proceed (d.natural 16 false (← nextInteger false).natAbs)
  | 'X' => proceed (d.natural 16 true (← nextInteger false).natAbs)
  | 'a' | 'A' | 'e' | 'E' | 'f' | 'F' | 'g' | 'G' =>
    let (isNegative, value) ← nextReal
    proceed (d.real letter isNegative value)
  | _ => Run.fail (source ++ ": invalid directive")

/-- A width or a number of places: digits, or an asterisk for an argument. -/
def readCount (t : Text) : Formatted (Option Int × Text) := do
  match t with
  | '*' :: rest => return (some (((← nextInteger true) : Int).bmod (Nat.pow 2 32)), rest)
  | t =>
    let digits := t.takeWhile isDigit
    return ((Text.toNat? 10 digits).map fun n => (n : Int), t.drop digits.length)

/-- Reads a directive behind its percent sign. -/
def readDirective (t : Text) : Formatted (Directive × Text) := do
  let flags := t.takeWhile fun c => "#-+ 0".toList.contains c
  let (width, t) ← readCount (t.drop flags.length)
  let width := width.getD 0
  let flags := if width < 0 then '-' :: flags else flags
  match t with
  | '.' :: t =>
    let (places, t) ← readCount t
    let places := places.getD 0
    return (⟨flags, width.natAbs, if places < 0 then none else some places.natAbs⟩, t)
  | t => return (⟨flags, width.natAbs, none⟩, t)

/-- Prints a format once; the answer tells whether printing goes on. -/
def once : Nat → Text → Formatted Bool
  | 0, _ => return false
  | _, [] => return true
  | fuel + 1, '\\' :: rest => do
    let (c, rest) := Escape.take rest
    put [c]
    once fuel rest
  | fuel + 1, '%' :: '%' :: rest => do
    put ['%']
    once fuel rest
  | fuel + 1, '%' :: t => do
    let (d, rest) ← readDirective t
    match rest with
    | [] => Run.fail "missing format character"
    | c :: rest =>
      if ← convert d c ('%' :: t.take (t.length - rest.length)) then once fuel rest else return false
  | fuel + 1, t => do
    let plain := t.takeWhile fun c => c != '\\' && c != '%'
    put plain
    once fuel (t.drop plain.length)

/-- Prints a format as often as it takes to use all arguments; a format that uses none is printed once. -/
def all (template : Text) : Nat → Formatted Unit
  | 0 => pure ()
  | fuel + 1 => do
    if ← once (template.length + 1) template then
      let f ← get
      if f.hasUsed && !f.args.isEmpty then all template fuel

end Formatted

def printFormat (template : Text) (args : List Text) : Run Unit := do
  let ((), f) ← (Formatted.all template (args.length + 1)).run { args }
  Run.answer (if f.isFaulty then 1 else 0)

end BlockHarness.Shell
