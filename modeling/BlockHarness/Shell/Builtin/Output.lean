import BlockHarness.Shell.Condition
import BlockHarness.Shell.Format
import BlockHarness.Shell.Option

/-! The commands of the shell that print, that test conditions, or that tell about the process. -/
namespace BlockHarness.Shell.Builtin
set_option autoImplicit false

/-- Prints arguments with blanks between them and a line feed behind, unless the first argument forbids that. -/
def echo (args : List Text) : Run Unit := do
  let (args, ending) : List Text × Text :=
    match args with
    | ['-', 'n'] :: rest => (rest, [])
    | _ => (args, ['\n'])
  let (t, isEnded) := Escape.replace (Text.joinWith [' '] args)
  Run.print (if isEnded then t else t ++ ending)
  Run.answer 0

/-- Prints arguments with a format. -/
def printf (args : List Text) : Run Unit := do
  match ← Options.none args with
  | [] => Run.fail "usage: printf format [arg ...]"
  | template :: args => printFormat template args

def test (words : List Text) : Run Unit := do
  Run.answer (if ← Condition.holds words then 0 else 1)

/-- Tests a condition that a bracket closes. -/
def bracket (words : List Text) : Run Unit :=
  if words.getLast? = some [']'] then test words.dropLast else Run.fail "missing ]"

/-- Prints how much time the shell and its processes have used, which is next to nothing. -/
def times : Run Unit := do
  Run.print "0m0.000000s 0m0.000000s\n0m0.000000s 0m0.000000s\n"
  Run.answer 0

/-! ## Masks -/

/-- The letters of the permissions that a digit of a mode grants. -/
def permissionLetters (mode : Nat) : Text :=
  (if mode.testBit 2 then ['r'] else []) ++ (if mode.testBit 1 then ['w'] else []) ++
    (if mode.testBit 0 then ['x'] else [])

/-- A mode with letters. -/
def symbolicMode (mode : Nat) : Text :=
  ("u=" : Text) ++ permissionLetters (mode / 64 % 8) ++ ",g=" ++ permissionLetters (mode / 8 % 8) ++ ",o=" ++
    permissionLetters (mode % 8)

/-- The groups of users that letters name, as a mode with the last bit of each group. -/
def groupsOf (letters : Text) : Nat :=
  letters.foldl (fun n c => n ||| (if c = 'a' then 73 else if c = 'u' then 64 else if c = 'g' then 8 else 1)) 0

/-- The permissions that letters name, given the mode that letters for groups refer to. -/
def permissionsOf (mode : Nat) (letters : Text) : Nat :=
  letters.foldl (fun n c =>
    n ||| (if c = 'r' then 4 else if c = 'w' then 2 else if c = 'x' then 1
      else if c = 'u' then mode / 64 % 8 else if c = 'g' then mode / 8 % 8 else if c = 'o' then mode % 8
      else if c = 'X' ∧ mode &&& 73 ≠ 0 then 1 else 0)) 0

/-- Applies a description with letters to a mode. `groups` are those that the last clause has named. -/
def changeMode? (start : Nat) : Nat → Nat → Nat → Text → Option Nat
  | 0, _, _, _ => none
  | _, _, mode, [] => some mode
  | fuel + 1, groups, mode, t =>
    let names := t.takeWhile fun c => "augo".toList.contains c
    let groups := groups ||| groupsOf names
    let groups := if groups = 0 then 73 else groups
    match t.drop names.length with
    | op :: rest =>
      if op = '=' ∨ op = '+' ∨ op = '-' then
        let letters := rest.takeWhile fun c => "rwxugoXs".toList.contains c
        let value := (permissionsOf start letters % 8) * groups
        let mode :=
          if op = '-' then mode &&& (511 ^^^ value)
          else if op = '=' then value ||| (mode &&& (511 ^^^ (groups * 7)))
          else mode ||| value
        match rest.drop letters.length with
        | ',' :: rest => changeMode? start fuel 0 mode rest
        | rest => changeMode? start fuel groups mode rest
      else none
    | [] => some mode

/-- Tells or sets which permissions new files do not get. -/
def umask (args : List Text) : Run Unit := do
  let o ← Options.read "S" args
  let s ← get
  match o.args with
  | [] =>
    if o.has 'S' then Run.print (symbolicMode (511 - s.mask) ++ ['\n'])
    else
      let digits := Text.digitsOnto 8 (s.mask + 1) s.mask []
      Run.print (List.replicate (4 - digits.length) '0' ++ digits ++ ['\n'])
  | t :: _ =>
    if t.head?.any isDigit then
      match if t.all isOctalDigit then Text.toNat? 8 t else none with
      | none => Run.fail ("Illegal number: " ++ t)
      | some n => set { s with mask := n % 512 }
    else
      match changeMode? (511 - s.mask) (t.length + 1) 0 (511 - s.mask) t with
      | none => Run.fail ("Illegal mode: " ++ t)
      | some mode => set { s with mask := 511 - mode }
  Run.answer 0

/-- Tells of a limit, or sets one, which changes nothing. Only the stack has a limit, which may be lifted. -/
def ulimit (args : List Text) : Run Unit := do
  let o ← Options.read "HSatfdscmlpnvwr" args
  match o.args with
  | [] =>
    let limited := (o.given.reverse.find? fun g => !("HSa".toList.contains g.1)).any (·.1 == 's')
    Run.print (if limited && (o.has 'S' || !o.has 'H') then "8192\n" else "unlimited\n")
  | value :: rest =>
    if o.has 'a' ∨ rest ≠ [] then Run.fail "too many arguments"
    if value ≠ "unlimited" ∧ ¬ value.all isDigit then Run.fail "bad number"
  Run.answer 0

end BlockHarness.Shell.Builtin
