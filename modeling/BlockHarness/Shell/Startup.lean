import BlockHarness.Shell.Builtin.Variables
import BlockHarness.Shell.Lookup
import BlockHarness.Shell.Reader
import BlockHarness.Shell.Redirection

/-! How a shell begins: its variables, and what its arguments ask it to run. -/
namespace BlockHarness.Shell
set_option autoImplicit false

/-- What a shell runs: a text, and then a script that is read from some place if there is one. -/
structure Startup where
  text : Option Text := none
  script : Option Text := none

namespace Startup

/-- Gives the variables that every shell has their values. -/
def prepare (s : State) : State :=
  let assign (name value : Text) (s : State) : State :=
    s.putVariable name (some { (s.binding? name).getD {} with value? := some value })
  let missing (name value : Text) (s : State) : State :=
    if (s.binding? name).isSome then s else assign name value s
  let path := s.value "PWD"
  let isHere : Bool := Path.isAbsolute path &&
    (match s.files.resolve false (toText path) with
      | .ok l => l == s.directory
      | .error _ => false)
  let s : State := { s with workingPath := if isHere then path else s.physicalPath }
  let s := (assign "IFS" " \t\n" s |> assign "OPTIND" "1" |> assign "PPID" (Text.ofNat (State.processNumber s.parent))
    |> missing "PATH" standardSearchPath |> missing "PS1" "# " |> missing "PS2" "> " |> missing "PS4" "+ ")
  s.putVariable "PWD" (some { value? := some s.workingPath, isExported := true })

/-- Sets the switches that the arguments of a shell ask for. The answer tells whether a text is to be run, and what
is left of the arguments. -/
def switches : Nat → List Text → Run (Bool × List Text)
  | 0, args => return (false, args)
  | fuel + 1, args =>
    let keeps (c : Char) : Bool := c == 'c' || c == 'l'
    let turn (isOn : Bool) (cs : Text) (rest : List Text) : Run (Bool × List Text) := do
      let (isText, rest) ← switches fuel (← Builtin.turnLetters keeps isOn cs rest)
      return (isText || cs.contains 'c', rest)
    match args with
    | ['-'] :: rest | ['-', '-'] :: rest => return (false, rest)
    | ('-' :: cs) :: rest => turn true cs rest
    | ('+' :: cs) :: rest => turn false cs rest
    | args => return (false, args)

def readAll (descriptor : Nat) : Run Text := do
  match ← Run.receive descriptor .all with
  | .ok t => return t
  | .error _ => return []

def readScript (path : Text) : Run Text := do
  let s ← get
  match s.openPath path .read with
  | .error e => Run.fail (openFault false path e)
  | .ok (n, opened) =>
    set (opened.connect 64 (some n))
    let t ← readAll 64
    modify fun s => s.connect 64 none
    return t

def ofArguments (args : List Text) : Run Startup := do
  let (isText, rest) ← switches (args.length + 1) args
  if rest = [] then
    if isText then Run.fail "-c requires an argument"
    modify fun s => { s with switches := Switches.turn s.switches .stdin true }
  let setRest (rest : List Text) : Run Unit :=
    match rest with
    | name :: parameters => modify fun s => { s with name, parameters }
    | [] => pure ()
  let readsInput := (← get).switches.contains .stdin
  if isText then
    setRest (rest.drop 1)
    let script ← if readsInput then some <$> readAll 0 else pure none
    return { text := rest.head?, script }
  else if readsInput then
    modify fun s => { s with parameters := rest }
    return { script := some (← readAll 0) }
  else
    let script ← readScript (rest.head?.getD [])
    setRest rest
    return { script := some script }

end Startup
end BlockHarness.Shell
