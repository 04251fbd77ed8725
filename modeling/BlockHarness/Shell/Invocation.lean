import BlockHarness.Shell.Expansion
import BlockHarness.Shell.Lookup

/-! What a simple command calls: its words are expanded, and as the first of them may say how the others are to be
treated, that happens step by step. -/
namespace BlockHarness.Shell
set_option autoImplicit false

/-- What is called: nothing, a command of the shell, a function, or a program. -/
inductive Callee where
  | nothing
  | builtin (name : Text)
  | function (body : Command)
  | program (name : Text)

/-- A call: the fields so far and the words that are not expanded yet. Of the fields some come before the name of
what is called; `isSpecial` tells of the first command of the shell that they name. -/
structure Invocation where
  fields : List Text := []
  rest : List Word := []
  skipped : Nat := 0
  callee : Callee := .nothing
  isSpecial : Option Bool := none
  path? : Option Text := none
  skipsFunctions : Bool := false

namespace Invocation

/-- The name of what is called, and the arguments. -/
def words (i : Invocation) : List Text := i.fields.drop i.skipped

def args (i : Invocation) : List Text := i.words.drop 1

/-- Whether assignments in front of the words are for this call alone. -/
def isApart (i : Invocation) : Bool :=
  match i.callee with
  | .nothing => false
  | _ => !(i.isSpecial.getD false)

/-- Whether the process is to be handed over, or its descriptors are to be kept. -/
def isExec (i : Invocation) : Bool :=
  match i.callee with
  | .builtin name => name = "exec"
  | _ => false

/-- Expands words until one of them comes to something. -/
def takeFields (run : Command → Run Text) : List Word → Run (List Text × List Word)
  | [] => return ([], [])
  | word :: rest => do
    match ← expandWord run word with
    | [] => takeFields run rest
    | fields => return (fields, rest)

/-- A field by its place, for which words are expanded if need be. -/
def fieldAt (run : Command → Run Text) (n : Nat) (i : Invocation) : Run (Option Text × Invocation) := do
  if n < i.fields.length then return (i.fields[n]?, i)
  else
    let (fields, rest) ← takeFields run i.rest
    let i := { i with fields := i.fields ++ fields, rest }
    return (i.fields[n]?, i)

/-- Reads the options of `command` from a place on: the place of the name behind them, unless they ask for something
else than a call, and the search path. -/
def commandOptions (run : Command → Run Text) :
    Nat → Nat → Option Text → Invocation → Run (Option (Nat × Option Text) × Invocation)
  | 0, _, _, i => return (none, i)
  | fuel + 1, n, path?, i => do
    let (field, i) ← fieldAt run n i
    match field with
    | none => return (none, i)
    | some ['-', '-'] =>
      let (next, i) ← fieldAt run (n + 1) i
      return (next.map fun _ => (n + 1, path?), i)
    | some ('-' :: c :: cs) =>
      if (c :: cs).all (· == 'p') then commandOptions run fuel (n + 1) (some standardSearchPath) i
      else return (none, i)
    | some _ => return (some (n, path?), i)

/-- Finds out what is called. -/
def resolve (run : Command → Run Text) : Nat → Invocation → Run Invocation
  | 0, i => return i
  | fuel + 1, i => do
    let (name, i) ← fieldAt run i.skipped i
    match name with
    | none => return i
    | some name =>
      let s ← get
      match if i.skipsFunctions then none else s.functions.lookup name with
      | some body => return { i with callee := .function body }
      | none =>
        if isBuiltin name then
          let i := { i with callee := .builtin name, isSpecial := i.isSpecial.or (some (isSpecialCommand name)) }
          if name ≠ "command" then return i
          else
            match ← commandOptions run fuel (i.skipped + 1) i.path? i with
            | (none, i) => return i
            | (some (n, path?), i) => resolve run fuel { i with skipped := n, path?, skipsFunctions := true }
        else return { i with callee := .program name }

/-- Expands the words that are left; assignments among them are treated like assignments if the command asks for
that. -/
def expandRest (run : Command → Run Text) (i : Invocation) : Run Invocation := do
  let assigns := match i.callee with
    | .builtin name => takesAssignments name
    | _ => false
  let fields ← i.rest.mapM fun word => do
    match if assigns then word.assignment? else none with
    | some (name, value) => return [name ++ '=' :: (← expandValue run value)]
    | none => expandWord run word
  return { i with fields := i.fields ++ fields.flatten, rest := [] }

def ofWords (run : Command → Run Text) (fuel : Nat) (words : List Word) : Run Invocation := do
  expandRest run (← resolve run fuel { rest := words })

end Invocation
end BlockHarness.Shell
