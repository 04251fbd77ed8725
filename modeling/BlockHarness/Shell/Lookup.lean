import BlockHarness.Shell.Builtin.Variables
import BlockHarness.Shell.Image

/-! What a command name stands for: a function, a command that the shell itself knows, or a program that is looked
for on the search path. Where a program has been found is remembered. -/
namespace BlockHarness.Shell
set_option autoImplicit false

/-! ## Names -/

/-- The commands that the shell itself knows besides the special ones. -/
def ordinaryCommands : List Text :=
  Text.splitOn ' ' <| "[ alias bg cd chdir command echo false fg getopts hash jobs kill printf pwd read test true "
    ++ "type ulimit umask unalias wait"

/-- Whether a command of the shell is one whose mistakes end a script. -/
def isSpecialCommand (name : Text) : Bool := specialCommands.contains name

/-- Whether the shell itself knows a command. -/
def isBuiltin (name : Text) : Bool := isSpecialCommand name || ordinaryCommands.contains name

/-- Whether the arguments of a command that are assignments are treated like assignments. -/
def takesAssignments (name : Text) : Bool :=
  (["alias", "export", "local", "readonly"] : List Text).contains name

/-! ## Programs -/

/-- Where a name is looked for if the search path is not to be trusted. -/
def standardSearchPath : Text := "/usr/local/sbin:/usr/local/bin:/usr/sbin:/usr/bin:/sbin:/bin"

namespace State

/-- The first program with a name on a search path. A file that may not be run is remembered as the reason for the
refusal. -/
def searchProgram (s : State) (path name : Text) : Except Errno Text :=
  let rec go (reason : Errno) : List Text → Except Errno Text
    | [] => .error reason
    | directory :: rest =>
      let whole := if directory = [] then name else directory ++ '/' :: name
      match s.files.find (toText whole) with
      | .ok (.file _ true) | .ok (.utility _) => .ok whole
      | .ok _ => go .permissionDenied rest
      | .error .notFound | .error .notDirectory => go reason rest
      | .error e => go e rest
  go .notFound (path.splitOn ':')

/-- The program with a name. One that was found on the shell's own search path is remembered. -/
def findProgram (s : State) (path? : Option Text) (name : Text) : Except Errno Text × State :=
  match if path?.isNone then s.tracked.lookup name else none with
  | some found => (.ok found, s)
  | none =>
    match s.value? "PATH", path? with
    | none, none => (.error .notFound, s)
    | own, path? =>
      let path := path?.getD (own.getD [])
      match s.searchProgram path name with
      | .error e => (.error e, s)
      | .ok found =>
        (.ok found, if own = some path then { s with tracked := s.tracked ++ [(name, found)] } else s)

end State

/-- How a program is refused that cannot be run, and the status of that. -/
def runRefusal (e : Errno) : Text × Nat :=
  match e with
  | .notFound | .notDirectory => ("not found", 127)
  | .tooManyLinks | .nameTooLong => (ofText e.description, 127)
  | e => (ofText e.description, 126)

/-! ## Descriptions -/

/-- Says what a name stands for; with `isVerbose` in a sentence. -/
def describe (isVerbose : Bool) (path? : Option Text) (name : Text) : Run Nat := do
  let s ← get
  let say (sentence brief : Text) : Run Nat := do
    Run.print ((if isVerbose then name ++ sentence else brief) ++ ['\n'])
    return 0
  if reservedWords.contains name then say " is a shell keyword" name
  else
    match s.aliases.lookup name with
    | some value =>
      say (" is an alias for " ++ value) (("alias " : Text) ++ name ++ '=' :: singleQuoted value)
    | none =>
      let missing : Run Nat := do
        if isVerbose then Run.print (name ++ ": not found\n")
        return 127
      if (s.functions.lookup name).isSome then say " is a shell function" name
      else if name.contains '/' then
        match s.files.find (toText name) with
        | .ok _ => say (" is " ++ name) name
        | .error _ => missing
      else if isBuiltin name then
        say (if isSpecialCommand name then " is a special shell builtin" else " is a shell builtin") name
      else
        let isTracked := path?.isNone && (s.tracked.lookup name).isSome
        match s.findProgram path? name with
        | (.ok found, s) =>
          set s
          say ((if isTracked then (" is a tracked alias for " : Text) else " is ") ++ found) found
        | (.error _, _) => missing

namespace Builtin

/-- Says what names stand for. -/
def type (names : List Text) : Run Unit := do
  let status ← names.foldlM (fun status name => return status ||| (← describe true none name)) 0
  Run.answer status

/-- Lists the programs whose places are remembered, forgets them, or looks for some anew. -/
def hash (args : List Text) : Run Unit := do
  let o ← Options.read "r" args
  Run.answer 0
  if o.has 'r' then modify fun s => { s with tracked := [] }
  else if o.args = [] then
    Run.print ((inTableOrder 31 (← get).tracked).flatMap fun e => e.2 ++ ['\n'])
  else
    o.args.forM fun name => do
      modify fun s => { s with tracked := s.tracked.filter (·.1 ≠ name) }
      let s ← get
      if (s.functions.lookup name).isNone && !isBuiltin name && !name.contains '/' then
        match s.findProgram none name with
        | (.ok _, s) => set s
        | (.error e, s) => set ((s.warn (name ++ ": " ++ (runRefusal e).1)).withStatus 1)

end Builtin
end BlockHarness.Shell
