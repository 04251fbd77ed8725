import BlockHarness.Command.Basic

/-! The command line. Options come in any order; after a double dash every argument is positional. -/
namespace BlockHarness
set_option autoImplicit false

/-! ## Arguments -/

/-- An option of a command: its letter if it has one, its word, and whether it takes a value. -/
structure OptionSpec where
  letter : Option Char
  word : Text
  takesValue : Bool
  deriving DecidableEq, Repr

/-- Arguments sorted into options with their values, by word, and positional ones, last one first. -/
structure Arguments where
  given : List (Text × Text) := []
  positional : List Text := []

namespace Arguments

/-- Adds an option, which may be given only once. -/
def give? (a : Arguments) (spec : OptionSpec) (value : Text) : Option Arguments :=
  if (a.given.lookup spec.word).isSome then none else some { a with given := (spec.word, value) :: a.given }

def value? (a : Arguments) (word : Text) : Option Text := a.given.lookup word

def has (a : Arguments) (word : Text) : Bool := (a.value? word).isSome

/-- Reads letters behind a single dash. A letter that takes a value takes the rest, behind an equality sign if there
is one; without a rest its value is the next argument. -/
def readLetters? (specs : List OptionSpec) (a : Arguments) : Text → Option (Arguments × Option OptionSpec)
  | [] => some (a, none)
  | c :: rest =>
    match specs.find? (·.letter = some c) with
    | none => none
    | some spec =>
      if !spec.takesValue then
        match a.give? spec [] with
        | none => none
        | some a => readLetters? specs a rest
      else
        match rest with
        | [] => if a.has spec.word then none else some (a, some spec)
        | '=' :: value => (a.give? spec value).map fun a => (a, none)
        | value => (a.give? spec value).map fun a => (a, none)

/-- Reads a word behind two dashes, with its value behind an equality sign if it has one. -/
def readWord? (specs : List OptionSpec) (a : Arguments) (t : Text) : Option (Arguments × Option OptionSpec) :=
  let word := t.takeWhile (· ≠ '=')
  let value? : Option Text := if word.length < t.length then some (t.drop (word.length + 1)) else none
  match specs.find? (·.word = word), value? with
  | none, _ => none
  | some spec, some value => if spec.takesValue then (a.give? spec value).map fun a => (a, none) else none
  | some spec, none =>
    if a.has spec.word then none
    else if spec.takesValue then some (a, some spec)
    else (a.give? spec []).map fun a => (a, none)

/-- Sorts arguments. `due` is an option that waits for its value; a value may not look like an option. -/
def read? (specs : List OptionSpec) (a : Arguments) (due : Option OptionSpec) : List Text → Option Arguments
  | [] => if due.isSome then none else some a
  | argument :: rest =>
    match due with
    | some spec =>
      match argument with
      | '-' :: _ :: _ => none
      | value => (a.give? spec value).bind fun a => read? specs a none rest
    | none =>
      match argument with
      | ['-', '-'] => some { a with positional := rest.reverse ++ a.positional }
      | '-' :: '-' :: word => (a.readWord? specs word).bind fun (a, due) => read? specs a due rest
      | '-' :: c :: letters => (a.readLetters? specs (c :: letters)).bind fun (a, due) => read? specs a due rest
      | _ => read? specs { a with positional := argument :: a.positional } none rest

end Arguments

/-! ## Commands -/

def runOptions : List OptionSpec :=
  [⟨some 'e', "executable", true⟩, ⟨some 'i', "input", true⟩, ⟨some 'v', "verbose", false⟩,
    ⟨none, "json", false⟩]

def parseOptions : List OptionSpec := [⟨some 'b', "block", true⟩]

/-- A run as it is asked for on the command line. Paths may not be empty. -/
def RunRequest.ofArguments? (arguments : List Text) : Option RunRequest := do
  let a ← Arguments.read? runOptions {} none arguments
  let executable := a.value? "executable"
  if 1 < a.positional.length ∨ a.positional.contains [] ∨ executable = some [] then failure
  return {
    scenario := a.positional.head?
    executable
    input := a.value? "input"
    verbose := a.has "verbose"
    json := a.has "json" }

/-- An extraction as it is asked for on the command line. -/
def parseOfArguments? (arguments : List Text) : Option Command := do
  let a ← Arguments.read? parseOptions {} none arguments
  match a.positional with
  | [file] =>
    if file = [] then failure
    match a.value? "block" with
    | none => return .parse file none
    | some name =>
      let block ← BlockName.ofText? name
      return .parse file (some block)
  | _ => failure

/-- What is asked for on the command line. -/
inductive Request where
  | version
  | command (command : Command)
  deriving DecidableEq, Repr

/-- Reads a command line without the name of the program; none if it asks for nothing that there is. -/
def Request.ofArguments? : List Text → Option Request
  | [] => none
  | first :: rest =>
    if ("-V" : Text).isPrefixOf first ∨ first = "--version" then some .version
    else if first = "run" then (RunRequest.ofArguments? rest).map fun r => .command (.run r)
    else if first = "parse" then (parseOfArguments? rest).map .command
    else none

/-! ## Exits -/

/-- How the program ends: its code, what it has printed, and the failure that it reports. -/
structure Exit where
  code : Nat
  stdout : Text
  failure : Option Failure

def versionLine : Text := "conformance 0.1.0\n"

def Exit.stderr (e : Exit) : Text :=
  match e.failure with
  | some failure => "Error: " ++ failure.message ++ "\n"
  | none => []

def Response.exit (r : Response) : Exit :=
  match r.answer with
  | .ok () => ⟨0, r.stdout, none⟩
  | .error failure => ⟨1, r.stdout, some failure⟩

/-- Runs the program with its arguments. A command line that is not understood ends with code 2. -/
def runProgram (w : World) (color : Bool) (arguments : List Text) : Exit × World :=
  match Request.ofArguments? arguments with
  | none => (⟨2, [], none⟩, w)
  | some .version => (⟨0, versionLine, none⟩, w)
  | some (.command command) =>
    let (response, w, _) := command.dispatch w color
    (response.exit, w)

end BlockHarness
