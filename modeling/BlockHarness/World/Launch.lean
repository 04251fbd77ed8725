import BlockHarness.Process.Outcome
import BlockHarness.Shell.Execution
import BlockHarness.World.Environment

/-! Starting programs in a tree of files. -/
namespace BlockHarness
set_option autoImplicit false

namespace World

/-- Where a program is looked for when there is no search path. -/
def launchSearchPath : Text := "/bin:/usr/bin"

/-- The variables that a process inherits. -/
def inherited (env : Environment) : List (Text × Text) :=
  [(("PATH" : Text), env.searchPath), ("HOME", env.home), ("XDG_CONFIG_HOME", env.configHome)].filterMap
    fun (name, value) => value.map fun t => (name, Shell.ofText t)

/-- The image of the first candidate that there is. A candidate that may not be run is remembered, and is the
reason for the refusal if no other one can be run. -/
def firstImage (load : Text → Except Errno Shell.Image) (isDenied : Bool) : List Text → Except Errno Shell.Image
  | [] => .error (if isDenied then .permissionDenied else .notFound)
  | path :: rest =>
    match load path with
    | .ok image => .ok image
    | .error .permissionDenied => firstImage load true rest
    | .error .notFound | .error .notDirectory => firstImage load isDenied rest
    | .error e => .error e

/-- The image that a program stands for. A name without a separator is looked for on the search path. -/
def findImage (w : World) (program : Text) (args : List Text) : Except Errno Shell.Image :=
  let load (path : Text) : Except Errno Shell.Image :=
    Shell.Image.load w.files (Shell.ofText path) (Shell.ofText program) (args.map Shell.ofText) (inherited w.env)
  if program = [] then .error .notFound
  else if program.contains '/' then load program
  else
    firstImage load false (((w.env.searchPath.getD launchSearchPath).splitOn ':').map fun directory =>
      if directory = [] then program else directory ++ '/' :: program)

/-- A process that has not begun, with an input at its first descriptor and nothing at the other two. -/
def process (w : World) (input : Text) : Shell.State where
  machine := {
    files := w.files
    streams := #[.arriving (if input = [] then [] else [⟨0, 0, Shell.ofText input⟩]) .whole 0, .leaving [] 0 none,
      .leaving [] 0 none] }
  directory := w.files.current
  descriptors := [(0, 0), (1, 1), (2, 2)]
  bindings := (inherited w.env).map fun (name, value) => (name, { value? := some value, isExported := true })

/-- Runs a program once with an input, and gives what comes of it and the files it leaves. The system allows no pictures
of memory. -/
def launch (w : World) (program : Text) (args : List Text) (input : Text) : Outcome × World :=
  if program.contains '\x00' ∨ args.any (·.contains '\x00') then (.notStarted .nulInArgument, w)
  else
    match w.findImage program args with
    | .error e => (.notStarted (.system e), w)
    | .ok image =>
      let (ending, s) := (Shell.evalImage Shell.stepBudget image).run.run (w.process input)
      let status : Status :=
        match ending with
        | .error (.killed n) => .signaled n false
        | _ => .exited (s.status % 256)
      let feeding : Feeding :=
        match s.machine.streams[0]? with
        | some (Shell.Stream.arriving (_ :: _) _ _) => .brokenPipe
        | _ => .complete
      let written (n : Nat) : Octets := Shell.toOctets (Shell.Piece.textOf (s.pieces n))
      (.ended ⟨feeding, status, written 1, written 2⟩,
        { w with files := { s.machine.files with current := w.files.current } })

end World
end BlockHarness
