import BlockHarness.Run.Scenario
import BlockHarness.Settings

/-! The two commands: to run a scenario, and to extract blocks from captured output. What a command prints is part
of its response, so a response says all that a command does. -/
namespace BlockHarness
set_option autoImplicit false

/-- What a run is asked for. The executable and the input given here win over those of the scenario. -/
structure RunRequest where
  scenario : Option Text := none
  executable : Option Text := none
  input : Option Text := none
  verbose : Bool := false
  json : Bool := false
  deriving DecidableEq, Repr

inductive Command where
  | run (request : RunRequest)
  | parse (file : Text) (block : Option BlockName)
  deriving DecidableEq, Repr

/-- What a command prints, and whether it succeeds. -/
structure Response where
  stdout : Text
  answer : Except Failure Unit

/-- A response without output. -/
def Response.refuse (failure : Failure) : Response := ⟨[], .error failure⟩

namespace RunRequest

/-! ## Running -/

/-- The scenario that is run, given the one that was loaded, if any. Without one it is the reference scenario with
the defaults of the settings. An executable that is given here is looked for from the current directory. -/
def effective (r : RunRequest) (settings : Settings) (loaded : Option Scenario) : Scenario :=
  let base := loaded.getD
    { Scenario.reference with executable := settings.defaults.executable, input := settings.defaults.input }
  { base with
    executable := r.executable.getD base.executable
    baseDir := if r.executable.isSome then none else base.baseDir
    input := r.input.getD base.input }

/-- How the run is shown. -/
def options (r : RunRequest) (settings : Settings) : RunOptions where
  verbose := r.verbose
  dumpBlocks := settings.report.dumpBlocksOnFailure
  quiet := r.json

/-- The answer of a run: it succeeds if the result has passed, and else names the stage that failed. -/
def answer : Except Failure RunResult → Except Failure Unit
  | .error failure => .error failure
  | .ok r => if r.passed then .ok () else .error (.testFailed r.name (r.failedStage.getD .comparison))

/-- The response of a run whose executable has been attempted. -/
def respond (r : RunRequest) (settings : Settings) (color : Bool) (scenario : Scenario) (attempt : Attempt) :
    Response :=
  let result := attempt.result scenario
  let document :=
    match r.json, result with
    | true, .ok result => result.toJson.pretty ++ ['\n']
    | _, _ => []
  ⟨printed (r.options settings) color scenario result ++ document, answer result⟩

/-- Loads the scenario that is asked for, if one is. -/
def load (r : RunRequest) (w : World) : Except Failure (Option Scenario) :=
  match r.scenario with
  | none => .ok none
  | some path => (Scenario.load w path).map some

end RunRequest

/-! ## Extracting -/

def isStandardInput (file : Text) : Bool := !Path.isAbsolute file && Path.names file == [['-']]

/-- Reads captured output from a file or from the standard input. -/
def readCaptured (w : World) (file : Text) : Except Failure Text :=
  if isStandardInput file then
    match Utf8.decode? w.input with
    | some t => .ok t
    | none => .error (.io .notUtf8)
  else (w.readText file).mapError (.fileRead file)

/-- What is printed of captured output: one block as it is, or all blocks between their markers. -/
def extract (t : Text) : Option BlockName → Except BlockFault Text
  | some b => b.find t
  | none => (Blocks.read t).map Blocks.render

/-- The response to extracting blocks from a file. -/
def parseResponse (w : World) (file : Text) (block : Option BlockName) : Response :=
  match readCaptured w file with
  | .error failure => .refuse failure
  | .ok t =>
    match extract t block with
    | .error fault => .refuse (.block fault)
    | .ok shown => ⟨shown, .ok ()⟩

/-! ## Dispatch -/

/-- Carries a command out. Besides the response this gives the world it leaves, and whether colour is still on:
settings may switch it off. -/
def Command.dispatch (w : World) (color : Bool) : Command → Response × World × Bool
  | .parse file block => (parseResponse w file block, w, color)
  | .run request =>
    match Settings.load w with
    | .error failure => (.refuse failure, w, color)
    | .ok settings =>
      let color := color && settings.report.color
      match request.load w with
      | .error failure => (.refuse failure, w, color)
      | .ok loaded =>
        let scenario := request.effective settings loaded
        let (attempt, w) := w.attempt scenario
        (request.respond settings color scenario attempt, w, color)

end BlockHarness
