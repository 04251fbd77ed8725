import BlockHarness.Run.Report
import BlockHarness.Scenario.Decode
import BlockHarness.World.Launch

/-! Running scenarios in a tree of files. -/
namespace BlockHarness
set_option autoImplicit false

/-- How a run is shown. Nothing is reported when it is quiet. -/
structure RunOptions where
  verbose : Bool
  dumpBlocks : Bool
  quiet : Bool
  deriving DecidableEq, Repr

/-- What a run prints, given its result, in colour or without. -/
def printed (options : RunOptions) (color : Bool) (scenario : Scenario)
    (result : Except Failure RunResult) : Text :=
  if options.quiet then []
  else
    renderPieces color (header scenario options.verbose ++
      match result with
      | .ok r => report ⟨options.verbose, options.dumpBlocks⟩ r
      | .error _ => [])

/-- Reads a scenario from a file. Its executable is looked for from the directory of the file. -/
def Scenario.load (w : World) (path : Text) : Except Failure Scenario := do
  let t ← (w.readText path).mapError (.fileRead path)
  let scenario ← (Scenario.ofYaml t).mapError fun fault => .configuration (.scenario fault)
  return { scenario with baseDir := some ((Path.parent? path).getD ['.']) }

namespace World

/-- Attempts to run the executable of a scenario. -/
def attempt (w : World) (scenario : Scenario) : Attempt × World :=
  match w.resolveProgram scenario.executable scenario.baseDir with
  | .error reason => (.unresolved reason, w)
  | .ok program =>
    let (outcome, w) := w.launch program scenario.args scenario.input
    (.launched program outcome, w)

end World
end BlockHarness
