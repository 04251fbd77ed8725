import BlockHarness.Block.Capture
import BlockHarness.Comparison
import BlockHarness.Json.Records
import BlockHarness.Process.Outcome

/-! What a run of a scenario comes to: the stages in order, the first one that fails, and the record of it. -/
namespace BlockHarness
set_option autoImplicit false

/-! ## Attempts -/

/-- An attempt to run a scenario's executable: it could not be found, or running the program at a path came to
something. -/
inductive Attempt where
  | unresolved (reason : LaunchReason)
  | launched (program : Text) (outcome : Outcome)
  deriving DecidableEq, Repr

def Attempt.capture (scenario : Scenario) : Attempt → Except Failure Captured
  | .unresolved reason => .error (.launch scenario.executable reason)
  | .launched program outcome => outcome.capture program

/-- Goes through the stages. A failure in one of the first three ends the run; mismatches are its result. -/
def Attempt.execute (scenario : Scenario) (attempt : Attempt) : Except Failure (Blocks × List Mismatch) := do
  let captured ← attempt.capture scenario
  captured.checkStderr
  let blocks ← (Blocks.read captured.stdout).mapError .block
  return (blocks, compare blocks scenario)

/-! ## Results -/

/-- The record of a run. Blocks are kept where they did not hold what was expected. -/
structure RunResult where
  name : Text
  passed : Bool
  failedStage : Option Stage
  mismatches : List Mismatch
  error : Option Text
  blocks : Option Blocks
  deriving DecidableEq, Repr

/-- The record of a run that came to its comparison. -/
def RunResult.compared (name : Text) (blocks : Blocks) (mismatches : List Mismatch) : RunResult :=
  let passed := mismatches.isEmpty
  { name, passed, mismatches
    failedStage := if passed then none else some .comparison
    error := none
    blocks := if passed then none else some blocks }

/-- The record of a run that a failure ended at a stage. -/
def RunResult.aborted (name : Text) (stage : Stage) (failure : Failure) : RunResult where
  name := name
  passed := false
  failedStage := some stage
  mismatches := []
  error := some failure.message
  blocks := none

/-- The record of an attempt. A failure that belongs to no stage is no result of a run. -/
def Attempt.result (scenario : Scenario) (attempt : Attempt) : Except Failure RunResult :=
  match attempt.execute scenario with
  | .ok (blocks, mismatches) => .ok (.compared scenario.name blocks mismatches)
  | .error failure =>
    match failure.stage? with
    | some stage => .ok (.aborted scenario.name stage failure)
    | none => .error failure

/-- The record as a JSON object. The blocks are left out where there are none. -/
def RunResult.toJson (r : RunResult) : Json :=
  let always : List (Text × Json) := [
    ("name", .text r.name),
    ("passed", .boolean r.passed),
    ("failed_stage", Json.ofOption Stage.toJson r.failedStage),
    ("mismatches", .list (r.mismatches.map Mismatch.toJson)),
    ("error", Json.ofOption .text r.error)]
  .object (always ++ r.blocks.toList.map fun blocks => (("blocks" : Text), blocks.toJson))

end BlockHarness
