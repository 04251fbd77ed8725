import BlockHarness.Failure
import BlockHarness.Text.Utf8

/-! All that can come of running an executable once, and what the harness makes of it. -/
namespace BlockHarness
set_option autoImplicit false

/-- How writing the input to a process ended. A process may close its input before all of it is written, and what
writes the input may come to an end of its own. -/
inductive Feeding where
  | complete
  | brokenPipe
  | failed (text : Text)
  | stopped (text : Text)
  deriving DecidableEq, Repr

/-- What a process left behind. -/
structure Ended where
  feeding : Feeding
  status : Status
  stdout : Octets
  stderr : Octets
  deriving DecidableEq, Repr

/-- What came of running the program at a path. -/
inductive Outcome where
  | notStarted (reason : LaunchReason)
  | waitFailed (text : Text)
  | ended (ended : Ended)
  deriving DecidableEq, Repr

/-- The output of a process that ended successfully. -/
structure Captured where
  stdout : Text
  stderr : Text
  exitCode : Option Nat
  deriving DecidableEq, Repr

/-- A captured output must not hold anything on the error stream. -/
def Captured.checkStderr (c : Captured) : Except Failure Unit :=
  if c.stderr = [] then .ok () else .error (.stderrOutput c.stderr)

/-- What is captured of an outcome. An executable that does not read all of its input is none the worse for it; one
that ends without success is a launch failure. -/
def Outcome.capture (program : Text) : Outcome → Except Failure Captured
  | .notStarted reason => .error (.launch program reason)
  | .waitFailed text => .error (.launch program (.other text))
  | .ended ⟨feeding, status, stdout, stderr⟩ =>
    match feeding with
    | .failed text => .error (.launch program (.feeding text))
    | .stopped text => .error (.launch program (.feeder text))
    | _ =>
      if status.success then .ok ⟨Utf8.decodeLossy stdout, Utf8.decodeLossy stderr, status.code?⟩
      else .error (.launch program (.failed status (Utf8.decodeLossy stderr)))

end BlockHarness
