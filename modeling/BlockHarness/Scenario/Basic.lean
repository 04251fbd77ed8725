import BlockHarness.Text.Basic

/-! Scenarios: one executable, what it is given, and what its blocks must hold. -/
namespace BlockHarness
set_option autoImplicit false

/-! ## Expectations and scenarios -/

/-- What the compared blocks must hold. Without `readBuffer` the scenario's input is expected there. -/
structure Expectations where
  programOutput : Text
  readBuffer : Option Text
  deriving DecidableEq, Repr

/-- One run of an executable and what is expected of it. A relative path to the executable is taken from
`baseDir`, if there is one. -/
structure Scenario where
  name : Text
  description : Option Text
  executable : Text
  args : List Text
  input : Text
  expect : Expectations
  baseDir : Option Text
  deriving DecidableEq, Repr

namespace Scenario

/-- The text that the read buffer must hold. -/
def expectedReadBuffer (s : Scenario) : Text := s.expect.readBuffer.getD s.input

/-! ## The reference scenario -/

def referenceExecutable : Text := "./execution_test_executable"

def referenceInput : Text := "yankee"

/-- The program output of the reference scenario: Fibonacci numbers, a greeting and the result of a call. -/
def referenceProgramOutput : Text := "1\n1\n2\n3\n5\n8\n13\n21\n34\n55\n89\nHello world!\n1234\n"

/-- The scenario of the executable that the code generator builds for its execution test. -/
def reference : Scenario where
  name := "x86_64 execution"
  description := some "Runs generated machine code and checks its output and read buffer"
  executable := referenceExecutable
  args := []
  input := referenceInput
  expect := ⟨referenceProgramOutput, none⟩
  baseDir := none

end Scenario
end BlockHarness
