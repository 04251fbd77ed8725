import BlockHarness.Block.Name
import BlockHarness.Scenario.Basic
import BlockHarness.Text.Quoted

/-! Comparison of blocks with what a scenario expects. -/
namespace BlockHarness
set_option autoImplicit false

/-! ## Compared blocks -/

/-- A block whose content is compared. -/
inductive ComparedField where
  | programOutput
  | readBuffer
  deriving DecidableEq, Repr

namespace ComparedField

/-- All compared blocks, in the order in which they are compared. -/
def all : List ComparedField := [.programOutput, .readBuffer]

def block : ComparedField → BlockName
  | .programOutput => .programOutput
  | .readBuffer => .readBuffer

/-- The compared block as it stands in JSON. -/
def key : ComparedField → Text
  | .programOutput => "program_output"
  | .readBuffer => "read_buffer"

/-- What a scenario expects of the block. -/
def expected (scenario : Scenario) : ComparedField → Text
  | .programOutput => scenario.expect.programOutput
  | .readBuffer => scenario.expectedReadBuffer

end ComparedField

/-! ## Mismatches -/

/-- A compared block whose content is not the expected one. -/
structure Mismatch where
  field : ComparedField
  actual : Text
  expected : Text
  deriving DecidableEq, Repr

def Mismatch.message (m : Mismatch) : Text :=
  "wrong " ++ m.field.block.literal ++ ": got " ++ m.actual.quoted ++ ", expected " ++ m.expected.quoted

/-- Every compared block whose content is not what the scenario expects. -/
def compare (blocks : Blocks) (scenario : Scenario) : List Mismatch :=
  ComparedField.all.filterMap fun field =>
    let actual := blocks.get field.block
    let expected := field.expected scenario
    if actual = expected then none else some ⟨field, actual, expected⟩

end BlockHarness
