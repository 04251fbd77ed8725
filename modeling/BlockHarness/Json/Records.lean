import BlockHarness.Comparison
import BlockHarness.Json.Value
import BlockHarness.Stage

/-! The JSON documents of the harness's own records. -/
namespace BlockHarness
set_option autoImplicit false

def BlockName.toJson (b : BlockName) : Json := .text b.literal

def Stage.toJson (s : Stage) : Json := .text s.key

/-- An optional value, `null` when absent. -/
def Json.ofOption {α : Type} (encode : α → Json) : Option α → Json
  | none => .null
  | some a => encode a

def Blocks.toJson (blocks : Blocks) : Json := .object [
  ("assembly", .text blocks.assembly),
  ("machine_code", .text blocks.machineCode),
  ("program_output", .text blocks.programOutput),
  ("read_buffer", .text blocks.readBuffer)]

def Mismatch.toJson (m : Mismatch) : Json := .object [
  ("field", .text m.field.key),
  ("actual", .text m.actual),
  ("expected", .text m.expected)]

end BlockHarness
