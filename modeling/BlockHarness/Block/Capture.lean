import BlockHarness.Block.Name
import BlockHarness.Text.Search

/-! Blocks in captured output. Each block is searched on the whole text, so the order of blocks does not matter
and text outside them is ignored. -/
namespace BlockHarness
set_option autoImplicit false

/-- Why a block could not be extracted. -/
structure BlockFault where
  fault : MarkerFault
  block : BlockName
  deriving DecidableEq, Repr

/-- Where the content of a block starts and ends, counted in characters. -/
def BlockName.locate (b : BlockName) (text : Text) : Except BlockFault (Nat × Nat) :=
  match between b.opening b.closing text with
  | .ok range => .ok range
  | .error fault => .error ⟨fault, b⟩

/-- The content of a block: all that stands between its first opening and its first closing marker. -/
def BlockName.find (b : BlockName) (text : Text) : Except BlockFault Text :=
  (b.locate text).map fun (start, stop) => slice text start stop

/-- All four blocks; the first one that cannot be extracted, in the order of `BlockName.all`, is the fault. -/
def Blocks.read (text : Text) : Except BlockFault Blocks := do
  let assembly ← BlockName.assembly.find text
  let machineCode ← BlockName.machineCode.find text
  let programOutput ← BlockName.programOutput.find text
  let readBuffer ← BlockName.readBuffer.find text
  return { assembly, machineCode, programOutput, readBuffer }

end BlockHarness
