import BlockHarness.Text.Basic

/-! The four blocks that an executable under test prints, and the marker lines that open and close them. -/
namespace BlockHarness
set_option autoImplicit false

inductive BlockName where
  | assembly
  | machineCode
  | programOutput
  | readBuffer
  deriving DecidableEq, Repr

namespace BlockName

/-- All names, in the order in which blocks are extracted. -/
def all : List BlockName := [.assembly, .machineCode, .programOutput, .readBuffer]

/-- The name as it stands in a marker. -/
def literal : BlockName → Text
  | .assembly => "assembly"
  | .machineCode => "machine code"
  | .programOutput => "program output"
  | .readBuffer => "read buffer"

/-- The line that opens the block. -/
def opening (b : BlockName) : Text := "BEGIN " ++ b.literal ++ "\n"

/-- The line that closes the block. -/
def closing (b : BlockName) : Text := "END " ++ b.literal ++ "\n"

/-- The block with a given literal name. -/
def ofText? (t : Text) : Option BlockName := all.find? fun b => b.literal = t

/-- The position of the name in `all`. -/
def index : BlockName → Nat
  | .assembly => 0
  | .machineCode => 1
  | .programOutput => 2
  | .readBuffer => 3

end BlockName

/-- The content of each block. -/
structure Blocks where
  assembly : Text
  machineCode : Text
  programOutput : Text
  readBuffer : Text
  deriving DecidableEq, Repr

def Blocks.get (blocks : Blocks) : BlockName → Text
  | .assembly => blocks.assembly
  | .machineCode => blocks.machineCode
  | .programOutput => blocks.programOutput
  | .readBuffer => blocks.readBuffer

/-- The blocks between their markers, in the order of `BlockName.all`. -/
def Blocks.render (blocks : Blocks) : Text :=
  BlockName.all.flatMap fun b => b.opening ++ blocks.get b ++ b.closing

end BlockHarness
