import BlockHarness.Block.Capture
import BlockHarness.Data.Fault
import BlockHarness.Process.Status
import BlockHarness.Stage
import BlockHarness.World.Errno

/-! Everything that can stop the harness, kept as causes: the wording, the stage and the block of a failure are
functions of its cause. -/
namespace BlockHarness
set_option autoImplicit false

/-! ## Causes -/

/-- Why a program did not run to a successful end. -/
inductive LaunchReason where
  | system (errno : Errno)
  | nulInArgument
  | notOnPath
  | noSearchPath
  | failed (status : Status) (stderr : Text)
  | feeding (text : Text)
  | feeder (text : Text)
  | other (text : Text)
  deriving DecidableEq, Repr

/-- Why a text could not be read. -/
inductive ReadReason where
  | system (errno : Errno)
  | nulInName
  | notUtf8
  | other (text : Text)
  deriving DecidableEq, Repr

/-- What is wrong with what the user asked for. -/
inductive ConfigurationReason where
  | unknownBlock (name : Text)
  | scenario (fault : Data.Fault)
  | other (text : Text)
  deriving DecidableEq, Repr

/-- What is wrong with a settings file. -/
inductive SettingsReason where
  | decoding (fault : Data.Fault)
  | other (text : Text)
  deriving DecidableEq, Repr

inductive Failure where
  | launch (program : Text) (reason : LaunchReason)
  | stderrOutput (text : Text)
  | block (fault : BlockFault)
  | testFailed (name : Text) (stage : Stage)
  | configuration (reason : ConfigurationReason)
  | settings (reason : SettingsReason)
  | io (reason : ReadReason)
  | fileRead (path : Text) (reason : ReadReason)
  | json (text : Text)
  deriving DecidableEq, Repr

/-! ## Wording -/

/-- The wording of a launch reason. A failed program's error output is shown without blanks at its end, and not
at all if nothing is left of it. -/
def LaunchReason.message : LaunchReason → Text
  | .system errno => errno.message
  | .nulInArgument => "nul byte found in provided data"
  | .notOnPath => "cannot find binary path"
  | .noSearchPath => "no path to search and provided name is not an absolute path"
  | .failed status stderr =>
    let shown := stderr.trimEnd
    "executable failed with " ++ status.message ++ (if shown = [] then [] else ("; stderr:\n" : Text) ++ shown)
  | .feeding text => "failed to write stdin: " ++ text
  | .feeder text => "stdin writer failed: " ++ text
  | .other text => text

def ReadReason.message : ReadReason → Text
  | .system errno => errno.message
  | .nulInName => "file name contained an unexpected NUL byte"
  | .notUtf8 => "stream did not contain valid UTF-8"
  | .other text => text

def ConfigurationReason.message : ConfigurationReason → Text
  | .unknownBlock name =>
    "Unknown block '" ++ name ++ "'. Expected one of: " ++ Text.joinWith ", " (BlockName.all.map BlockName.literal)
  | .scenario fault => "Failed to parse test scenario: " ++ fault.message
  | .other text => text

def SettingsReason.message : SettingsReason → Text
  | .decoding fault => fault.message
  | .other text => text

def BlockFault.message : BlockFault → Text
  | ⟨.missingBegin, block⟩ => "Did not find begin marker for block: " ++ block.literal
  | ⟨.missingEnd, block⟩ => "Did not find end marker for block: " ++ block.literal
  | ⟨.outOfOrder, block⟩ => "Found end marker before begin marker for block: " ++ block.literal

namespace Failure

def message : Failure → Text
  | .launch program reason => "Failed to run '" ++ program ++ "': " ++ reason.message
  | .stderrOutput text => "Executable wrote to stderr:\n" ++ text
  | .block fault => fault.message
  | .testFailed name stage => "Test '" ++ name ++ "' failed at " ++ stage.label ++ " stage"
  | .configuration reason => "Configuration error: " ++ reason.message
  | .settings reason => "Invalid configuration file: " ++ reason.message
  | .io reason => "IO error: " ++ reason.message
  | .fileRead path reason => "Failed to read file '" ++ path ++ "': " ++ reason.message
  | .json text => "JSON error: " ++ text

/-- The stage of a run that the failure ends, if it belongs to a run. -/
def stage? : Failure → Option Stage
  | .launch _ _ => some .launch
  | .stderrOutput _ => some .stderrCheck
  | .block _ => some .parse
  | .testFailed _ stage => some stage
  | _ => none

def block? : Failure → Option BlockName
  | .block fault => some fault.block
  | _ => none

end Failure
end BlockHarness
