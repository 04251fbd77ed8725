import BlockHarness.Text.Basic

/-! The stages that every run goes through, in order. -/
namespace BlockHarness
set_option autoImplicit false

inductive Stage where
  | launch
  | stderrCheck
  | parse
  | comparison
  deriving DecidableEq, Repr

namespace Stage

/-- All stages, in the order in which a run goes through them. -/
def all : List Stage := [.launch, .stderrCheck, .parse, .comparison]

/-- The stage as it stands in reports and messages. -/
def label : Stage → Text
  | .launch => "launch"
  | .stderrCheck => "stderr-check"
  | .parse => "parse"
  | .comparison => "comparison"

/-- The stage as it stands in JSON. -/
def key : Stage → Text
  | .launch => "launch"
  | .stderrCheck => "stderr_check"
  | .parse => "parse"
  | .comparison => "comparison"

end Stage
end BlockHarness
