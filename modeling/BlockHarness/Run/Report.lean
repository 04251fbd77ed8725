import BlockHarness.Run.Result

/-! The report of a run for people: a header, the stages with what went wrong in them, the blocks that may explain
it, and the verdict. It is a list of pieces, some of them styled, so that colour is a way of printing them. -/
namespace BlockHarness
set_option autoImplicit false

/-! ## Styled pieces -/

inductive Style where
  | heading
  | title
  | dimmed
  | good
  | bad
  | verdictGood
  | verdictBad
  deriving DecidableEq, Repr

/-- The parameters of the escape sequence that switches a style on. -/
def Style.code : Style → Text
  | .heading => "1;34"
  | .title => "1;37"
  | .dimmed => "2"
  | .good => "32"
  | .bad => "31"
  | .verdictGood => "1;32"
  | .verdictBad => "1;31"

inductive Piece where
  | plain (text : Text)
  | styled (style : Style) (text : Text)
  deriving DecidableEq, Repr

/-- An escape sequence that changes how text is shown. -/
def escapeSequence (code : Text) : Text := ['\x1b', '['] ++ code ++ ['m']

/-- The escape sequence that switches all styles off. -/
def resetSequence : Text := escapeSequence ['0']

/-- Repeats a sequence behind every reset in a text; `skip` is the number of characters to pass before the next
reset is looked for. -/
def restoreAfterResets (sequence : Text) : Nat → Text → Text
  | _, [] => []
  | skip + 1, c :: rest =>
    if skip = 0 then c :: (sequence ++ restoreAfterResets sequence 0 rest)
    else c :: restoreAfterResets sequence skip rest
  | 0, c :: rest =>
    if resetSequence.isPrefixOf (c :: rest) then
      c :: restoreAfterResets sequence (resetSequence.length - 1) rest
    else c :: restoreAfterResets sequence 0 rest

/-- A piece as it is printed, in colour or without. A styled text that switches all styles off goes on in its own
style. -/
def Piece.render (color : Bool) : Piece → Text
  | .plain t => t
  | .styled style t =>
    if color then
      let sequence := escapeSequence style.code
      let shown := if (firstIndex? resetSequence t).isSome then restoreAfterResets sequence 0 t else t
      sequence ++ shown ++ resetSequence
    else t

def renderPieces (color : Bool) (pieces : List Piece) : Text := pieces.flatMap (Piece.render color)

/-- A line that ends in a styled text. -/
def styledLine (before : Text) (style : Style) (t : Text) : List Piece :=
  [.plain before, .styled style t, .plain ['\n']]

def plainLine (t : Text) : Piece := .plain (t ++ ['\n'])

/-! ## Parts of a report -/

/-- What a report shows beyond the stages and the verdict. -/
structure ReportOptions where
  verbose : Bool
  dumpBlocks : Bool
  deriving DecidableEq, Repr

def header (scenario : Scenario) (verbose : Bool) : List Piece :=
  [.plain "\n", .styled .heading "Running Test:", .plain " ", .styled .title scenario.name, .plain "\n"]
    ++ (match scenario.description with
      | some description => styledLine "  " .dimmed description
      | none => [])
    ++ (if verbose then
        styledLine "  Executable: " .dimmed scenario.executable
          ++ styledLine "  Input: " .dimmed scenario.input.quoted
      else [])
    ++ [.plain "\n"]

def stageLine (passed : Bool) (stage : Stage) : List Piece :=
  [.plain "  ", if passed then .styled .good "✓" else .styled .bad "✗", .plain (" " ++ stage.label ++ "\n")]

/-- A mismatch, and both texts as they are if everything is to be shown. -/
def mismatchLines (verbose : Bool) (m : Mismatch) : List Piece :=
  plainLine ("      wrong " ++ m.field.block.literal ++ ":")
    :: styledLine "        actual:   " .bad m.actual.quoted
    ++ styledLine "        expected: " .good m.expected.quoted
    ++ (if verbose then
        [plainLine "      actual (raw):", .plain m.actual, plainLine "      expected (raw):", .plain m.expected]
      else [])

/-- What went wrong in the failed stage. -/
def failureLines (verbose : Bool) (r : RunResult) : List Piece :=
  (match r.error with
    | some error => error.lines.map fun line => plainLine ("      " ++ line)
    | none => [])
    ++ r.mismatches.flatMap (mismatchLines verbose)

/-- The stages up to the failed one. -/
def stageLines (verbose : Bool) (r : RunResult) : List Stage → List Piece
  | [] => []
  | stage :: rest =>
    if r.failedStage = some stage then stageLine false stage ++ failureLines verbose r
    else stageLine true stage ++ stageLines verbose r rest

/-- A block between its markers. -/
def blockDump (b : BlockName) (content : Text) : List Piece :=
  styledLine "\n  " .dimmed ("BEGIN " ++ b.literal)
    ++ .plain content :: styledLine "  " .dimmed ("END " ++ b.literal)

/-- The blocks that are shown when a run has failed. -/
def dumpedBlocks : List BlockName := [.assembly, .machineCode]

/-- The blocks that may explain a failure. -/
def dump (r : RunResult) : List Piece :=
  match r.blocks with
  | some blocks => if r.passed then [] else dumpedBlocks.flatMap fun b => blockDump b (blocks.get b)
  | none => []

def verdict (passed : Bool) : List Piece :=
  let style : Style := if passed then .verdictGood else .verdictBad
  [.plain "\n", .styled style (if passed then "✓" else "✗"), .plain " ",
    .styled style (if passed then "Test Passed" else "Test Failed"), .plain "\n\n"]

/-- The report of a result: all but the header. -/
def report (options : ReportOptions) (r : RunResult) : List Piece :=
  stageLines options.verbose r Stage.all ++ (if options.dumpBlocks then dump r else []) ++ verdict r.passed

end BlockHarness
