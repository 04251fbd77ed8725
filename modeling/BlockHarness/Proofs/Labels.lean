import Mathlib.Data.List.Chain
import BlockHarness.Proofs.ReportLines

/-! Where the lines of a report begin. A report in full shows contents as they are, and prints its next label directly
behind them. So a label begins a line of the output exactly if the text above it ends one. Only three kinds of labels
have a text above them; all others follow a line break of the report itself. -/
namespace BlockHarness
set_option autoImplicit false

/-! ## Ends of lines -/

namespace Text

/-- Whether a new line begins behind a text. -/
def EndsLine (t : Text) : Prop := t = [] ∨ t.getLast? = some '\n'

instance (t : Text) : Decidable t.EndsLine := inferInstanceAs (Decidable (_ ∨ _))

theorem endsLine_nil : EndsLine [] := .inl rfl

theorem EndsLine.append_iff {t : Text} (h : t.EndsLine) (u : Text) : EndsLine (t ++ u) ↔ u.EndsLine := by
  cases u with
  | nil => simp [h, endsLine_nil]
  | cons c u =>
    have hlast : (t ++ c :: u).getLast? = (c :: u).getLast? := List.getLast?_append_of_ne_nil t (List.cons_ne_nil c u)
    simp [EndsLine, hlast]

theorem endsLine_append_newline (t u : Text) : EndsLine (t ++ '\n' :: u) ↔ u.EndsLine := by
  have hline : EndsLine (t ++ ['\n']) := .inr (by simp)
  have h := hline.append_iff u
  rwa [List.append_assoc, List.singleton_append] at h

end Text

/-! ## Reports line by line, with the texts between their lines -/

inductive ReportLine where
  | stage (passed : Bool) (stage : Stage)
  | error (line : Text)
  | wrong (m : Mismatch)
  | actual (m : Mismatch)
  | expected (m : Mismatch)
  | rawActual (m : Mismatch)
  | rawExpected (m : Mismatch)
  | blank
  | opening (block : BlockName) (content : Text)
  | closing (block : BlockName)
  | verdict (passed : Bool)
  deriving DecidableEq, Repr

namespace ReportLine

/-- The line without its line break. -/
def text : ReportLine → Text
  | .stage passed s => stageMark passed s
  | .error line => "      " ++ line
  | .wrong m => "      wrong " ++ m.field.block.literal ++ ":"
  | .actual m => "        actual:   " ++ m.actual.quoted
  | .expected m => "        expected: " ++ m.expected.quoted
  | .rawActual _ => "      actual (raw):"
  | .rawExpected _ => "      expected (raw):"
  | .blank => []
  | .opening block _ => "  BEGIN " ++ block.literal
  | .closing block => "  END " ++ block.literal
  | .verdict passed => verdictLine passed

/-- The text that is printed below the line as it is. -/
def raw : ReportLine → Text
  | .rawActual m => m.actual
  | .rawExpected m => m.expected
  | .opening _ content => content
  | _ => []

/-- The line with what is printed below it. -/
def shown (l : ReportLine) : Text := l.text ++ '\n' :: l.raw

/-- Whether the line is a label of texts that are shown as they are, or stands behind all of them. -/
def isLabel : ReportLine → Bool
  | .wrong _ | .rawActual _ | .rawExpected _ | .opening _ _ | .closing _ | .verdict _ => true
  | _ => false

end ReportLine

def Mismatch.reportLines (verbose : Bool) (m : Mismatch) : List ReportLine :=
  [.wrong m, .actual m, .expected m] ++ if verbose then [.rawActual m, .rawExpected m] else []

namespace RunResult

def failureReportLines (verbose : Bool) (r : RunResult) : List ReportLine :=
  (match r.error with
    | some error => error.lines.map .error
    | none => []) ++ r.mismatches.flatMap (Mismatch.reportLines verbose)

def stageReportLines (verbose : Bool) (r : RunResult) : List Stage → List ReportLine
  | [] => []
  | stage :: rest =>
    if r.failedStage = some stage then .stage false stage :: r.failureReportLines verbose
    else .stage true stage :: r.stageReportLines verbose rest

def dumpReportLines (r : RunResult) : List ReportLine :=
  match r.blocks with
  | some blocks =>
    if r.passed then [] else dumpedBlocks.flatMap fun b => [.blank, .opening b (blocks.get b), .closing b]
  | none => []

def reportLines (options : ReportOptions) (r : RunResult) : List ReportLine :=
  r.stageReportLines options.verbose Stage.all ++ (if options.dumpBlocks then r.dumpReportLines else []) ++
    [.blank, .verdict r.passed, .blank]

/-- The text that a report shows directly above one of its lines. There is one above the end of a block, above the
second of two texts that differ, and above a second mismatch where the first one is shown in full. -/
def rawAbove (verbose : Bool) (r : RunResult) : ReportLine → Text
  | .closing b => (r.blocks.map fun blocks => blocks.get b).getD []
  | .rawExpected m => m.actual
  | .wrong m =>
    if verbose ∧ m.field = .readBuffer then
      ((r.mismatches.find? fun first => first.field = .programOutput).map Mismatch.expected).getD []
    else []
  | _ => []

/-! ## Lines as they are printed -/

theorem render_mismatchLines (verbose : Bool) (m : Mismatch) :
    renderPieces false (mismatchLines verbose m) = (m.reportLines verbose).flatMap ReportLine.shown := by
  have hshort : renderPieces false (mismatchLines false m) = (m.reportLines false).flatMap ReportLine.shown := by
    rw [renderPieces_mismatchLines]
    rfl
  cases verbose with
  | false => exact hshort
  | true =>
    have hpieces : mismatchLines true m = mismatchLines false m ++
        [plainLine "      actual (raw):", .plain m.actual, plainLine "      expected (raw):", .plain m.expected] := rfl
    have hlines : m.reportLines true = m.reportLines false ++ [.rawActual m, .rawExpected m] := rfl
    rw [hpieces, hlines, renderPieces_append, List.flatMap_append, hshort]
    rfl

theorem render_failureLines (verbose : Bool) (r : RunResult) :
    renderPieces false (failureLines verbose r) = (r.failureReportLines verbose).flatMap ReportLine.shown := by
  have herror : ∀ ls : List Text, renderPieces false (ls.map fun line => plainLine ("      " ++ line)) =
      (ls.map ReportLine.error).flatMap ReportLine.shown := by
    intro ls
    rw [renderPieces, List.flatMap_map, List.flatMap_map]
    rfl
  have hmismatches : renderPieces false (r.mismatches.flatMap (mismatchLines verbose)) =
      (r.mismatches.flatMap (Mismatch.reportLines verbose)).flatMap ReportLine.shown := by
    rw [renderPieces, List.flatMap_assoc, List.flatMap_assoc]
    congr 1
    funext m
    exact render_mismatchLines verbose m
  rw [failureLines, failureReportLines, renderPieces_append, List.flatMap_append, hmismatches]
  cases r.error with
  | none => rfl
  | some error => rw [herror]

theorem render_stageLines (verbose : Bool) (r : RunResult) (stages : List Stage) :
    renderPieces false (stageLines verbose r stages) =
      (r.stageReportLines verbose stages).flatMap ReportLine.shown := by
  have hstage (passed : Bool) (s : Stage) :
      renderPieces false (stageLine passed s) = (ReportLine.stage passed s).shown := by
    rw [renderPieces_stageLine, Text.unlines_cons]
    rfl
  induction stages with
  | nil => rfl
  | cons stage rest ih =>
    rw [stageLines, stageReportLines]
    split
    · rw [renderPieces_append, hstage, render_failureLines, List.flatMap_cons]
    · rw [renderPieces_append, hstage, ih, List.flatMap_cons]

theorem render_dump (r : RunResult) : renderPieces false (dump r) = r.dumpReportLines.flatMap ReportLine.shown := by
  rw [dump, dumpReportLines]
  cases r.blocks with
  | none => rfl
  | some blocks =>
    cases r.passed with
    | true => rfl
    | false => rfl

theorem render_report (options : ReportOptions) (r : RunResult) :
    renderPieces false (report options r) = (r.reportLines options).flatMap ReportLine.shown := by
  have hverdict : renderPieces false (verdict r.passed) =
      ([.blank, .verdict r.passed, .blank] : List ReportLine).flatMap ReportLine.shown := by
    cases r.passed <;> decide
  rw [report, reportLines, renderPieces_append, renderPieces_append, render_stageLines, hverdict, List.flatMap_append,
    List.flatMap_append]
  cases options.dumpBlocks with
  | true => simp only [if_true, render_dump]
  | false => rfl

/-! ## What stands above a line -/

/-- A line of a report leaves the text that is shown above the next one. An empty line may end what is above it. -/
def Leads (verbose : Bool) (r : RunResult) (p q : ReportLine) : Prop := q ≠ .blank → p.raw = r.rawAbove verbose q

section Chain
variable {scenario : Scenario} {a : Attempt} {r : RunResult}

/-- Lines that show no text of their own follow each other in any order. -/
theorem isChain_of_bare {verbose : Bool} {ls : List ReportLine}
    (h : ∀ l ∈ ls, l.raw = [] ∧ r.rawAbove verbose l = []) : ls.IsChain (r.Leads verbose) := by
  refine List.Pairwise.isChain (List.pairwise_of_forall_mem_list ?_)
  intro p hp q hq _
  rw [(h p hp).1, (h q hq).2]

theorem isChain_of_isPass (h : r.IsPass) (options : ReportOptions) :
    (.blank :: r.reportLines options).IsChain (r.Leads options.verbose) := by
  have hlines : r.reportLines options =
      Stage.all.map (.stage true) ++ [.blank, .verdict true, .blank] := by
    obtain ⟨verbose, dumpBlocks⟩ := options
    cases dumpBlocks <;>
      simp [reportLines, Stage.all, stageReportLines, dumpReportLines, h.failedStage, h.blocks, h.passed]
  rw [hlines]
  apply isChain_of_bare
  simp [Stage.all, ReportLine.raw, rawAbove]

theorem stageReportLines_of_some {failed : Stage} (h : r.failedStage = some failed) (verbose : Bool)
    {stages : List Stage} (hmem : failed ∈ stages) :
    r.stageReportLines verbose stages =
      (stages.takeWhile (· ≠ failed)).map (.stage true) ++ .stage false failed :: r.failureReportLines verbose := by
  induction stages with
  | nil => cases hmem
  | cons stage rest ih =>
    by_cases hs : stage = failed
    · subst hs
      simp [stageReportLines, h]
    · have hrest : failed ∈ rest := (List.mem_cons.mp hmem).resolve_left (Ne.symm hs)
      rw [stageReportLines, if_neg (by simp [h, Ne.symm hs]), ih hrest]
      simp [hs]

theorem isChain_of_isAbort {failure : Failure} (h : r.IsAbort failure) (options : ReportOptions) :
    (.blank :: r.reportLines options).IsChain (r.Leads options.verbose) := by
  have hdump : (if options.dumpBlocks then r.dumpReportLines else []) = [] := by simp [dumpReportLines, h.blocks]
  have hstages : ∃ (passed : List Stage) (failed : Stage), r.stageReportLines options.verbose Stage.all =
      passed.map (.stage true) ++ .stage false failed :: failure.message.lines.map .error := by
    have hfailure : r.failureReportLines options.verbose = failure.message.lines.map .error := by
      simp [failureReportLines, h.error, h.mismatches]
    rcases h.stage_early with hs | hs | hs <;>
      exact ⟨_, _, hfailure ▸ stageReportLines_of_some hs options.verbose (by decide)⟩
  obtain ⟨passed, failed, hstages⟩ := hstages
  rw [reportLines, hdump, hstages]
  apply isChain_of_bare
  intro l hl
  simp only [List.mem_cons, List.mem_append, List.mem_map, List.not_mem_nil, or_false] at hl
  rcases hl with rfl | (⟨_, -, rfl⟩ | rfl | ⟨_, -, rfl⟩) | rfl | rfl | rfl <;> exact ⟨rfl, rfl⟩

/-- There are at most two mismatches, and the second one is in the read buffer. -/
theorem IsComparison.mismatches_cases {blocks : Blocks} (h : r.IsComparison scenario blocks) :
    (∃ m, r.mismatches = [m]) ∨
      ∃ m m', r.mismatches = [m, m'] ∧ m.field = .programOutput ∧ m'.field = .readBuffer := by
  have hsub := h.fields_sublist
  match hm : r.mismatches with
  | [] => exact absurd hm h.mismatches_ne
  | [m] => exact .inl ⟨m, rfl⟩
  | [m, m'] =>
    have hfields : [m.field, m'.field] = ComparedField.all := by
      rw [hm] at hsub
      exact hsub.eq_of_length rfl
    obtain ⟨hf, hf'⟩ : m.field = .programOutput ∧ m'.field = .readBuffer := by simpa [ComparedField.all] using hfields
    exact .inr ⟨m, m', rfl, hf, hf'⟩
  | m :: m' :: m'' :: ms =>
    have hlength := hsub.length_le
    simp [hm, ComparedField.all] at hlength

theorem isChain_of_isComparison {blocks : Blocks} (h : r.IsComparison scenario blocks) (options : ReportOptions) :
    (.blank :: r.reportLines options).IsChain (r.Leads options.verbose) := by
  have hdump : r.dumpReportLines =
      [.blank, .opening .assembly blocks.assembly, .closing .assembly,
        .blank, .opening .machineCode blocks.machineCode, .closing .machineCode] := by
    simp [dumpReportLines, h.blocks, h.passed, dumpedBlocks, Blocks.get]
  have hmem : Stage.comparison ∈ Stage.all := by decide
  have hstages := stageReportLines_of_some h.failedStage options.verbose hmem
  obtain ⟨verbose, dumpBlocks⟩ := options
  rw [reportLines, hdump, hstages, failureReportLines, h.error]
  rcases h.mismatches_cases with ⟨m, hm⟩ | ⟨m, m', hm, hf, hf'⟩
  · rw [hm]
    cases hfield : m.field <;> cases verbose <;> cases dumpBlocks <;>
      simp [Stage.all, Mismatch.reportLines, Leads, ReportLine.raw, rawAbove, hm, hfield, h.blocks, Blocks.get]
  · rw [hm]
    cases verbose <;> cases dumpBlocks <;>
      simp [Stage.all, Mismatch.reportLines, Leads, ReportLine.raw, rawAbove, hm, hf, hf', h.blocks, Blocks.get]

theorem isChain_reportLines {shape : Shape} (h : r.Fits scenario a shape) (options : ReportOptions) :
    (.blank :: r.reportLines options).IsChain (r.Leads options.verbose) := by
  cases shape with
  | passed => exact isChain_of_isPass h.1 options
  | compared =>
    obtain ⟨blocks, hr, -⟩ := h
    exact isChain_of_isComparison hr options
  | aborted =>
    obtain ⟨failure, hr, -⟩ := h
    exact isChain_of_isAbort hr options

/-- Behind whole lines, a line begins anew exactly if the text above it ends one. -/
theorem endsLine_iff_of_isChain {verbose : Bool} {lines before after : List ReportLine} {l : ReportLine}
    (hchain : (.blank :: lines).IsChain (r.Leads verbose)) (hlines : lines = before ++ l :: after) (hl : l ≠ .blank)
    {above : Text} (habove : above.EndsLine) :
    (above ++ before.flatMap ReportLine.shown).EndsLine ↔ (r.rawAbove verbose l).EndsLine := by
  rw [hlines] at hchain
  rcases List.eq_nil_or_concat before with rfl | ⟨init, p, rfl⟩
  · have hraw : ReportLine.blank.raw = r.rawAbove verbose l := (List.isChain_cons_cons.mp hchain).1 hl
    rw [← hraw]
    simpa [ReportLine.raw, Text.endsLine_nil] using habove
  · rw [List.concat_eq_append] at hchain ⊢
    have hsplit : .blank :: (init ++ [p] ++ l :: after) = (.blank :: init) ++ p :: l :: after := by simp
    rw [hsplit, List.isChain_append_cons_cons] at hchain
    have hraw : p.raw = r.rawAbove verbose l := hchain.2.1 hl
    have hshown : above ++ (init ++ [p]).flatMap ReportLine.shown =
        (above ++ init.flatMap ReportLine.shown ++ p.text) ++ '\n' :: p.raw := by
      simp [ReportLine.shown]
    rw [hshown, Text.endsLine_append_newline, hraw]

end Chain
end RunResult

/-! ## Labels in the output -/

/-- What is printed above a line of a report, the header and some lines, ends a line. -/
def BeginsLine (options : RunOptions) (scenario : Scenario) (before : List ReportLine) : Prop :=
  (renderPieces false (header scenario options.verbose) ++ before.flatMap ReportLine.shown).EndsLine

instance (options : RunOptions) (scenario : Scenario) (before : List ReportLine) :
    Decidable (BeginsLine options scenario before) := inferInstanceAs (Decidable (Text.EndsLine _))

/-- How a report is made of a run that is not quiet. -/
def RunOptions.report (options : RunOptions) : ReportOptions := ⟨options.verbose, options.dumpBlocks⟩

theorem endsLine_header (scenario : Scenario) (verbose : Bool) :
    (renderPieces false (header scenario verbose)).EndsLine := by
  rw [header, renderPieces_append]
  exact (Text.endsLine_append_newline _ []).mpr Text.endsLine_nil

namespace Attempt

/-- **Where the lines of a report begin.** Every run has a record, and what is printed of it are the lines of its
report with the texts below them. A line that is not empty begins a line of the output exactly if the text that the
report shows directly above it is empty or ends in a line feed. -/
theorem begins_line_iff (scenario : Scenario) (a : Attempt) :
    ∃ r, a.result scenario = .ok r ∧ ∀ options : RunOptions, options.quiet = false →
      printed options false scenario (.ok r) = renderPieces false (header scenario options.verbose) ++
        (r.reportLines options.report).flatMap ReportLine.shown ∧
      ∀ before l after, r.reportLines options.report = before ++ l :: after → l ≠ .blank →
        (BeginsLine options scenario before ↔ (r.rawAbove options.verbose l).EndsLine) := by
  obtain ⟨r, hr, -, shape, hfits⟩ := exists_result_fits scenario a
  refine ⟨r, hr, fun options hquiet => ⟨?_, ?_⟩⟩
  · have hreport := RunResult.render_report options.report r
    rw [printed, hquiet, ← hreport, ← renderPieces_append]
    rfl
  · intro before l after hlines hl
    have hchain := RunResult.isChain_reportLines hfits options.report
    exact RunResult.endsLine_iff_of_isChain hchain hlines hl (endsLine_header scenario options.verbose)

/-- A process whose blocks do not end in line feeds, but for the first. -/
def unended : Attempt :=
  let output : Text := "BEGIN assembly\nret\nEND assembly\nBEGIN machine code\nc3 END machine code\n" ++
    "BEGIN program output\n1END program output\nBEGIN read buffer\ntangoEND read buffer\n"
  .launched "demo" (.ended ⟨.complete, .exited 0, Utf8.encode output, []⟩)

def unendedScenario : Scenario := { Scenario.reference with expect := ⟨"2\n", none⟩ }

def unendedResult : RunResult :=
  .compared Scenario.reference.name ⟨"ret\n", "c3 ", "1", "tango"⟩
    [⟨.programOutput, "1", "2\n"⟩, ⟨.readBuffer, "tango", "yankee"⟩]

/-- The lines above one in the report of it that shows everything, and those below. -/
def unendedAround (l : ReportLine) : List ReportLine × List ReportLine :=
  let lines := unendedResult.reportLines ⟨true, true⟩
  (lines.takeWhile (· ≠ l), (lines.dropWhile (· ≠ l)).tail)

theorem begins_line_iff_unended :
    unended.result unendedScenario = .ok unendedResult ∧
      (∀ l ∈ [.closing .assembly, .wrong ⟨.readBuffer, "tango", "yankee"⟩, .verdict false],
        BeginsLine ⟨true, true, false⟩ unendedScenario (unendedAround l).1) ∧
      ∀ l ∈ [.closing .machineCode, .rawExpected ⟨.readBuffer, "tango", "yankee"⟩],
        ¬ BeginsLine ⟨true, true, false⟩ unendedScenario (unendedAround l).1 := by
  have hr : unended.result unendedScenario = .ok unendedResult := by decide +kernel
  obtain ⟨r, hr', hlines⟩ := begins_line_iff unendedScenario unended
  obtain rfl : unendedResult = r := Except.ok.inj (hr.symm.trans hr')
  have hbegins (l : ReportLine) (hl : l ≠ .blank)
      (hsplit : unendedResult.reportLines ⟨true, true⟩ = (unendedAround l).1 ++ l :: (unendedAround l).2) :=
    (hlines ⟨true, true, false⟩ rfl).2 (unendedAround l).1 l (unendedAround l).2 hsplit hl
  refine ⟨hr, fun l hl => ?_, fun l hl => ?_⟩
  · simp only [List.mem_cons, List.not_mem_nil, or_false] at hl
    rcases hl with rfl | rfl | rfl <;> exact (hbegins _ (by decide) (by decide)).mpr (by decide)
  · simp only [List.mem_cons, List.not_mem_nil, or_false] at hl
    rcases hl with rfl | rfl <;> exact mt (hbegins _ (by decide) (by decide)).mp (by decide)

/-- Labels begin lines, however a failed run is reported. -/
def KeepsLabels (scenario : Scenario) (a : Attempt) : Prop :=
  ∀ r, a.result scenario = .ok r → r.passed = false → ∀ options : RunOptions, options.quiet = false →
    ∀ before l after, r.reportLines options.report = before ++ l :: after → l.isLabel = true →
      BeginsLine options scenario before

/-- The end of a block that does not end in a line feed is shown in its last line. -/
theorem not_keepsLabels_unended : ¬ unended.KeepsLabels unendedScenario := by
  intro h
  have hr : unended.result unendedScenario = .ok unendedResult := by decide +kernel
  have hbegins := h unendedResult hr rfl ⟨true, true, false⟩ rfl (unendedAround (.closing .machineCode)).1
    (.closing .machineCode) (unendedAround (.closing .machineCode)).2 (by decide) rfl
  exact absurd hbegins (by decide +kernel)

end Attempt
end BlockHarness
