import BlockHarness.Proofs.Appearance
import BlockHarness.Proofs.Lines
import BlockHarness.Proofs.Shape

/-! Reports line by line. Whatever an executable prints, its text stands deeper in a line than a mark ever does, so the
lines that look like stages are the stages that the run went through, and the only mark at the start of a line is that
of the verdict. -/
namespace BlockHarness
set_option autoImplicit false

/-! ## What stands in the lines of a report -/

def stageMark (passed : Bool) (stage : Stage) : Text := (if passed then "  ✓ " else "  ✗ ") ++ stage.label

def Mismatch.details (m : Mismatch) : List Text :=
  ["      wrong " ++ m.field.block.literal ++ ":", "        actual:   " ++ m.actual.quoted,
    "        expected: " ++ m.expected.quoted]

namespace RunResult

/-- The lines of the stages: a check for every stage in front of the failed one and a cross for that one, or a check
for every stage. -/
def stageMarks (r : RunResult) : List Text :=
  match r.failedStage with
  | none => Stage.all.map (stageMark true)
  | some stage => (Stage.all.takeWhile (· ≠ stage)).map (stageMark true) ++ [stageMark false stage]

/-- The lines below the failed stage. -/
def details (r : RunResult) : List Text :=
  (match r.error with
    | some error => error.lines.map (("      " : Text) ++ ·)
    | none => []) ++ r.mismatches.flatMap Mismatch.details

end RunResult

def verdictLines (passed : Bool) : List Text := [[], verdictLine passed, []]

/-- Whether a mark stands in a line behind some indentation. -/
def isMarked (indent line : Text) : Bool := (indent ++ "✓").isPrefixOf line || (indent ++ "✗").isPrefixOf line

/-! ## Reports as lines -/

theorem renderPieces_append (color : Bool) (ps qs : List Piece) :
    renderPieces color (ps ++ qs) = renderPieces color ps ++ renderPieces color qs := List.flatMap_append

theorem renderPieces_flatMap {α : Type} (color : Bool) (f : α → List Piece) (g : α → List Text)
    (h : ∀ a, renderPieces color (f a) = Text.unlines (g a)) (as : List α) :
    renderPieces color (as.flatMap f) = Text.unlines (as.flatMap g) := by
  induction as with
  | nil => rfl
  | cons a as ih =>
    simp only [List.flatMap_cons, renderPieces_append, Text.unlines_append, h, ih]

theorem renderPieces_stageLine (passed : Bool) (stage : Stage) :
    renderPieces false (stageLine passed stage) = Text.unlines [stageMark passed stage] := by
  cases passed <;> cases stage <;> decide

theorem renderPieces_verdict (passed : Bool) :
    renderPieces false (verdict passed) = Text.unlines (verdictLines passed) := by
  cases passed <;> decide

theorem renderPieces_mismatchLines (m : Mismatch) :
    renderPieces false (mismatchLines false m) = Text.unlines m.details := by
  simp [mismatchLines, renderPieces, styledLine, plainLine, Piece.render, Text.unlines, Mismatch.details]

namespace RunResult
variable {r : RunResult}

theorem renderPieces_failureLines (r : RunResult) :
    renderPieces false (failureLines false r) = Text.unlines r.details := by
  have herror : ∀ ls : List Text, renderPieces false (ls.map fun line => plainLine ("      " ++ line)) =
      Text.unlines (ls.map (("      " : Text) ++ ·)) := by
    intro ls
    simp [renderPieces, Text.unlines, plainLine, Piece.render, List.flatMap_map]
  rw [failureLines, details, renderPieces_append, Text.unlines_append,
    renderPieces_flatMap false _ _ renderPieces_mismatchLines]
  cases r.error with
  | none => rfl
  | some error => rw [herror]

theorem renderPieces_stageLines_of_none (h : r.failedStage = none) (stages : List Stage) :
    renderPieces false (stageLines false r stages) = Text.unlines (stages.map (stageMark true)) := by
  induction stages with
  | nil => rfl
  | cons stage rest ih =>
    rw [stageLines, if_neg (by simp [h]), renderPieces_append, renderPieces_stageLine, ih, ← Text.unlines_append]
    rfl

/-- Below the failed stage stands what went wrong in it, and nothing else. -/
theorem stageLines_of_some (verbose : Bool) {failed : Stage} (h : r.failedStage = some failed) {stages : List Stage}
    (hmem : failed ∈ stages) :
    stageLines verbose r stages = (stages.takeWhile (· ≠ failed)).flatMap (stageLine true) ++ stageLine false failed ++
      failureLines verbose r := by
  induction stages with
  | nil => cases hmem
  | cons stage rest ih =>
    by_cases hs : stage = failed
    · subst hs
      rw [stageLines, if_pos h]
      simp
    · have hrest : failed ∈ rest := (List.mem_cons.mp hmem).resolve_left (Ne.symm hs)
      have hne : r.failedStage ≠ some stage := by simp [h, Ne.symm hs]
      rw [stageLines, if_neg hne, ih hrest]
      simp [hs]

theorem renderPieces_stageLines_of_some {failed : Stage} (h : r.failedStage = some failed) {stages : List Stage}
    (hmem : failed ∈ stages) :
    renderPieces false (stageLines false r stages) =
      Text.unlines ((stages.takeWhile (· ≠ failed)).map (stageMark true) ++ [stageMark false failed] ++ r.details) := by
  rw [stageLines_of_some false h hmem, renderPieces_append, renderPieces_append, renderPieces_stageLine,
    renderPieces_flatMap false _ _ (renderPieces_stageLine true), renderPieces_failureLines, ← Text.unlines_append,
    ← Text.unlines_append, List.map_eq_flatMap]

/-- Where a record that names no stage has nothing to tell, a report without raw texts and dumped blocks is made of
whole lines. -/
theorem renderPieces_report (h : r.failedStage = none → r.details = []) :
    renderPieces false (report ⟨false, false⟩ r) =
      Text.unlines (r.stageMarks ++ r.details ++ verdictLines r.passed) := by
  have hreport : report ⟨false, false⟩ r = stageLines false r Stage.all ++ verdict r.passed := by
    simp [report]
  rw [hreport, renderPieces_append, renderPieces_verdict, Text.unlines_append, stageMarks]
  cases hs : r.failedStage with
  | none => rw [renderPieces_stageLines_of_none hs, h hs, List.append_nil]
  | some failed =>
    have hmem : failed ∈ Stage.all := by cases failed <;> decide
    rw [renderPieces_stageLines_of_some hs hmem]

end RunResult

/-! ## Lines that hold what was printed by others -/

theorem newline_not_mem_stageMark (passed : Bool) (stage : Stage) : '\n' ∉ stageMark passed stage := by
  cases passed <;> cases stage <;> decide

theorem isMarked_stageMark (passed : Bool) (stage : Stage) :
    isMarked "  " (stageMark passed stage) = true ∧ isMarked [] (stageMark passed stage) = false := by
  cases passed <;> cases stage <;> decide

/-- Six blanks at the start of a line keep every mark away from where the marks of stages and verdicts stand. -/
theorem isMarked_of_indented {line : Text} (h : ("      " : Text) <+: line) :
    isMarked "  " line = false ∧ isMarked [] line = false := by
  obtain ⟨rest, rfl⟩ := h
  exact ⟨rfl, rfl⟩

theorem Mismatch.newline_not_mem_details (m : Mismatch) : ∀ line ∈ m.details, '\n' ∉ line := by
  have hactual := Text.newline_not_mem_quoted m.actual
  have hexpected := Text.newline_not_mem_quoted m.expected
  have hname : '\n' ∉ m.field.block.literal := by cases m.field <;> decide
  simp [details, hactual, hexpected, hname]

namespace RunResult
variable {r : RunResult}

theorem newline_not_mem_details (r : RunResult) : ∀ line ∈ r.details, '\n' ∉ line := by
  intro line h
  rcases List.mem_append.mp h with h | h
  · cases he : r.error with
    | none => simp [he] at h
    | some error =>
      simp only [he, List.mem_map] at h
      obtain ⟨l, hl, rfl⟩ := h
      have hfree : '\n' ∉ l := Text.newline_not_mem_of_mem_lines hl
      simp [hfree]
  · obtain ⟨m, -, hm⟩ := List.mem_flatMap.mp h
    exact m.newline_not_mem_details line hm

theorem indented_details (r : RunResult) : ∀ line ∈ r.details, ("      " : Text) <+: line := by
  intro line h
  rcases List.mem_append.mp h with h | h
  · cases he : r.error with
    | none => simp [he] at h
    | some error =>
      simp only [he, List.mem_map] at h
      obtain ⟨l, -, rfl⟩ := h
      exact List.prefix_append _ l
  · obtain ⟨m, -, hm⟩ := List.mem_flatMap.mp h
    simp only [Mismatch.details, List.mem_cons, List.not_mem_nil, or_false] at hm
    rcases hm with rfl | rfl | rfl <;> exact ⟨_, rfl⟩

theorem mem_stageMarks {line : Text} (h : line ∈ r.stageMarks) : ∃ passed stage, line = stageMark passed stage := by
  rw [stageMarks] at h
  cases hs : r.failedStage with
  | none =>
    simp only [hs, List.mem_map] at h
    obtain ⟨stage, -, rfl⟩ := h
    exact ⟨true, stage, rfl⟩
  | some failed =>
    simp only [hs, List.mem_append, List.mem_map, List.mem_singleton] at h
    rcases h with ⟨stage, -, rfl⟩ | rfl
    · exact ⟨true, stage, rfl⟩
    · exact ⟨false, failed, rfl⟩

theorem splitOn_report (h : r.failedStage = none → r.details = []) :
    Text.splitOn '\n' (renderPieces false (report ⟨false, false⟩ r)) =
      r.stageMarks ++ r.details ++ [[], verdictLine r.passed, [], []] := by
  have hlines : ∀ line ∈ r.stageMarks ++ r.details ++ verdictLines r.passed, '\n' ∉ line := by
    intro line hline
    simp only [List.mem_append] at hline
    rcases hline with (hline | hline) | hline
    · obtain ⟨passed, stage, rfl⟩ := mem_stageMarks hline
      exact newline_not_mem_stageMark passed stage
    · exact r.newline_not_mem_details line hline
    · revert line
      cases r.passed <;> decide
  rw [renderPieces_report h, Text.splitOn_unlines hlines, List.append_assoc]
  rfl

/-! ## What a reader sees -/

/-- A record is shown by lines: those with a mark behind two blanks are its stages, the only mark at the start of a line
is that of the verdict, and between the stages and the empty line in front of the verdict every line begins with six
blanks. These lines are the lines of the error if there is one, and there are none if the run has passed. -/
structure IsShownBy (r : RunResult) (shown : List Text) : Prop where
  stages : shown.filter (isMarked "  ") = r.stageMarks
  verdict : shown.filter (isMarked []) = [verdictLine r.passed]
  details : ∃ details, shown = r.stageMarks ++ details ++ [[], verdictLine r.passed, [], []] ∧
    (∀ line ∈ details, ("      " : Text) <+: line) ∧ (r.passed = true → details = []) ∧
    ∀ error, r.error = some error → details = error.lines.map (("      " : Text) ++ ·)

/-- Lines end in a verdict that has a line for itself, and no line behind it holds anything. -/
structure EndsIn (r : RunResult) (shown : List Text) : Prop where
  exists_above : ∃ above, shown = above ++ [verdictLine r.passed, [], []]
  getLast?_eq : (shown.filter fun line => !line.all Text.isBlank).getLast? = some (verdictLine r.passed)
  passed_iff : (shown.filter fun line => !line.all Text.isBlank).getLast? = some (verdictLine true) ↔ r.passed = true

theorem isShownBy_report (h : r.failedStage = none → r.details = []) (hp : r.passed = true → r.details = [])
    (hm : r.error ≠ none → r.mismatches = []) :
    r.IsShownBy (Text.splitOn '\n' (renderPieces false (report ⟨false, false⟩ r))) := by
  have hstages : r.stageMarks.filter (isMarked "  ") = r.stageMarks := by
    rw [List.filter_eq_self]
    intro line hline
    obtain ⟨passed, stage, rfl⟩ := mem_stageMarks hline
    exact (isMarked_stageMark passed stage).1
  have hstages' : r.stageMarks.filter (isMarked []) = [] := by
    rw [List.filter_eq_nil_iff]
    intro line hline
    obtain ⟨passed, stage, rfl⟩ := mem_stageMarks hline
    simp [(isMarked_stageMark passed stage).2]
  have hdetails (indent : Text) (hi : indent = "  " ∨ indent = []) : r.details.filter (isMarked indent) = [] := by
    rw [List.filter_eq_nil_iff]
    intro line hline
    obtain ⟨htwo, hnone⟩ := isMarked_of_indented (r.indented_details line hline)
    rcases hi with rfl | rfl
    · exact Bool.eq_false_iff.mp htwo
    · exact Bool.eq_false_iff.mp hnone
  have hverdict : ([[], verdictLine r.passed, [], []] : List Text).filter (isMarked "  ") = [] ∧
      ([[], verdictLine r.passed, [], []] : List Text).filter (isMarked []) = [verdictLine r.passed] := by
    cases r.passed <;> decide
  rw [splitOn_report h]
  constructor
  · simp only [List.filter_append, hstages, hdetails _ (.inl rfl), hverdict.1, List.append_nil]
  · simp only [List.filter_append, hstages', hdetails _ (.inr rfl), hverdict.2, List.nil_append]
  · refine ⟨r.details, rfl, r.indented_details, hp, ?_⟩
    intro error he
    simp [RunResult.details, he, hm (by simp [he])]

theorem endsIn_report (options : ReportOptions) (r : RunResult) :
    r.EndsIn (Text.splitOn '\n' (renderPieces false (report options r))) := by
  have hreport : ∃ before, Text.splitOn '\n' (renderPieces false (report options r)) =
      before ++ [verdictLine r.passed, [], []] := by
    have hverdict : ∀ line ∈ [verdictLine r.passed, []], '\n' ∉ line := by
      cases r.passed <;> decide
    refine ⟨Text.splitOn '\n' (renderPieces false
      (stageLines options.verbose r Stage.all ++ if options.dumpBlocks then dump r else [])), ?_⟩
    rw [report, renderPieces_append, renderPieces_verdict, verdictLines, Text.unlines_cons, List.nil_append,
      Text.splitOn_append_cons, Text.splitOn_unlines hverdict]
    rfl
  obtain ⟨before, hbefore⟩ := hreport
  have hlast : (([verdictLine r.passed, [], []] : List Text).filter fun line => !line.all Text.isBlank) =
      [verdictLine r.passed] := by
    cases r.passed <;> decide
  have hline : ((Text.splitOn '\n' (renderPieces false (report options r))).filter
      fun line => !line.all Text.isBlank).getLast? = some (verdictLine r.passed) := by
    rw [hbefore, List.filter_append, hlast, List.getLast?_append]
    rfl
  refine ⟨⟨before, hbefore⟩, hline, ?_⟩
  rw [hline, Option.some_inj]
  exact ⟨verdictLine_injective, congrArg verdictLine⟩

/-- What a record has to tell below its stages, by its kind. -/
theorem Fits.details {scenario : Scenario} {a : Attempt} {shape : Shape} (h : r.Fits scenario a shape) :
    (r.failedStage = none → r.details = []) ∧ (r.passed = true → r.details = []) ∧
      (r.error ≠ none → r.mismatches = []) := by
  cases shape with
  | passed =>
    obtain ⟨hr, -⟩ := h
    have hd : r.details = [] := by simp [RunResult.details, hr.error, hr.mismatches]
    exact ⟨fun _ => hd, fun _ => hd, fun _ => hr.mismatches⟩
  | compared =>
    obtain ⟨blocks, hr, -⟩ := h
    exact ⟨by simp [hr.failedStage], by simp [hr.passed], by simp [hr.error]⟩
  | aborted =>
    obtain ⟨failure, hr, -⟩ := h
    refine ⟨fun hs => ?_, by simp [hr.passed], fun _ => hr.mismatches⟩
    rcases hr.stage_early with h | h | h <;> rw [hs] at h <;> cases h

end RunResult

/-- **A report cannot be forged.** Whatever became of a run, its record is shown by the lines of the report, however
the executable, its output and its error output are worded; and with all raw texts and blocks in it a report still ends
in the verdict of the record. -/
theorem Attempt.report_lines (scenario : Scenario) (a : Attempt) :
    ∃ r, a.result scenario = .ok r ∧
      r.IsShownBy (Text.splitOn '\n' (renderPieces false (report ⟨false, false⟩ r))) ∧
      ∀ options, r.EndsIn (Text.splitOn '\n' (renderPieces false (report options r))) := by
  obtain ⟨r, hr, -, shape, hfits⟩ := exists_result_fits scenario a
  obtain ⟨hnone, hpassed, hmismatches⟩ := hfits.details
  exact ⟨r, hr, RunResult.isShownBy_report hnone hpassed hmismatches, fun options => r.endsIn_report options⟩

end BlockHarness
