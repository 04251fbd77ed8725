import BlockHarness.Proofs.Quotation
import BlockHarness.Proofs.Refusal

/-! Colour as decoration. A report is made of pieces, and each of them is printed as its text with colour sequences
around it. So where no text has a colour sequence of its own, what a run prints in colour is what it prints without,
once its colour sequences are taken out. -/
namespace BlockHarness
set_option autoImplicit false

/-! ## Texts that begin no colour sequence -/

namespace Text

/-- The character that begins a colour sequence is nowhere in a text. -/
def EscapeFree (t : Text) : Prop := '\x1b' ∉ t

instance (t : Text) : Decidable t.EscapeFree := inferInstanceAs (Decidable (_ ∉ _))

theorem escapeFree_append {t u : Text} : EscapeFree (t ++ u) ↔ t.EscapeFree ∧ u.EscapeFree := by
  simp only [EscapeFree, List.mem_append, not_or]

theorem escapeFree_quoted (t : Text) : t.quoted.EscapeFree := (isPlain_quoted t).not_mem (by decide)

theorem mem_of_mem_linesFrom {c : Char} {start t line : Text} (h : line ∈ linesFrom start t) (hc : c ∈ line) :
    c ∈ start ∨ c ∈ t := by
  induction t generalizing start with
  | nil =>
    rw [linesFrom] at h
    split at h
    · cases h
    · rw [List.mem_singleton.mp h] at hc
      exact .inl (List.mem_reverse.mp hc)
  | cons d t ih =>
    by_cases hd : d = '\n'
    · subst hd
      simp only [linesFrom, List.mem_cons] at h
      rcases h with rfl | h
      · exact .inl (List.mem_reverse.mp (mem_of_mem_dropCarriageReturn hc))
      · have hmem := ih h
        simp only [List.not_mem_nil, false_or] at hmem
        exact .inr (List.mem_cons_of_mem _ hmem)
    · simp only [linesFrom] at h
      rcases ih h with hmem | hmem
      · rcases List.mem_cons.mp hmem with rfl | hmem
        · exact .inr List.mem_cons_self
        · exact .inl hmem
      · exact .inr (List.mem_cons_of_mem d hmem)

theorem EscapeFree.of_mem_lines {t line : Text} (h : t.EscapeFree) (hline : line ∈ t.lines) : line.EscapeFree := by
  intro hc
  rcases mem_of_mem_linesFrom hline hc with hc | hc
  · cases hc
  · exact h hc

end Text

/-- The texts of a scenario that a report shows as they are. -/
structure Scenario.EscapeFree (s : Scenario) : Prop where
  name : s.name.EscapeFree
  description : ∀ description, s.description = some description → description.EscapeFree
  executable : s.executable.EscapeFree

/-- The texts of a record that a report shows. -/
structure RunResult.EscapeFree (r : RunResult) : Prop where
  error : ∀ error, r.error = some error → error.EscapeFree
  actual : ∀ m ∈ r.mismatches, m.actual.EscapeFree
  expected : ∀ m ∈ r.mismatches, m.expected.EscapeFree
  dumped : ∀ blocks, r.blocks = some blocks → ∀ b ∈ dumpedBlocks, (blocks.get b).EscapeFree

/-! ## Pieces of a report -/

section Pieces
open Text

theorem escapeFree_renderPieces_append {ps qs : List Piece} (hp : (renderPieces false ps).EscapeFree)
    (hq : (renderPieces false qs).EscapeFree) : (renderPieces false (ps ++ qs)).EscapeFree := by
  rw [renderPieces_append]
  exact escapeFree_append.mpr ⟨hp, hq⟩

theorem escapeFree_renderPieces_cons {p : Piece} {ps : List Piece} (hp : (p.render false).EscapeFree)
    (hps : (renderPieces false ps).EscapeFree) : (renderPieces false (p :: ps)).EscapeFree := by
  rw [renderPieces, List.flatMap_cons]
  exact escapeFree_append.mpr ⟨hp, hps⟩

theorem escapeFree_renderPieces_flatMap {α : Type} {f : α → List Piece} {as : List α}
    (h : ∀ a ∈ as, (renderPieces false (f a)).EscapeFree) : (renderPieces false (as.flatMap f)).EscapeFree := by
  induction as with
  | nil => exact List.not_mem_nil
  | cons a as ih =>
    obtain ⟨ha, has⟩ := List.forall_mem_cons.mp h
    exact escapeFree_renderPieces_append ha (ih has)

theorem escapeFree_plainLine {t : Text} (h : t.EscapeFree) : ((plainLine t).render false).EscapeFree :=
  escapeFree_append.mpr ⟨h, by decide⟩

theorem escapeFree_styledLine (before : Text) {t : Text} (hbefore : before.EscapeFree) (ht : t.EscapeFree) (style : Style) :
    (renderPieces false (styledLine before style t)).EscapeFree :=
  escapeFree_renderPieces_cons hbefore (escapeFree_renderPieces_cons ht (by decide))

theorem escapeFree_literal (b : BlockName) : b.literal.EscapeFree := by cases b <;> decide

theorem escapeFree_header {s : Scenario} (h : s.EscapeFree) (verbose : Bool) :
    (renderPieces false (header s verbose)).EscapeFree := by
  have htitle : (renderPieces false [.plain "\n", .styled .heading "Running Test:", .plain " ",
      .styled .title s.name, .plain "\n"]).EscapeFree := by
    refine escapeFree_renderPieces_cons (by decide) (escapeFree_renderPieces_cons (by decide) ?_)
    exact escapeFree_renderPieces_cons (by decide) (escapeFree_renderPieces_cons h.name (by decide))
  rw [header]
  refine escapeFree_renderPieces_append (escapeFree_renderPieces_append
    (escapeFree_renderPieces_append htitle ?description) ?details) (by decide)
  case description =>
    cases hd : s.description with
    | none => exact List.not_mem_nil
    | some description => exact escapeFree_styledLine _ (by decide) (h.description description hd) _
  case details =>
    cases verbose with
    | false => exact List.not_mem_nil
    | true =>
      have hexecutable := escapeFree_styledLine "  Executable: " (by decide) h.executable .dimmed
      have hinput := escapeFree_styledLine "  Input: " (by decide) (escapeFree_quoted s.input) .dimmed
      exact escapeFree_renderPieces_append hexecutable hinput

theorem escapeFree_stageLine (passed : Bool) (stage : Stage) :
    (renderPieces false (stageLine passed stage)).EscapeFree := by
  cases passed <;> cases stage <;> decide

theorem escapeFree_mismatchLines {m : Mismatch} (hactual : m.actual.EscapeFree) (hexpected : m.expected.EscapeFree)
    (verbose : Bool) : (renderPieces false (mismatchLines verbose m)).EscapeFree := by
  have hwrong : ((plainLine ("      wrong " ++ m.field.block.literal ++ ":")).render false).EscapeFree := by
    cases m.field <;> decide
  have hquoted := escapeFree_renderPieces_append
    (escapeFree_styledLine "        actual:   " (by decide) (escapeFree_quoted m.actual) .bad)
    (escapeFree_styledLine "        expected: " (by decide) (escapeFree_quoted m.expected) .good)
  rw [mismatchLines]
  refine escapeFree_renderPieces_append (escapeFree_renderPieces_cons hwrong hquoted) ?_
  cases verbose with
  | false => exact List.not_mem_nil
  | true =>
    refine escapeFree_renderPieces_cons (by decide) (escapeFree_renderPieces_cons hactual ?_)
    exact escapeFree_renderPieces_cons (by decide) (escapeFree_renderPieces_cons hexpected List.not_mem_nil)

variable {r : RunResult} (h : r.EscapeFree)
include h

theorem escapeFree_failureLines (verbose : Bool) : (renderPieces false (failureLines verbose r)).EscapeFree := by
  rw [failureLines]
  refine escapeFree_renderPieces_append ?_ (escapeFree_renderPieces_flatMap fun m hm =>
    escapeFree_mismatchLines (h.actual m hm) (h.expected m hm) verbose)
  cases he : r.error with
  | none => exact List.not_mem_nil
  | some error =>
    have hlines : ∀ line ∈ error.lines, (renderPieces false [plainLine ("      " ++ line)]).EscapeFree := by
      intro line hline
      have hfree : EscapeFree ("      " ++ line) :=
        escapeFree_append.mpr ⟨by decide, (h.error error he).of_mem_lines hline⟩
      exact escapeFree_renderPieces_cons (escapeFree_plainLine hfree) List.not_mem_nil
    simp only [List.map_eq_flatMap]
    exact escapeFree_renderPieces_flatMap hlines

theorem escapeFree_stageLines (verbose : Bool) (stages : List Stage) :
    (renderPieces false (stageLines verbose r stages)).EscapeFree := by
  induction stages with
  | nil => exact List.not_mem_nil
  | cons stage rest ih =>
    rw [stageLines]
    split
    · exact escapeFree_renderPieces_append (escapeFree_stageLine false stage) (escapeFree_failureLines h verbose)
    · exact escapeFree_renderPieces_append (escapeFree_stageLine true stage) ih

theorem escapeFree_dump : (renderPieces false (dump r)).EscapeFree := by
  rw [dump]
  cases hb : r.blocks with
  | none => exact List.not_mem_nil
  | some blocks =>
    cases r.passed with
    | true => exact List.not_mem_nil
    | false =>
      refine escapeFree_renderPieces_flatMap fun b hdumped => ?_
      have hopening : EscapeFree ("BEGIN " ++ b.literal) := escapeFree_append.mpr ⟨by decide, escapeFree_literal b⟩
      have hclosing : EscapeFree ("END " ++ b.literal) := escapeFree_append.mpr ⟨by decide, escapeFree_literal b⟩
      refine escapeFree_renderPieces_append (escapeFree_styledLine _ (by decide) hopening .dimmed) ?_
      exact escapeFree_renderPieces_cons (h.dumped blocks hb b hdumped)
        (escapeFree_styledLine _ (by decide) hclosing .dimmed)

theorem escapeFree_report (options : ReportOptions) : (renderPieces false (report options r)).EscapeFree := by
  have hverdict : (renderPieces false (verdict r.passed)).EscapeFree := by
    cases r.passed <;> decide
  rw [report]
  refine escapeFree_renderPieces_append (escapeFree_renderPieces_append (escapeFree_stageLines h _ _) ?_) hverdict
  split
  · exact escapeFree_dump h
  · exact List.not_mem_nil

end Pieces

/-! ## Runs in colour and without -/

def Course.output {α : Type} (x : Course α) : Text := x.deeds.flatMap Deed.printed

def Deed.withoutStyles : Deed → Deed
  | .prints t => .prints t.withoutStyles
  | .attempts scenario => .attempts scenario

theorem Text.EscapeFree.withoutStyles_renderPieces {ps : List Piece} (h : (renderPieces false ps).EscapeFree)
    (color : Bool) : Text.withoutStyles (renderPieces color ps) = renderPieces false ps := by
  have happend := BlockHarness.withoutStyles_renderPieces color h []
  rw [List.append_nil] at happend
  rw [happend]
  exact List.append_nil _

namespace Scenario
variable {scenario : Scenario} {ends : Scenario → Attempt} {r : RunResult}

theorem output_course (h : (ends scenario).result scenario = .ok r) (options : RunOptions) (color : Bool) :
    (scenario.course options color ends).output = printed options color scenario (.ok r) := by
  rw [course_eq h, printed, Course.output]
  cases options.quiet with
  | true => rfl
  | false => simp [Deed.printed, renderPieces]

theorem withoutStyles_printed (hs : scenario.EscapeFree) (hr : r.EscapeFree) (options : RunOptions) (color : Bool) :
    (printed options color scenario (.ok r)).withoutStyles = printed options false scenario (.ok r) := by
  rw [printed, printed]
  split
  · rfl
  · have hfree := escapeFree_renderPieces_append (escapeFree_header hs options.verbose)
      (escapeFree_report hr ⟨options.verbose, options.dumpBlocks⟩)
    exact hfree.withoutStyles_renderPieces color

theorem withoutStyles_deeds (hs : scenario.EscapeFree) (hr : r.EscapeFree)
    (h : (ends scenario).result scenario = .ok r) (options : RunOptions) (color : Bool) :
    (scenario.course options color ends).deeds.map Deed.withoutStyles = (scenario.course options false ends).deeds := by
  have hheader := (escapeFree_header hs options.verbose).withoutStyles_renderPieces color
  have hreport := (escapeFree_report hr ⟨options.verbose, options.dumpBlocks⟩).withoutStyles_renderPieces color
  rw [course_eq h, course_eq h]
  cases options.quiet with
  | true => rfl
  | false => simp [Deed.withoutStyles, hheader, hreport]

/-- **Colour is decoration only.** Where no shown text has the character that begins a colour sequence, all that a run
does in colour is what it does without, but for the colour sequences in what it prints; and it comes to the same record.
A command that runs the scenario gives the same answer, and prints the same document or, colour aside, the same report. -/
theorem course_decorated (scenario : Scenario) (options : RunOptions) (ends : Scenario → Attempt)
    (hs : scenario.EscapeFree) (hr : ∀ r, (ends scenario).result scenario = .ok r → r.EscapeFree) :
    (scenario.course options true ends).output.withoutStyles = (scenario.course options false ends).output ∧
    (scenario.course options true ends).deeds.map Deed.withoutStyles = (scenario.course options false ends).deeds ∧
    (∃ r, ∀ color, (scenario.course options color ends).answer = .ok r) ∧
    ∀ (request : RunRequest) (settings : Settings),
      let response := fun color => request.respond settings color scenario (ends scenario)
      (response true).answer = (response false).answer ∧
        (request.json = true → (response true).stdout = (response false).stdout) ∧
        (request.json = false → (response true).stdout.withoutStyles = (response false).stdout) := by
  obtain ⟨r, h, -⟩ := Attempt.exists_result_fits scenario (ends scenario)
  have hfree := hr r h
  refine ⟨?_, withoutStyles_deeds hs hfree h options true, ⟨r, fun color => by rw [course_eq h]⟩, ?_⟩
  · rw [output_course h, output_course h]
    exact withoutStyles_printed hs hfree options true
  · intro request settings response
    refine ⟨rfl, fun hj => ?_, fun hj => ?_⟩
    · exact (RunRequest.stdout_respond_of_json h hj).trans (RunRequest.stdout_respond_of_json h hj).symm
    · have hcoloured : (response true).stdout = _ := RunRequest.stdout_respond_of_report h hj
      have hplain : (response false).stdout = _ := RunRequest.stdout_respond_of_report h hj
      rw [hcoloured, hplain]
      exact withoutStyles_printed hs hfree (request.options settings) true

/-- A scenario whose input would switch a colour on if it were printed as it is. -/
def vivid : Scenario where
  name := "vivid"
  description := some "in colour"
  executable := "./demo"
  args := []
  input := "\x1b[31myankee"
  expect := ⟨"2\n", some "tango"⟩
  baseDir := none

/-- What a process prints that finds neither of the compared blocks as expected. -/
def vividOutput : Text :=
  "BEGIN assembly\nret\nEND assembly\nBEGIN machine code\nc3 END machine code\n" ++
    "BEGIN program output\n1\nEND program output\nBEGIN read buffer\nyankeeEND read buffer\n"

def vividEnd (_ : Scenario) : Attempt := .launched "./demo" (.ended ⟨.complete, .exited 0, Utf8.encode vividOutput, []⟩)

def vividResult : RunResult :=
  .compared "vivid" ⟨"ret\n", "c3 ", "1\n", "yankee"⟩
    [⟨.programOutput, "1\n", "2\n"⟩, ⟨.readBuffer, "yankee", "tango"⟩]

theorem course_decorated_vivid :
    let printed := fun color => (vivid.course ⟨true, true, false⟩ color vividEnd).output
    (printed true).withoutStyles = printed false ∧ printed true ≠ printed false := by
  intro printed
  have hs : vivid.EscapeFree := by
    refine ⟨by decide, fun description hd => ?_, by decide⟩
    obtain rfl : "in colour" = description := Option.some.inj hd
    decide
  have hresult : (vividEnd vivid).result vivid = .ok vividResult := by decide +kernel
  have hfree : vividResult.EscapeFree := by
    refine ⟨nofun, by decide, by decide, fun blocks hb => ?_⟩
    obtain rfl : ⟨"ret\n", "c3 ", "1\n", "yankee"⟩ = blocks := Option.some.inj hb
    decide
  have hr : ∀ r, (vividEnd vivid).result vivid = .ok r → r.EscapeFree := by
    intro r h
    exact Except.ok.inj (hresult.symm.trans h) ▸ hfree
  exact ⟨(course_decorated vivid ⟨true, true, false⟩ vividEnd hs hr).1, by decide +kernel⟩

end Scenario

end BlockHarness
