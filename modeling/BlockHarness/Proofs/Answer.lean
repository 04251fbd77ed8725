import BlockHarness.Command.Line
import BlockHarness.Proofs.Appearance
import BlockHarness.Proofs.JsonReading
import BlockHarness.Proofs.Shape

/-! A run is answered in four ways: by success or an error, by the exit code, and by a JSON document or a report for
people. All of them tell the same verdict, and how the run is shown makes no difference to it. -/
namespace BlockHarness
set_option autoImplicit false

/-! ## Telling a verdict -/

/-- An answer tells the verdict of a record: success, or the name and the stage that failed. -/
structure RunResult.IsTold (r : RunResult) (answer : Except Failure Unit) : Prop where
  ok_iff : answer = .ok () ↔ r.passed = true
  exists_stage : r.passed = false →
    ∃ stage, r.failedStage = some stage ∧ answer = .error (.testFailed r.name stage)

/-- A document tells an answer. -/
def Json.Tells (j : Json) : Except Failure Unit → Prop
  | .ok () => j.member? "passed" = some (.boolean true) ∧ j.member? "failed_stage" = some .null
  | .error (.testFailed _ stage) =>
    j.member? "passed" = some (.boolean false) ∧ j.member? "failed_stage" = some stage.toJson
  | .error _ => False

/-- A response gives an answer, ends the program with its code, and prints it: in one document and nothing else, or in
the last line of a report. -/
structure Response.Tells (response : Response) (json : Bool) (answer : Except Failure Unit) : Prop where
  answer_eq : response.answer = answer
  code_eq_zero_iff : response.exit.code = 0 ↔ answer = .ok ()
  code_eq_one_iff : response.exit.code = 1 ↔ answer ≠ .ok ()
  document : json = true → ∃ j : Json, response.stdout = j.pretty ++ ['\n'] ∧
    Json.read? response.stdout = some (j, ['\n']) ∧ j.Tells answer
  lastLine_passed_iff : json = false →
    ((Text.withoutStyles response.stdout).lastLine? = some (verdictLine true) ↔ answer = .ok ())
  lastLine_failed_iff : json = false →
    ((Text.withoutStyles response.stdout).lastLine? = some (verdictLine false) ↔ answer ≠ .ok ())

/-- The same run, shown in another way. -/
def RunRequest.shown (r : RunRequest) (verbose json : Bool) : RunRequest := { r with verbose, json }

/-- The same settings with another way of reporting. -/
def Settings.reporting (settings : Settings) (report : ReportSettings) : Settings := { settings with report }

/-! ## Records and their answers -/

namespace RunResult
variable {r : RunResult} (h : r.passed = r.failedStage.isNone)
include h

theorem isTold_answer : r.IsTold (RunRequest.answer (.ok r)) := by
  cases hs : r.failedStage with
  | none =>
    have hp : r.passed = true := by rw [h, hs]; rfl
    exact ⟨by simp [RunRequest.answer, hp], by simp [hp]⟩
  | some stage =>
    have hp : r.passed = false := by rw [h, hs]; rfl
    exact ⟨by simp [RunRequest.answer, hp], fun _ => ⟨stage, hs, by simp [RunRequest.answer, hp, hs]⟩⟩

theorem toJson_tells : r.toJson.Tells (RunRequest.answer (.ok r)) := by
  have hpassed : r.toJson.member? "passed" = some (.boolean r.passed) := rfl
  have hstage : r.toJson.member? "failed_stage" = some (Json.ofOption Stage.toJson r.failedStage) := rfl
  rw [h] at hpassed
  rw [RunRequest.answer, h]
  cases hs : r.failedStage <;> rw [hs] at hpassed hstage <;> exact ⟨hpassed, hstage⟩

end RunResult

/-! ## Responses -/

theorem Response.exit_code (response : Response) :
    (response.exit.code = 0 ↔ response.answer = .ok ()) ∧ (response.exit.code = 1 ↔ response.answer ≠ .ok ()) := by
  rw [Response.exit]
  cases response.answer with
  | ok u => cases u; simp
  | error failure => simp

namespace RunRequest
variable {r : RunRequest} {settings : Settings} {color : Bool} {scenario : Scenario} {a : Attempt} {result : RunResult}

theorem stdout_respond_of_json (h : a.result scenario = .ok result) (hj : r.json = true) :
    (r.respond settings color scenario a).stdout = result.toJson.pretty ++ ['\n'] := by
  simp only [respond, h, hj, printed, options]
  rfl

theorem stdout_respond_of_report (h : a.result scenario = .ok result) (hj : r.json = false) :
    (r.respond settings color scenario a).stdout = printed (r.options settings) color scenario (.ok result) := by
  simp only [respond, h, hj, List.append_nil]

theorem respond_tells_answer (h : a.result scenario = .ok result) (hp : result.passed = result.failedStage.isNone)
    (settings : Settings) (color : Bool) :
    (r.respond settings color scenario a).Tells r.json (answer (.ok result)) := by
  have hanswer : (r.respond settings color scenario a).answer = answer (.ok result) := by rw [respond, h]
  have hline (hj : r.json = false) (b : Bool) :
      (Text.withoutStyles (r.respond settings color scenario a).stdout).lastLine? = some (verdictLine b) ↔
        result.passed = b := by
    rw [stdout_respond_of_report h hj, lastLine?_printed _ hj, Option.some_inj]
    exact ⟨verdictLine_injective, congrArg verdictLine⟩
  have ht := RunResult.isTold_answer hp
  obtain ⟨hzero, hone⟩ := (r.respond settings color scenario a).exit_code
  rw [hanswer] at hzero hone
  exact {
    answer_eq := hanswer
    code_eq_zero_iff := hzero
    code_eq_one_iff := hone
    document := fun hj => ⟨result.toJson, stdout_respond_of_json h hj, by
      rw [stdout_respond_of_json h hj, Json.read?_pretty], RunResult.toJson_tells hp⟩
    lastLine_passed_iff := fun hj => (hline hj true).trans ht.ok_iff.symm
    lastLine_failed_iff := fun hj => by rw [hline hj false, Ne, ht.ok_iff, Bool.not_eq_true] }

theorem effective_shown (verbose json : Bool) (report : ReportSettings) (loaded : Option Scenario) :
    (r.shown verbose json).effective (settings.reporting report) loaded = r.effective settings loaded := rfl

/-! ## Commands and programs -/

theorem dispatch_run {w : World} {loaded : Option Scenario} (hs : Settings.load w = .ok settings)
    (hl : r.load w = .ok loaded) (color : Bool) :
    ((Command.run r).dispatch w color).1 =
      r.respond settings (color && settings.report.color) (r.effective settings loaded)
        (w.attempt (r.effective settings loaded)).1 := by
  simp only [Command.dispatch, hs, hl]

theorem runProgram_command {arguments : List Text} {command : Command}
    (h : Request.ofArguments? arguments = some (.command command)) (w : World) (color : Bool) :
    (runProgram w color arguments).1 = (command.dispatch w color).1.exit := by
  simp only [runProgram, h]

/-- **A run tells one verdict.** Whatever is loaded and overridden and whatever becomes of the executable, there is a
record of the run under the name of the scenario, and one answer to it: success if it has passed, and else an error
with the name and the stage of the record. That answer is given, ends the program and is printed, whether blocks are
dumped or not, with or without colour, in detail or not, for people or as JSON. -/
theorem respond_tells (r : RunRequest) (settings : Settings) (loaded : Option Scenario) (a : Attempt) :
    ∃ result answer, a.result (r.effective settings loaded) = .ok result ∧
      result.name = (r.effective settings loaded).name ∧ result.IsTold answer ∧
      (∀ (verbose json : Bool) (report : ReportSettings) (color : Bool),
        ((r.shown verbose json).respond (settings.reporting report) color
          ((r.shown verbose json).effective (settings.reporting report) loaded) a).Tells json answer) ∧
      ∀ w : World, Settings.load w = .ok settings → r.load w = .ok loaded →
        (w.attempt (r.effective settings loaded)).1 = a → ∀ color : Bool,
        ((Command.run r).dispatch w color).1.Tells r.json answer ∧
          ∀ arguments, Request.ofArguments? arguments = some (.command (.run r)) →
            (runProgram w color arguments).1 = ((Command.run r).dispatch w color).1.exit := by
  obtain ⟨result, hr, hname, shape, hfits⟩ := Attempt.exists_result_fits (r.effective settings loaded) a
  have hp := hfits.passed_eq
  refine ⟨result, _, hr, hname, RunResult.isTold_answer hp, fun verbose json report color => ?_,
    fun w hs hl ha color => ⟨?_, ?_⟩⟩
  · rw [effective_shown]
    exact respond_tells_answer (r := r.shown verbose json) hr hp _ color
  · rw [dispatch_run hs hl, ha]
    exact respond_tells_answer hr hp _ _
  · exact fun arguments h => runProgram_command h w color

/-- A system without a single file. -/
def bare : World := ⟨⟨[], []⟩, ⟨none, none, none⟩, []⟩

/-- The reference scenario as it is run for JSON. -/
def plainRun : RunRequest := { json := true }

/-- An attempt at the reference executable where it is not there. -/
def unfound : Attempt := .launched Scenario.referenceExecutable (.notStarted (.system .notFound))

theorem respond_tells_bare :
    Settings.load bare = .ok {} ∧ plainRun.load bare = .ok none ∧
      Request.ofArguments? ["run", "--json"] = some (.command (.run plainRun)) ∧
      (bare.attempt (plainRun.effective {} none)).1 = unfound ∧
      (runProgram bare true ["run", "--json"]).1.code = 1 ∧
      ∃ j : Json, (runProgram bare true ["run", "--json"]).1.stdout = j.pretty ++ ['\n'] ∧
        j.Tells (.error (.testFailed "x86_64 execution" .launch)) := by
  have hs : Settings.load bare = .ok {} := rfl
  have hl : plainRun.load bare = .ok none := rfl
  have harguments : Request.ofArguments? ["run", "--json"] = some (.command (.run plainRun)) := by decide
  have ha : (bare.attempt (plainRun.effective {} none)).1 = unfound := rfl
  obtain ⟨result, answer, hr, -, ht, -, hrun⟩ := respond_tells plainRun {} none unfound
  obtain rfl := Except.ok.inj hr
  obtain ⟨stage, hstage, rfl⟩ := ht.exists_stage rfl
  obtain rfl := Option.some.inj hstage
  obtain ⟨htells, hprogram⟩ := hrun bare hs hl ha true
  obtain ⟨j, hj, -, hjtells⟩ := htells.document rfl
  rw [hprogram _ harguments]
  exact ⟨hs, hl, rfl, ha, htells.code_eq_one_iff.mpr nofun, j, hj, hjtells⟩

end RunRequest
end BlockHarness
