import BlockHarness.Command.Course
import BlockHarness.Proofs.Answer

/-! Commands that fail before they have begun. A command is refused for the first thing that it cannot read or find, and
then it has neither printed anything nor turned to an executable. A run that is not refused is carried out to its end,
with a whole report or a whole document. -/
namespace BlockHarness
set_option autoImplicit false

/-! ## Refusals -/

/-- A command is refused for a failure: settings are read before the scenario, and captured output is read before
blocks are looked for in it. -/
def Command.Refused (w : World) (failure : Failure) : Command → Prop
  | .run r =>
    Settings.load w = .error failure ∨ ∃ settings, Settings.load w = .ok settings ∧ r.load w = .error failure
  | .parse file block =>
    readCaptured w file = .error failure ∨
      ∃ t fault, readCaptured w file = .ok t ∧ extract t block = .error fault ∧ failure = .block fault

/-- A failure that is the verdict of a run. -/
def Failure.IsVerdict (failure : Failure) : Prop := ∃ name stage, failure = .testFailed name stage

/-- A run has been carried out: it is answered for by its result, and has printed one document after the attempt, or a
header before it and a report after it that ends in the verdict. -/
structure RunRequest.CarriedOut (r : RunRequest) (settings : Settings) (color : Bool) (scenario : Scenario)
    (result : RunResult) (x : Course Unit) : Prop where
  answer_eq : x.answer = answer (.ok result)
  document : r.json = true → x.deeds = [.attempts scenario, .prints (result.toJson.pretty ++ ['\n'])] ∧
    Json.read? x.response.stdout = some (result.toJson, ['\n'])
  shown : r.json = false →
    x.deeds = [.prints (renderPieces color (header scenario r.verbose)), .attempts scenario,
      .prints (renderPieces color (report ⟨r.verbose, settings.report.dumpBlocksOnFailure⟩ result))] ∧
    (Text.withoutStyles x.response.stdout).lastLine? = some (verdictLine result.passed)

theorem mapError_eq_error {ε ε' α : Type} {x : Except ε α} {f : ε → ε'} {e : ε'} (h : x.mapError f = .error e) :
    ∃ e', f e' = e := by
  cases x with
  | error e' => exact ⟨e', Except.error.inj h⟩
  | ok a => cases h

theorem Settings.not_isVerdict_of_load {w : World} {failure : Failure} (h : Settings.load w = .error failure) :
    ¬ failure.IsVerdict := by
  rintro ⟨name, stage, rfl⟩
  cases hpresent : w.files.isPresent w.env.configPath with
  | true =>
    rw [load_of_isPresent hpresent, loadFrom, bind_eq_error_iff] at h
    rcases h with h | ⟨t, -, h⟩
    · obtain ⟨reason, he⟩ := mapError_eq_error h
      cases he
    · obtain ⟨fault, he⟩ := mapError_eq_error h
      cases he
  | false =>
    rw [load_of_not_isPresent hpresent] at h
    cases h

theorem Scenario.not_isVerdict_of_load {w : World} {path : Text} {failure : Failure}
    (h : Scenario.load w path = .error failure) : ¬ failure.IsVerdict := by
  rintro ⟨name, stage, rfl⟩
  rw [load, bind_eq_error_iff] at h
  rcases h with h | ⟨t, -, h⟩
  · obtain ⟨reason, he⟩ := mapError_eq_error h
    cases he
  · rw [bind_eq_error_iff] at h
    rcases h with h | ⟨scenario, -, h⟩
    · obtain ⟨fault, he⟩ := mapError_eq_error h
      cases he
    · cases h

theorem not_isVerdict_of_readCaptured {w : World} {file : Text} {failure : Failure}
    (h : readCaptured w file = .error failure) : ¬ failure.IsVerdict := by
  rintro ⟨name, stage, rfl⟩
  rw [readCaptured] at h
  split at h
  · split at h <;> cases h
  · obtain ⟨reason, he⟩ := mapError_eq_error h
    cases he

theorem RunRequest.not_isVerdict_of_load {r : RunRequest} {w : World} {failure : Failure}
    (h : r.load w = .error failure) : ¬ failure.IsVerdict := by
  rw [load] at h
  cases hs : r.scenario with
  | none => simp [hs] at h
  | some path =>
    have hp : Scenario.load w path = .error failure := by
      cases hl : Scenario.load w path with
      | error e => simpa [hs, hl, Except.map] using h
      | ok scenario => simp [hs, hl, Except.map] at h
    exact Scenario.not_isVerdict_of_load hp

/-! ## Courses of runs -/

section Run
variable {w : World} {color : Bool} {ends : Scenario → Attempt}

theorem Scenario.course_eq {scenario : Scenario} {options : RunOptions} {r : RunResult}
    (h : (ends scenario).result scenario = .ok r) :
    scenario.course options color ends =
      ⟨(if options.quiet then [] else [.prints (renderPieces color (header scenario options.verbose))]) ++
        [.attempts scenario] ++
        (if options.quiet then [] else
          [.prints (renderPieces color (report ⟨options.verbose, options.dumpBlocks⟩ r))]), .ok r⟩ := by
  rw [course, h]
  cases options.quiet <;> rfl

namespace RunRequest
variable {r : RunRequest} {settings : Settings} {loaded : Option Scenario} {result : RunResult}

/-- The deeds of a run that is not refused: a document after the attempt, or a header before it and a report after it. -/
def deeds (r : RunRequest) (settings : Settings) (color : Bool) (scenario : Scenario) (result : RunResult) : List Deed :=
  if r.json then [.attempts scenario, .prints (result.toJson.pretty ++ ['\n'])]
  else
    [.prints (renderPieces color (header scenario r.verbose)), .attempts scenario,
      .prints (renderPieces color (report ⟨r.verbose, settings.report.dumpBlocksOnFailure⟩ result))]

theorem course_of_loaded (hs : Settings.load w = .ok settings) (hl : r.load w = .ok loaded)
    (hr : (ends (r.effective settings loaded)).result (r.effective settings loaded) = .ok result) :
    r.course w color ends =
      ⟨r.deeds settings (color && settings.report.color) (r.effective settings loaded) result,
        answer (.ok result)⟩ := by
  rw [course, hs, Course.ofExcept_ok_bind, hl, Course.ofExcept_ok_bind, Scenario.course_eq hr, deeds, Course.mk_ok_bind]
  simp only [options]
  by_cases hj : r.json = true
  · simp only [hj, if_true, Course.print, Course.deed_bind]
    rfl
  · rw [Bool.not_eq_true] at hj
    simp only [hj, Bool.false_eq_true, if_false, List.append_assoc]
    rfl

theorem course_of_settings_error {failure : Failure} (h : Settings.load w = .error failure) :
    r.course w color ends = ⟨[], .error failure⟩ := by
  rw [course, h, Course.ofExcept_error_bind]

theorem course_of_load_error {failure : Failure} (hs : Settings.load w = .ok settings)
    (h : r.load w = .error failure) : r.course w color ends = ⟨[], .error failure⟩ := by
  rw [course, hs, Course.ofExcept_ok_bind, h, Course.ofExcept_error_bind]

/-- What is printed in the course of a run is what the response to it shows. -/
theorem response_deeds (scenario : Scenario) {a : Attempt} (h : a.result scenario = .ok result) :
    (Course.mk (r.deeds settings color scenario result) (answer (.ok result))).response =
      r.respond settings color scenario a := by
  rw [Course.response, deeds, respond, h]
  cases hj : r.json with
  | true => simp [printed, options, hj, Deed.printed]
  | false => simp [printed, options, hj, Deed.printed, renderPieces]

theorem carriedOut_deeds (scenario : Scenario) {a : Attempt} (h : a.result scenario = .ok result) :
    r.CarriedOut settings color scenario result ⟨r.deeds settings color scenario result, answer (.ok result)⟩ := by
  refine ⟨rfl, fun hj => ⟨by simp [deeds, hj], ?_⟩, fun hj => ⟨by simp [deeds, hj], ?_⟩⟩
  · rw [response_deeds scenario h, stdout_respond_of_json h hj, Json.read?_pretty]
  · rw [response_deeds scenario h, stdout_respond_of_report h hj, lastLine?_printed _ hj]

/-- All that can come of a run: it is refused for its settings or for its scenario, or it is carried out. -/
theorem course_cases (r : RunRequest) (w : World) (color : Bool) (ends : Scenario → Attempt) :
    (∃ failure, (Command.run r).Refused w failure ∧ r.course w color ends = ⟨[], .error failure⟩) ∨
    (∃ settings loaded result, Settings.load w = .ok settings ∧ r.load w = .ok loaded ∧
      (ends (r.effective settings loaded)).result (r.effective settings loaded) = .ok result ∧
      r.CarriedOut settings (color && settings.report.color) (r.effective settings loaded) result
        (r.course w color ends)) := by
  cases hs : Settings.load w with
  | error failure => exact .inl ⟨failure, .inl hs, course_of_settings_error hs⟩
  | ok settings =>
    cases hl : r.load w with
    | error failure => exact .inl ⟨failure, .inr ⟨settings, hs, hl⟩, course_of_load_error hs hl⟩
    | ok loaded =>
      obtain ⟨result, hr, -⟩ :=
        Attempt.exists_result_fits (r.effective settings loaded) (ends (r.effective settings loaded))
      refine .inr ⟨settings, loaded, result, rfl, rfl, hr, ?_⟩
      rw [course_of_loaded hs hl hr]
      exact carriedOut_deeds _ hr

theorem answer_isVerdict {failure : Failure} (h : answer (.ok result) = .error failure) : failure.IsVerdict := by
  rw [answer] at h
  split at h
  · cases h
  · cases h
    exact ⟨_, _, rfl⟩

end RunRequest
end Run

/-! ## Courses of extractions -/

section Parse
variable {w : World} {file : Text} {block : Option BlockName}

theorem Blocks.course_eq (p : Blocks) (bs : List BlockName) :
    p.course bs = ⟨bs.flatMap fun b => [.prints b.opening, .prints (p.get b), .prints b.closing], .ok ()⟩ := by
  induction bs with
  | nil => rfl
  | cons b bs ih =>
    rw [course, ih]
    rfl

theorem parseCourse_of_readCaptured_error {failure : Failure} (h : readCaptured w file = .error failure) :
    parseCourse w file block = ⟨[], .error failure⟩ := by
  rw [parseCourse, h, Course.ofExcept_error_bind]

theorem parseCourse_of_extract_error {t : Text} {fault : BlockFault} (h : readCaptured w file = .ok t)
    (he : extract t block = .error fault) : parseCourse w file block = ⟨[], .error (.block fault)⟩ := by
  rw [parseCourse, h, Course.ofExcept_ok_bind]
  cases block with
  | some b =>
    have hf : b.find t = .error fault := he
    simp only [hf, Except.mapError, Course.ofExcept_error_bind]
  | none =>
    have hf : Blocks.read t = .error fault := by
      cases hr : Blocks.read t with
      | error f => simpa [extract, hr, Except.map] using he
      | ok p => simp [extract, hr, Except.map] at he
    simp only [hf, Except.mapError, Course.ofExcept_error_bind]

theorem parseCourse_of_extract_ok {t shown : Text} (h : readCaptured w file = .ok t)
    (he : extract t block = .ok shown) : (parseCourse w file block).response = ⟨shown, .ok ()⟩ := by
  rw [parseCourse, h, Course.ofExcept_ok_bind]
  cases block with
  | some b =>
    have hf : b.find t = .ok shown := he
    simp [hf, Except.mapError, Course.print, Course.deed, Course.response, Deed.printed]
  | none =>
    cases hr : Blocks.read t with
    | error f => simp [extract, hr, Except.map] at he
    | ok p =>
      have hshown : p.render = shown := by simpa [extract, hr, Except.map] using he
      simp only [Except.mapError, Course.ofExcept_ok_bind, Blocks.course_eq, Course.response]
      rw [← hshown, Blocks.render, List.flatMap_assoc]
      congr 2
      funext b
      simp [Deed.printed]

theorem parseCourse_cases (w : World) (file : Text) (block : Option BlockName) :
    (∃ failure, (Command.parse file block).Refused w failure ∧ parseCourse w file block = ⟨[], .error failure⟩ ∧
      parseResponse w file block = .refuse failure) ∨
    ∃ shown, (parseCourse w file block).response = ⟨shown, .ok ()⟩ ∧ parseResponse w file block = ⟨shown, .ok ()⟩ := by
  rw [parseResponse]
  cases h : readCaptured w file with
  | error failure => exact .inl ⟨failure, .inl h, parseCourse_of_readCaptured_error h, rfl⟩
  | ok t =>
    cases he : extract t block with
    | error fault => exact .inl ⟨_, .inr ⟨t, fault, h, he, rfl⟩, parseCourse_of_extract_error h he, by simp [he]⟩
    | ok shown => exact .inr ⟨shown, parseCourse_of_extract_ok h he, by simp [he]⟩

end Parse

/-! ## Commands -/

namespace Command
variable {w : World} {color : Bool} {ends : Scenario → Attempt} {c : Command} {failure : Failure}

theorem Refused.course_eq (h : c.Refused w failure) : c.course w color ends = ⟨[], .error failure⟩ := by
  cases c with
  | run r =>
    rcases h with hs | ⟨settings, hs, hl⟩
    · exact RunRequest.course_of_settings_error hs
    · exact RunRequest.course_of_load_error hs hl
  | parse file block =>
    rcases h with hr | ⟨t, fault, hr, he, rfl⟩
    · exact parseCourse_of_readCaptured_error hr
    · exact parseCourse_of_extract_error hr he

theorem refused_of_answer (h : (c.course w color ends).answer = .error failure) (hf : ¬ failure.IsVerdict) :
    c.Refused w failure := by
  cases c with
  | run r =>
    -- A run that has been carried out fails with nothing but its verdict.
    rw [course] at h
    rcases r.course_cases w color ends with ⟨failure', hrefused, hcourse⟩ | ⟨settings, loaded, result, -, -, -, hdone⟩
    · rw [hcourse] at h
      exact Except.error.inj h ▸ hrefused
    · rw [hdone.answer_eq] at h
      exact absurd (RunRequest.answer_isVerdict h) hf
  | parse file block =>
    rw [course] at h
    rcases parseCourse_cases w file block with ⟨failure', hrefused, hcourse, -⟩ | ⟨shown, hcourse, -⟩
    · rw [hcourse] at h
      exact Except.error.inj h ▸ hrefused
    · have hanswer : (parseCourse w file block).answer = .ok () := congrArg Response.answer hcourse
      rw [hanswer] at h
      cases h

theorem Refused.not_isVerdict (h : c.Refused w failure) : ¬ failure.IsVerdict := by
  cases c with
  | run r =>
    rcases h with hs | ⟨settings, -, hl⟩
    · exact Settings.not_isVerdict_of_load hs
    · exact RunRequest.not_isVerdict_of_load hl
  | parse file block =>
    rcases h with hr | ⟨t, fault, -, -, rfl⟩
    · exact not_isVerdict_of_readCaptured hr
    · rintro ⟨name, stage, hv⟩
      cases hv

theorem carriedOut_of_answer {r : RunRequest}
    (h : ∀ failure, (r.course w color ends).answer = .error failure → failure.IsVerdict) :
    ∃ settings loaded result, Settings.load w = .ok settings ∧ r.load w = .ok loaded ∧
      (ends (r.effective settings loaded)).result (r.effective settings loaded) = .ok result ∧
      r.CarriedOut settings (color && settings.report.color) (r.effective settings loaded) result
        (r.course w color ends) := by
  rcases r.course_cases w color ends with ⟨failure, hrefused, hcourse⟩ | hdone
  · exact absurd (h failure (by rw [hcourse])) hrefused.not_isVerdict
  · exact hdone

/-- Followed with what the executable does in a world, a course comes to the response of that world. -/
theorem response_course (c : Command) (w : World) (color : Bool) :
    (c.course w color w.ends).response = (c.dispatch w color).1 := by
  cases c with
  | run r =>
    cases hs : Settings.load w with
    | error failure =>
      rw [course, RunRequest.course_of_settings_error hs]
      simp only [dispatch, hs]
      rfl
    | ok settings =>
      cases hl : r.load w with
      | error failure =>
        rw [course, RunRequest.course_of_load_error hs hl]
        simp only [dispatch, hs, hl]
        rfl
      | ok loaded =>
        obtain ⟨result, hr, -⟩ :=
          Attempt.exists_result_fits (r.effective settings loaded) (w.attempt (r.effective settings loaded)).1
        rw [course, RunRequest.course_of_loaded hs hl hr, RunRequest.response_deeds _ hr,
          RunRequest.dispatch_run hs hl]
  | parse file block =>
    rw [course, dispatch]
    rcases parseCourse_cases w file block with ⟨failure, -, hcourse, hresponse⟩ | ⟨shown, hcourse, hresponse⟩
    · rw [hcourse, hresponse]
      rfl
    · rw [hcourse, hresponse]

theorem Refused.world_dispatch (h : c.Refused w failure) (color : Bool) : (c.dispatch w color).2.1 = w := by
  cases c with
  | run r =>
    rcases h with hs | ⟨settings, hs, hl⟩
    · simp only [dispatch, hs]
    · simp only [dispatch, hs, hl]
  | parse file block => rfl

/-- **A command that fails has done nothing, but for a run with a verdict.** Whatever may become of an executable, a
command that ends in another failure has printed nothing and not turned to an executable, and it has been refused for
the first thing that it could not read or find. A run that ends in success or in a verdict has been carried out, with a
whole document or a whole report. The program does what the course of its command says. -/
theorem course_whole (c : Command) (w : World) (color : Bool) (ends : Scenario → Attempt) :
    (∀ failure, (c.course w color ends).answer = .error failure → ¬ failure.IsVerdict →
      (c.course w color ends).deeds = [] ∧ c.Refused w failure) ∧
    (∀ failure, c.Refused w failure → c.course w color ends = ⟨[], .error failure⟩ ∧
      (c.dispatch w color).1 = .refuse failure ∧ (c.dispatch w color).2.1 = w) ∧
    (∀ r, c = .run r → (∀ failure, (c.course w color ends).answer = .error failure → failure.IsVerdict) →
      ∃ settings loaded result, Settings.load w = .ok settings ∧ r.load w = .ok loaded ∧
        (ends (r.effective settings loaded)).result (r.effective settings loaded) = .ok result ∧
        r.CarriedOut settings (color && settings.report.color) (r.effective settings loaded) result
          (c.course w color ends)) ∧
    (c.course w color w.ends).response = (c.dispatch w color).1 ∧
    ∀ arguments, Request.ofArguments? arguments = some (.command c) →
      runProgram w color arguments = ((c.course w color w.ends).response.exit, (c.dispatch w color).2.1) := by
  have hresponse := c.response_course w color
  refine ⟨fun failure h hf => ?_, fun failure h => ⟨h.course_eq, ?_, h.world_dispatch color⟩, ?_, hresponse, ?_⟩
  · have hrefused := refused_of_answer h hf
    exact ⟨by rw [hrefused.course_eq], hrefused⟩
  · rw [← hresponse, h.course_eq]
    rfl
  · rintro r rfl h
    exact carriedOut_of_answer h
  · intro arguments h
    rw [hresponse]
    simp only [runProgram, h]

/-- A run of a scenario from a file. -/
def absentRun : RunRequest := { scenario := some "absent" }

theorem course_whole_bare :
    let noSuchFile : Failure := .fileRead "absent" (.system .notFound)
    let noMarker : Failure := .block ⟨.missingBegin, .assembly⟩
    ((Command.run absentRun).Refused RunRequest.bare noSuchFile ∧
      (Command.run absentRun).course RunRequest.bare true RunRequest.bare.ends = ⟨[], .error noSuchFile⟩) ∧
    (Request.ofArguments? ["parse", "-"] = some (.command (.parse "-" none)) ∧
      runProgram RunRequest.bare true ["parse", "-"] = (⟨1, [], some noMarker⟩, RunRequest.bare)) ∧
    ∃ result : RunResult, ((Command.run RunRequest.plainRun).course RunRequest.bare true fun _ => RunRequest.unfound).deeds =
      [.attempts (RunRequest.plainRun.effective {} none), .prints (result.toJson.pretty ++ ['\n'])] ∧
        result.failedStage = some .launch := by
  intro noSuchFile noMarker
  have habsent : (Command.run absentRun).Refused RunRequest.bare noSuchFile := .inr ⟨{}, rfl, rfl⟩
  have hempty : (Command.parse "-" none).Refused RunRequest.bare noMarker := .inr ⟨[], _, rfl, rfl, rfl⟩
  have harguments : Request.ofArguments? ["parse", "-"] = some (.command (.parse "-" none)) := by decide
  refine ⟨⟨habsent, ?_⟩, ⟨harguments, ?_⟩, ?_⟩
  · exact ((course_whole _ _ _ _).2.1 _ habsent).1
  · obtain ⟨-, hrefused, -, -, hprogram⟩ :=
      course_whole (.parse "-" none) RunRequest.bare true RunRequest.bare.ends
    obtain ⟨hcourse, -, hworld⟩ := hrefused _ hempty
    rw [hprogram _ harguments, hcourse, hworld]
    rfl
  · obtain ⟨-, -, hdone, -⟩ :=
      course_whole (.run RunRequest.plainRun) RunRequest.bare true fun _ => RunRequest.unfound
    obtain ⟨settings, loaded, result, hs, hl, hr, hcarried⟩ := hdone _ rfl (by
      intro failure h
      cases h
      exact ⟨_, _, rfl⟩)
    obtain rfl : ({} : Settings) = settings := Except.ok.inj hs
    obtain rfl : none = loaded := Except.ok.inj hl
    obtain rfl := Except.ok.inj hr
    exact ⟨_, (hcarried.document rfl).1, rfl⟩

end Command
end BlockHarness
