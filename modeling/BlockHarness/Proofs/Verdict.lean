import BlockHarness.Proofs.Execution

/-! The verdict of a run is the first stage that fails. What only later stages look at has no part in it, and a
process that closes its input early is judged like one that reads all of it. -/
namespace BlockHarness
set_option autoImplicit false

namespace Attempt

/-! ## Failing stages -/

/-- What makes a stage fail, read off what an attempt left behind. -/
def Fails (scenario : Scenario) (a : Attempt) : Stage → Prop
  | .launch => a.FailsLaunch
  | .stderrCheck => a.stderr ≠ []
  | .parse => ∃ b : BlockName, ∃ f, b.find (Utf8.decodeLossy a.stdout) = .error f
  | .comparison => ∃ field : ComparedField, ∃ content,
      field.block.find (Utf8.decodeLossy a.stdout) = .ok content ∧ content ≠ field.expected scenario

/-- A stage fails, and none in front of it does. -/
def FailsFirst (scenario : Scenario) (a : Attempt) (stage : Stage) : Prop :=
  a.Fails scenario stage ∧ ∀ earlier ∈ Stage.all.takeWhile (· ≠ stage), ¬ a.Fails scenario earlier

/-- An attempt as far as the verdict of a stage looks at it: a launch is judged without any output, and the error
stream without the other one. -/
def upTo (stage : Stage) : Attempt → Attempt
  | .launched program (.ended e) =>
    .launched program (.ended { e with
      stdout := if stage = .launch ∨ stage = .stderrCheck then [] else e.stdout
      stderr := if stage = .launch then [] else e.stderr })
  | a => a

variable {a a' : Attempt} {scenario scenario' : Scenario}

theorem FailsFirst.unique {stage stage' : Stage} (h : a.FailsFirst scenario stage)
    (h' : a.FailsFirst scenario stage') : stage = stage' := by
  obtain ⟨hf, hn⟩ := h
  obtain ⟨hf', hn'⟩ := h'
  cases stage <;> cases stage' <;> simp_all [Stage.all]

theorem FailsFirst.verdict {stage : Stage} (h : a.FailsFirst scenario stage) {r : RunResult}
    (hs : r.failedStage = some stage) (hp : r.passed = false) :
    (∀ stage', r.failedStage = some stage' ↔ a.FailsFirst scenario stage') ∧
      (r.passed = true ↔ ∀ stage', ¬ a.Fails scenario stage') := by
  refine ⟨fun stage' => ⟨fun h' => ?_, fun h' => ?_⟩, iff_of_false (by simp [hp]) fun hn => hn stage h.1⟩
  · obtain rfl : stage = stage' := by simpa [hs] using h'
    exact h
  · rw [hs, h.unique h']

/-! ## Results, stage by stage -/

theorem capture_congr (h : scenario'.executable = scenario.executable) (a : Attempt) :
    a.capture scenario' = a.capture scenario := by
  cases a with
  | unresolved reason => simp [capture, h]
  | launched program outcome => rfl

theorem result_of_failure {failure : Failure} {stage : Stage} (h : a.execute scenario = .error failure)
    (hs : failure.stage? = some stage) : a.result scenario = .ok (.aborted scenario.name stage failure) := by
  simp only [result, h, hs]

theorem result_of_failsLaunch {program : Text} {reason : LaunchReason}
    (h : a.capture scenario = .error (.launch program reason)) :
    a.result scenario = .ok (.aborted scenario.name .launch (.launch program reason)) :=
  result_of_failure (execute_of_capture_error h) rfl

theorem result_of_stderr (hl : ¬ a.FailsLaunch) (he : a.stderr ≠ []) :
    a.result scenario =
      .ok (.aborted scenario.name .stderrCheck (.stderrOutput (Utf8.decodeLossy a.stderr))) :=
  result_of_failure (execute_of_stderr hl he) rfl

section
variable (hl : ¬ a.FailsLaunch) (he : a.stderr = [])
include hl he

theorem result_of_read_error {f : BlockFault} (hr : Blocks.read (Utf8.decodeLossy a.stdout) = .error f) :
    a.result scenario = .ok (.aborted scenario.name .parse (.block f)) :=
  result_of_failure (execute_of_read_error hl he hr) rfl

theorem result_of_read_ok {p : Blocks} (hr : Blocks.read (Utf8.decodeLossy a.stdout) = .ok p) :
    a.result scenario = .ok (.compared scenario.name p (compare p scenario)) := by
  simp only [result, execute_of_read_ok hl he hr]

end

theorem fails_comparison_iff {p : Blocks} (hr : Blocks.read (Utf8.decodeLossy a.stdout) = .ok p) :
    a.Fails scenario .comparison ↔ compare p scenario ≠ [] := by
  have hfind := (Blocks.read_eq_ok_iff _ p).mp hr
  rw [Ne, compare_eq_nil_iff, Classical.not_forall]
  constructor
  · rintro ⟨field, content, hc, hne⟩
    rw [hfind field.block] at hc
    exact ⟨field, Except.ok.inj hc ▸ hne⟩
  · rintro ⟨field, hne⟩
    exact ⟨field, p.get field.block, hfind field.block, hne⟩

/-- A run has a result, which names the first failing stage and passes only where there is none. -/
theorem exists_verdict (a : Attempt) (scenario : Scenario) :
    ∃ r, a.result scenario = .ok r ∧ (∀ stage, r.failedStage = some stage ↔ a.FailsFirst scenario stage) ∧
      (r.passed = true ↔ ∀ stage, ¬ a.Fails scenario stage) := by
  rcases stage_cases a scenario with ⟨program, reason, hl, hc⟩ | ⟨hl, he⟩ | ⟨f, hl, he, hr⟩ | ⟨p, hl, he, hr⟩
  · have hfirst : a.FailsFirst scenario .launch := ⟨hl, by simp [Stage.all]⟩
    exact ⟨_, result_of_failsLaunch hc, hfirst.verdict rfl rfl⟩
  · have hfirst : a.FailsFirst scenario .stderrCheck := ⟨he, by simp [Stage.all, Fails, hl]⟩
    exact ⟨_, result_of_stderr hl he, hfirst.verdict rfl rfl⟩
  · have hfirst : a.FailsFirst scenario .parse :=
      ⟨(Blocks.exists_read_eq_error_iff _).mp ⟨f, hr⟩, by simp [Stage.all, Fails, hl, he]⟩
    exact ⟨_, result_of_read_error hl he hr, hfirst.verdict rfl rfl⟩
  · have hparse : ¬ a.Fails scenario .parse := by
      intro hp
      obtain ⟨f, hf⟩ := (Blocks.exists_read_eq_error_iff _).mpr hp
      rw [hr] at hf
      cases hf
    refine ⟨_, result_of_read_ok hl he hr, ?_⟩
    cases hm : compare p scenario with
    | nil =>
      have hnone : ∀ stage, ¬ a.Fails scenario stage := by
        intro stage
        cases stage with
        | launch => exact hl
        | stderrCheck => exact not_not_intro he
        | parse => exact hparse
        | comparison => exact fun hc => (fails_comparison_iff hr).mp hc hm
      exact ⟨fun stage => iff_of_false nofun fun h => hnone stage h.1, iff_of_true rfl hnone⟩
    | cons m ms =>
      have hfirst : a.FailsFirst scenario .comparison :=
        ⟨(fails_comparison_iff hr).mpr (by simp [hm]), by simp [Stage.all]; exact ⟨hl, not_not_intro he, hparse⟩⟩
      exact hfirst.verdict rfl rfl

/-! ## What has no part in a verdict -/

theorem failsLaunch_upTo (stage : Stage) (a : Attempt) : (a.upTo stage).FailsLaunch ↔ a.FailsLaunch := by
  cases a with
  | unresolved reason => rfl
  | launched program outcome => cases outcome <;> rfl

theorem stderr_upTo {stage : Stage} (h : stage ≠ .launch) (a : Attempt) : (a.upTo stage).stderr = a.stderr := by
  cases a with
  | unresolved reason => rfl
  | launched program outcome => cases outcome <;> simp [upTo, stderr, h]

theorem upTo_parse (a : Attempt) : a.upTo .parse = a := by
  cases a with
  | unresolved reason => rfl
  | launched program outcome => cases outcome <;> rfl

/-- A failing launch does not look at the output. -/
theorem capture_upTo (hl : a.FailsLaunch) (scenario : Scenario) :
    (a.upTo .stderrCheck).capture scenario = a.capture scenario := by
  cases a with
  | unresolved reason => rfl
  | launched program outcome =>
    cases outcome with
    | notStarted reason => rfl
    | waitFailed text => rfl
    | ended e =>
      obtain ⟨feeding, status, out, err⟩ := e
      cases feeding with
      | failed text | stopped text => rfl
      | _ =>
        have hs : status.success = false := by simpa [FailsLaunch, Status.success] using hl
        simp [upTo, capture, Outcome.capture, hs]

theorem upTo_stderrCheck_eq (hup : a'.upTo .launch = a.upTo .launch) (he : a'.stderr = a.stderr) :
    a'.upTo .stderrCheck = a.upTo .stderrCheck := by
  cases a with
  | unresolved reason =>
    cases a' with
    | unresolved reason' => exact hup
    | launched program' outcome' => cases outcome' <;> cases hup
  | launched program outcome =>
    cases a' with
    | unresolved reason' => cases outcome <;> cases hup
    | launched program' outcome' => cases outcome <;> cases outcome' <;> simp_all [upTo, stderr]

/-- Only what the stages up to the first failing one look at shows in a result; of a failing launch, the error stream
shows in the message. -/
theorem result_upTo {r : RunResult} {stage : Stage} (h : a.result scenario = .ok r)
    (hs : r.failedStage = some stage) (hc : stage ≠ .comparison) (hn : scenario'.name = scenario.name)
    (hx : scenario'.executable = scenario.executable) (hup : a'.upTo stage = a.upTo stage) :
    ∃ r', a'.result scenario' = .ok r' ∧ r' = { r with error := r'.error } ∧ (a'.stderr = a.stderr → r' = r) := by
  have hlaunch : a'.FailsLaunch ↔ a.FailsLaunch := by
    rw [← failsLaunch_upTo stage a', hup, failsLaunch_upTo]
  rcases stage_cases a scenario with ⟨program, reason, hl, hcap⟩ | ⟨hl, he⟩ | ⟨f, hl, he, hr⟩ | ⟨p, hl, he, hr⟩
  · rw [result_of_failsLaunch hcap] at h
    cases h
    cases hs
    obtain ⟨program', reason', hcap'⟩ := exists_capture_eq_error (hlaunch.mpr hl) scenario'
    refine ⟨_, result_of_failsLaunch hcap', by simp [RunResult.aborted, hn], fun herr => ?_⟩
    have heq : a'.capture scenario' = a.capture scenario := by
      rw [← capture_upTo (hlaunch.mpr hl), upTo_stderrCheck_eq hup herr, capture_upTo hl, capture_congr hx]
    rw [hcap', hcap] at heq
    rw [hn, Except.error.inj heq]
  · rw [result_of_stderr hl he] at h
    cases h
    cases hs
    have hne : Stage.stderrCheck ≠ .launch := nofun
    have herr : a'.stderr = a.stderr := by rw [← stderr_upTo hne a', hup, stderr_upTo hne]
    refine ⟨_, result_of_stderr (mt hlaunch.mp hl) (herr ▸ he), ?_⟩
    simp [RunResult.aborted, hn, herr]
  · rw [result_of_read_error hl he hr] at h
    cases h
    cases hs
    obtain rfl : a' = a := by rw [← upTo_parse a', hup, upTo_parse]
    refine ⟨_, result_of_read_error hl he hr, ?_⟩
    simp [RunResult.aborted, hn]
  · rw [result_of_read_ok hl he hr] at h
    cases h
    cases hm : compare p scenario with
    | nil => simp [hm, RunResult.compared] at hs
    | cons m ms => exact absurd (Option.some.inj (by simpa [hm, RunResult.compared] using hs)).symm hc

theorem result_of_brokenPipe (program : Text) (e : Ended) (scenario : Scenario) :
    (launched program (.ended { e with feeding := .brokenPipe })).result scenario =
      (launched program (.ended { e with feeding := .complete })).result scenario := rfl

/-! ## The verdict -/

/-- **The verdict of a run.** Every attempt has a result. The stage it names is the first one that fails, and it
passes exactly if none does. Where a stage in front of the comparison fails first, the result is the same for every
scenario of that name and executable and every attempt that agrees up to that stage, but for the message of a launch
failure, which shows the error stream. A broken pipe is no failure. -/
theorem result_verdict (scenario : Scenario) (a : Attempt) :
    ∃ r, a.result scenario = .ok r ∧
      (∀ stage, r.failedStage = some stage ↔ a.FailsFirst scenario stage) ∧
      (r.passed = true ↔ ∀ stage, ¬ a.Fails scenario stage) ∧
      (∀ stage, a.FailsFirst scenario stage → stage ≠ .comparison → ∀ (scenario' : Scenario) (a' : Attempt),
        scenario'.name = scenario.name → scenario'.executable = scenario.executable → a'.upTo stage = a.upTo stage →
        ∃ r', a'.result scenario' = .ok r' ∧ r' = { r with error := r'.error } ∧
          (a'.stderr = a.stderr → r' = r)) ∧
      (∀ program e, a = .launched program (.ended e) → e.feeding = .brokenPipe →
        (launched program (.ended { e with feeding := .complete })).result scenario = .ok r) := by
  obtain ⟨r, hr, hstage, hpassed⟩ := exists_verdict a scenario
  refine ⟨r, hr, hstage, hpassed, ?_, ?_⟩
  · intro stage hfirst hc scenario' a' hn hx hup
    exact result_upTo hr ((hstage stage).mpr hfirst) hc hn hx hup
  · rintro program e rfl hf
    obtain ⟨feeding, status, out, err⟩ := e
    subst hf
    exact (result_of_brokenPipe program ⟨.brokenPipe, status, out, err⟩ scenario).symm.trans hr

/-- A process that closed its input early, wrote to the error stream, put out no block and succeeded. -/
def noisy : Attempt := .launched "demo" (.ended ⟨.brokenPipe, .exited 0, [0xFF], [0x21]⟩)

theorem result_verdict_noisy :
    noisy.FailsFirst .reference .stderrCheck ∧
      ∃ r, noisy.result .reference = .ok r ∧ r.failedStage = some .stderrCheck ∧ ¬ r.passed = true ∧
        (launched "demo" (.ended ⟨.brokenPipe, .exited 0, [], [0x21]⟩)).result .reference = .ok r ∧
        (launched "demo" (.ended ⟨.complete, .exited 0, [0xFF], [0x21]⟩)).result .reference = .ok r := by
  have hfirst : noisy.FailsFirst .reference .stderrCheck := by
    simp [FailsFirst, Fails, FailsLaunch, Stage.all, noisy, stderr]
  obtain ⟨r, hr, hstage, hpassed, hsame, hpipe⟩ := result_verdict .reference noisy
  refine ⟨hfirst, r, hr, (hstage _).mpr hfirst, fun hp => hpassed.mp hp _ hfirst.1, ?_, hpipe _ _ rfl rfl⟩
  obtain ⟨r', hr', -, heq⟩ := hsame .stderrCheck hfirst (by decide) .reference
    (launched "demo" (.ended ⟨.brokenPipe, .exited 0, [], [0x21]⟩)) rfl rfl rfl
  rw [hr', heq rfl]

end Attempt
end BlockHarness
