import BlockHarness.Proofs.Extraction
import BlockHarness.Proofs.Utf8
import BlockHarness.Run.Result

/-! How an attempt goes through the stages, said once: what it comes to is a function of whether the launch fails, of
the octets that were captured, and of what is extracted from them. -/
namespace BlockHarness
set_option autoImplicit false

/-! ## What an attempt leaves behind -/

namespace Attempt

/-- The octets on the output stream; nothing if no process ended. -/
def stdout : Attempt → Octets
  | .launched _ (.ended e) => e.stdout
  | _ => []

/-- The octets on the error stream; nothing if no process ended. -/
def stderr : Attempt → Octets
  | .launched _ (.ended e) => e.stderr
  | _ => []

/-- No process ended, or its input could not be written for a reason other than a broken pipe, or it ended without
success. -/
def FailsLaunch : Attempt → Prop
  | .launched _ (.ended e) => (e.feeding ≠ .complete ∧ e.feeding ≠ .brokenPipe) ∨ e.status ≠ .exited 0
  | _ => True

theorem not_failsLaunch_iff (a : Attempt) :
    ¬ a.FailsLaunch ↔ ∃ program feeding out err,
      a = .launched program (.ended ⟨feeding, .exited 0, out, err⟩) ∧ (feeding = .complete ∨ feeding = .brokenPipe) := by
  constructor
  · intro h
    cases a with
    | unresolved reason => exact absurd trivial h
    | launched program outcome =>
      cases outcome with
      | notStarted reason => exact absurd trivial h
      | waitFailed text => exact absurd trivial h
      | ended e =>
        obtain ⟨feeding, status, out, err⟩ := e
        obtain ⟨hf, hs⟩ := not_or.mp h
        obtain rfl : status = .exited 0 := Decidable.not_not.mp hs
        refine ⟨program, feeding, out, err, rfl, ?_⟩
        cases feeding with
        | complete => exact .inl rfl
        | brokenPipe => exact .inr rfl
        | failed text | stopped text => exact absurd ⟨nofun, nofun⟩ hf
  · rintro ⟨program, feeding, out, err, rfl, rfl | rfl⟩ <;> simp [FailsLaunch]

variable {a : Attempt} {scenario : Scenario}

theorem exists_capture_eq_error (h : a.FailsLaunch) (scenario : Scenario) :
    ∃ program reason, a.capture scenario = .error (.launch program reason) := by
  cases a with
  | unresolved reason => exact ⟨_, _, rfl⟩
  | launched program outcome =>
    cases outcome with
    | notStarted reason => exact ⟨_, _, rfl⟩
    | waitFailed text => exact ⟨_, _, rfl⟩
    | ended e =>
      obtain ⟨feeding, status, out, err⟩ := e
      cases feeding with
      | failed text | stopped text => exact ⟨_, _, rfl⟩
      | _ =>
        have hs : status.success = false := by simpa [FailsLaunch, Status.success] using h
        exact ⟨_, _, by simp only [capture, Outcome.capture, hs]; rfl⟩

theorem capture_eq_ok (h : ¬ a.FailsLaunch) (scenario : Scenario) :
    a.capture scenario = .ok ⟨Utf8.decodeLossy a.stdout, Utf8.decodeLossy a.stderr, some 0⟩ := by
  obtain ⟨program, feeding, out, err, rfl, rfl | rfl⟩ := (not_failsLaunch_iff a).mp h <;> rfl

end Attempt

theorem Captured.checkStderr_eq_ok_iff (c : Captured) : c.checkStderr = .ok () ↔ c.stderr = [] := by
  rw [checkStderr]
  split <;> simp_all

theorem Captured.checkStderr_eq_error {c : Captured} (h : c.stderr ≠ []) :
    c.checkStderr = .error (.stderrOutput c.stderr) := if_neg h

theorem ComparedField.mem_all (field : ComparedField) : field ∈ all := by cases field <;> decide

theorem compare_eq_nil_iff (p : Blocks) (scenario : Scenario) :
    compare p scenario = [] ↔ ∀ field : ComparedField, p.get field.block = field.expected scenario := by
  constructor
  · intro h field
    have hall : ∀ field ∈ ComparedField.all, p.get field.block = field.expected scenario := by
      simpa [compare, List.filterMap_eq_nil_iff] using h
    exact hall field field.mem_all
  · intro h
    simp [compare, h]

/-! ## The stages one after another -/

namespace Attempt
variable {a : Attempt} {scenario : Scenario}

theorem execute_of_capture_error {failure : Failure} (h : a.capture scenario = .error failure) :
    a.execute scenario = .error failure := by
  simp only [execute, h]
  rfl

theorem execute_of_capture_ok {captured : Captured} (h : a.capture scenario = .ok captured) :
    a.execute scenario = (do
      captured.checkStderr
      let blocks ← (Blocks.read captured.stdout).mapError .block
      return (blocks, compare blocks scenario)) := by
  simp only [execute, h]
  rfl

theorem execute_of_stderr (hl : ¬ a.FailsLaunch) (he : a.stderr ≠ []) :
    a.execute scenario = .error (.stderrOutput (Utf8.decodeLossy a.stderr)) := by
  have hd : Utf8.decodeLossy a.stderr ≠ [] := fun h => he ((Utf8.decodeLossy_eq_nil_iff _).mp h)
  rw [execute_of_capture_ok (capture_eq_ok hl scenario), Captured.checkStderr_eq_error hd]
  rfl

section
variable (hl : ¬ a.FailsLaunch) (he : a.stderr = [])
include hl he

theorem execute_of_no_stderr :
    a.execute scenario = (do
      let blocks ← (Blocks.read (Utf8.decodeLossy a.stdout)).mapError .block
      return (blocks, compare blocks scenario)) := by
  have hd : Utf8.decodeLossy a.stderr = [] := (Utf8.decodeLossy_eq_nil_iff _).mpr he
  rw [execute_of_capture_ok (capture_eq_ok hl scenario), (Captured.checkStderr_eq_ok_iff _).mpr hd]
  rfl

theorem execute_of_read_error {f : BlockFault} (hr : Blocks.read (Utf8.decodeLossy a.stdout) = .error f) :
    a.execute scenario = .error (.block f) := by
  rw [execute_of_no_stderr hl he, hr]
  rfl

theorem execute_of_read_ok {p : Blocks} (hr : Blocks.read (Utf8.decodeLossy a.stdout) = .ok p) :
    a.execute scenario = .ok (p, compare p scenario) := by
  rw [execute_of_no_stderr hl he, hr]
  rfl

end

/-- All that going through the stages can come to: one way for each stage that ends it, and one to the comparison. -/
theorem stage_cases (a : Attempt) (scenario : Scenario) :
    (∃ program reason, a.FailsLaunch ∧ a.capture scenario = .error (.launch program reason)) ∨
    (¬ a.FailsLaunch ∧ a.stderr ≠ []) ∨
    (∃ f, ¬ a.FailsLaunch ∧ a.stderr = [] ∧ Blocks.read (Utf8.decodeLossy a.stdout) = .error f) ∨
    (∃ p, ¬ a.FailsLaunch ∧ a.stderr = [] ∧ Blocks.read (Utf8.decodeLossy a.stdout) = .ok p) := by
  by_cases hl : a.FailsLaunch
  · obtain ⟨program, reason, hc⟩ := exists_capture_eq_error hl scenario
    exact .inl ⟨program, reason, hl, hc⟩
  · by_cases he : a.stderr = []
    · cases hr : Blocks.read (Utf8.decodeLossy a.stdout) with
      | error f => exact .inr (.inr (.inl ⟨f, hl, he, rfl⟩))
      | ok p => exact .inr (.inr (.inr ⟨p, hl, he, rfl⟩))
    · exact .inr (.inl ⟨hl, he⟩)

theorem execute_eq_ok_iff {p : Blocks} {mismatches : List Mismatch} :
    a.execute scenario = .ok (p, mismatches) ↔
      ¬ a.FailsLaunch ∧ a.stderr = [] ∧ Blocks.read (Utf8.decodeLossy a.stdout) = .ok p ∧
        mismatches = compare p scenario := by
  constructor
  · intro h
    rcases stage_cases a scenario with ⟨program, reason, -, hc⟩ | ⟨hl, he⟩ | ⟨f, hl, he, hr⟩ | ⟨p', hl, he, hr⟩
    · rw [execute_of_capture_error hc] at h
      cases h
    · rw [execute_of_stderr hl he] at h
      cases h
    · rw [execute_of_read_error hl he hr] at h
      cases h
    · rw [execute_of_read_ok hl he hr] at h
      cases h
      exact ⟨hl, he, hr, rfl⟩
  · rintro ⟨hl, he, hr, rfl⟩
    exact execute_of_read_ok hl he hr

end Attempt
end BlockHarness
