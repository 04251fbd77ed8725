import Mathlib.Logic.ExistsUnique
import BlockHarness.Proofs.Verdict

/-! What the record of a run looks like. Every run has a record, and it is of one of three kinds: the blocks held what
was expected, or some of them did not, or a failure ended the run before they could be compared. The fields of a
record go together as its kind says. -/
namespace BlockHarness
set_option autoImplicit false

/-! ## Mismatches -/

theorem fields_compare (p : Blocks) (scenario : Scenario) :
    (compare p scenario).map Mismatch.field =
      ComparedField.all.filter fun field => p.get field.block ≠ field.expected scenario := by
  rw [compare, List.map_filterMap, ← List.filterMap_eq_filter]
  congr 1
  funext field
  by_cases h : p.get field.block = field.expected scenario <;> simp [h, Option.guard]

theorem mem_compare_iff (p : Blocks) (scenario : Scenario) (m : Mismatch) :
    m ∈ compare p scenario ↔
      m.actual = p.get m.field.block ∧ m.expected = m.field.expected scenario ∧ m.actual ≠ m.expected := by
  obtain ⟨field, actual, expected⟩ := m
  simp only [compare, List.mem_filterMap]
  constructor
  · rintro ⟨field', -, h⟩
    split at h
    · cases h
    next hne =>
      cases h
      exact ⟨rfl, rfl, hne⟩
  · rintro ⟨rfl, rfl, hne⟩
    exact ⟨field, field.mem_all, if_neg hne⟩

/-! ## Kinds of records -/

namespace RunResult

/-- The compared blocks held what was expected. -/
structure IsPass (r : RunResult) : Prop where
  passed : r.passed = true
  failedStage : r.failedStage = none
  mismatches : r.mismatches = []
  error : r.error = none
  blocks : r.blocks = none

/-- Some compared blocks did not hold what was expected: these and no others are listed, in order and once each. -/
structure IsComparison (scenario : Scenario) (blocks : Blocks) (r : RunResult) : Prop where
  passed : r.passed = false
  failedStage : r.failedStage = some .comparison
  mismatches_ne : r.mismatches ≠ []
  fields_sublist : (r.mismatches.map Mismatch.field).Sublist ComparedField.all
  mem_mismatches_iff : ∀ m, m ∈ r.mismatches ↔
    m.actual = blocks.get m.field.block ∧ m.expected = m.field.expected scenario ∧ m.actual ≠ m.expected
  error : r.error = none
  blocks : r.blocks = some blocks

/-- A failure of one of the first three stages ended the run. -/
structure IsAbort (failure : Failure) (r : RunResult) : Prop where
  passed : r.passed = false
  failedStage : r.failedStage = failure.stage?
  stage_early : r.failedStage = some .launch ∨ r.failedStage = some .stderrCheck ∨ r.failedStage = some .parse
  mismatches : r.mismatches = []
  error : r.error = some failure.message
  blocks : r.blocks = none

inductive Shape where
  | passed
  | compared
  | aborted
  deriving DecidableEq, Repr

/-- The kind of a record, told by the stage that it names. -/
def Shape.ofStage : Option Stage → Shape
  | none => .passed
  | some .comparison => .compared
  | some _ => .aborted

/-- A record is of a kind, and the stages came to what it says. -/
def Fits (scenario : Scenario) (a : Attempt) (r : RunResult) : Shape → Prop
  | .passed => r.IsPass ∧ ∃ blocks, a.execute scenario = .ok (blocks, [])
  | .compared => ∃ blocks, r.IsComparison scenario blocks ∧ a.execute scenario = .ok (blocks, r.mismatches)
  | .aborted => ∃ failure, r.IsAbort failure ∧ a.execute scenario = .error failure

variable {scenario : Scenario} {a : Attempt} {r : RunResult}

theorem Fits.eq_ofStage {shape : Shape} (h : r.Fits scenario a shape) : shape = .ofStage r.failedStage := by
  cases shape with
  | passed =>
    obtain ⟨hr, -⟩ := h
    rw [hr.failedStage]
    rfl
  | compared =>
    obtain ⟨blocks, hr, -⟩ := h
    rw [hr.failedStage]
    rfl
  | aborted =>
    obtain ⟨failure, hr, -⟩ := h
    rcases hr.stage_early with hs | hs | hs <;> rw [hs] <;> rfl

/-- A record names a stage exactly if the run has not passed. -/
theorem Fits.passed_eq {shape : Shape} (h : r.Fits scenario a shape) : r.passed = r.failedStage.isNone := by
  cases shape with
  | passed =>
    obtain ⟨hr, -⟩ := h
    rw [hr.passed, hr.failedStage]
    rfl
  | compared =>
    obtain ⟨blocks, hr, -⟩ := h
    rw [hr.passed, hr.failedStage]
    rfl
  | aborted =>
    obtain ⟨failure, hr, -⟩ := h
    rcases hr.stage_early with hs | hs | hs <;> rw [hr.passed, hs] <;> rfl

theorem isAbort_aborted {failure : Failure} {stage : Stage} (h : failure.stage? = some stage)
    (hs : stage ≠ .comparison) (name : Text) : (aborted name stage failure).IsAbort failure where
  passed := rfl
  failedStage := h.symm
  stage_early := by
    cases stage with
    | launch => exact .inl rfl
    | stderrCheck => exact .inr (.inl rfl)
    | parse => exact .inr (.inr rfl)
    | comparison => exact absurd rfl hs
  mismatches := rfl
  error := rfl
  blocks := rfl

theorem isPass_compared (name : Text) (blocks : Blocks) : (compared name blocks []).IsPass :=
  ⟨rfl, rfl, rfl, rfl, rfl⟩

theorem isComparison_compared {blocks : Blocks} (h : compare blocks scenario ≠ []) (name : Text) :
    (compared name blocks (compare blocks scenario)).IsComparison scenario blocks := by
  have hempty : (compare blocks scenario).isEmpty = false := by simpa using h
  exact {
    passed := hempty
    failedStage := by simp only [compared, hempty]; rfl
    mismatches_ne := h
    fields_sublist := by
      simp only [compared, fields_compare]
      exact List.filter_sublist
    mem_mismatches_iff := mem_compare_iff blocks scenario
    error := rfl
    blocks := by simp only [compared, hempty]; rfl }

theorem compared_fits {blocks : Blocks} (h : a.execute scenario = .ok (blocks, compare blocks scenario)) (name : Text) :
    ∃ shape, (compared name blocks (compare blocks scenario)).Fits scenario a shape := by
  by_cases hm : compare blocks scenario = []
  · rw [hm] at h ⊢
    exact ⟨.passed, isPass_compared name blocks, blocks, h⟩
  · exact ⟨.compared, blocks, isComparison_compared hm name, h⟩

theorem aborted_fits {failure : Failure} {stage : Stage} (h : a.execute scenario = .error failure)
    (hs : failure.stage? = some stage) (hc : stage ≠ .comparison) (name : Text) :
    (aborted name stage failure).Fits scenario a .aborted := ⟨failure, isAbort_aborted hs hc name, h⟩

end RunResult

namespace Attempt
open RunResult

theorem exists_result_fits (scenario : Scenario) (a : Attempt) :
    ∃ r, a.result scenario = .ok r ∧ r.name = scenario.name ∧ ∃ shape, r.Fits scenario a shape := by
  rcases stage_cases a scenario with ⟨program, reason, hl, hc⟩ | ⟨hl, he⟩ | ⟨f, hl, he, hr⟩ | ⟨p, hl, he, hr⟩
  · exact ⟨_, result_of_failsLaunch hc, rfl, _, aborted_fits (execute_of_capture_error hc) rfl nofun _⟩
  · exact ⟨_, result_of_stderr hl he, rfl, _, aborted_fits (execute_of_stderr hl he) rfl nofun _⟩
  · exact ⟨_, result_of_read_error hl he hr, rfl, _, aborted_fits (execute_of_read_error hl he hr) rfl nofun _⟩
  · exact ⟨_, result_of_read_ok hl he hr, rfl, compared_fits (execute_of_read_ok hl he hr) _⟩

/-- **Every run has a record, of exactly one kind.** No failure that belongs to no stage comes out of a run, whatever
became of it, and the record carries the name of the scenario. -/
theorem result_shape (scenario : Scenario) (a : Attempt) :
    ∃ r, a.result scenario = .ok r ∧ r.name = scenario.name ∧ ∃! shape, r.Fits scenario a shape := by
  obtain ⟨r, hr, hn, shape, hs⟩ := exists_result_fits scenario a
  exact ⟨r, hr, hn, shape, hs, fun shape' hs' => hs'.eq_ofStage.trans hs.eq_ofStage.symm⟩

end Attempt
end BlockHarness
