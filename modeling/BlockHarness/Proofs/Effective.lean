import BlockHarness.Proofs.Loading
import BlockHarness.Proofs.Refusal

/-! The scenario that a run comes to. What the request gives wins over the scenario file, and the file over the defaults
of the settings; what is derived of these is derived of what has won: the executable is looked for from the directory of
the file unless the request names it, and the read buffer is compared with the input that is given to the executable. -/
namespace BlockHarness
set_option autoImplicit false

/-! ## Where the fields come from -/

/-- The scenario that a deed turns to. -/
def Deed.attempt? : Deed → Option Scenario
  | .prints _ => none
  | .attempts scenario => some scenario

/-- The scenarios that are attempted in a course, in order. -/
def Course.attempted {α : Type} (x : Course α) : List Scenario := x.deeds.filterMap Deed.attempt?

namespace RunRequest

/-- The scenario in the file that a request names, as it stands there. -/
def file? (r : RunRequest) (w : World) : Option Scenario :=
  r.scenario.bind fun path => (w.readText path).toOption.bind fun t => (Scenario.ofYaml t).toOption

/-- A scenario has its fields from a request, a scenario file if there is one, and settings. -/
structure Determines (r : RunRequest) (settings : Settings) (file : Option Scenario) (s : Scenario) : Prop where
  executable : s.executable = (r.executable.or (file.map Scenario.executable)).getD settings.defaults.executable
  input : s.input = (r.input.or (file.map Scenario.input)).getD settings.defaults.input
  name : s.name = (file.getD .reference).name
  description : s.description = (file.getD .reference).description
  args : s.args = (file.getD .reference).args
  programOutput : s.expect.programOutput = (file.getD .reference).expect.programOutput
  readBuffer : s.expect.readBuffer = (file.getD .reference).expect.readBuffer
  baseDir : s.baseDir = if r.executable.isSome then none else r.scenario.bind Path.parent?
  baseDir_isSome : s.baseDir.isSome ↔ r.scenario.isSome ∧ r.executable = none
  mem_compare_iff : ∀ (p : Blocks) (m : Mismatch), m.field = .readBuffer →
    (m ∈ compare p s ↔
      m.actual = p.readBuffer ∧ m.expected = (file.getD .reference).expect.readBuffer.getD s.input ∧
        m.actual ≠ m.expected)

variable {r : RunRequest} {w : World} {settings : Settings} {loaded : Option Scenario}

theorem file?_of_ofYaml {path t : Text} {file : Scenario} (hs : r.scenario = some path) (ht : w.readText path = .ok t)
    (hfile : Scenario.ofYaml t = .ok file) : r.file? w = some file := by
  simp [file?, hs, ht, hfile, Except.toOption]

/-- What is loaded is what stands in the file, taken from the directory of the file. -/
theorem loaded_cases (hl : r.load w = .ok loaded) :
    (r.scenario = none ∧ r.file? w = none ∧ loaded = none) ∨
    ∃ path t file dir, r.scenario = some path ∧ w.readText path = .ok t ∧ Scenario.ofYaml t = .ok file ∧
      r.file? w = some file ∧ Path.parent? path = some dir ∧ loaded = some { file with baseDir := some dir } := by
  rw [load] at hl
  cases hs : r.scenario with
  | none =>
    rw [hs] at hl
    exact .inl ⟨rfl, by rw [file?, hs]; rfl, (Except.ok.inj hl).symm⟩
  | some path =>
    rw [hs] at hl
    obtain ⟨s, hload, rfl⟩ := map_eq_ok_iff.mp hl
    obtain ⟨t, file, dir, ht, hfile, hdir, rfl⟩ := Scenario.load_eq_ok_iff.mp hload
    exact .inr ⟨path, t, file, dir, rfl, ht, hfile, file?_of_ofYaml hs ht hfile, hdir, rfl⟩

theorem isSome_file?_iff (hl : r.load w = .ok loaded) : (r.file? w).isSome ↔ r.scenario.isSome := by
  rcases loaded_cases hl with ⟨hs, hf, -⟩ | ⟨path, t, file, dir, hs, -, -, hf, -⟩ <;> simp [hs, hf]

/-- A file that gives no input has an empty one. -/
theorem input_file?_of_not_gives (hl : r.load w = .ok loaded) {path t : Text} (hpath : r.scenario = some path)
    (ht : w.readText path = .ok t) (hn : (Yaml.Document.ofText t).gives "input" = false) :
    (r.file? w).map Scenario.input = some [] := by
  rcases loaded_cases hl with ⟨hs, -⟩ | ⟨path', t', file, dir, hs, ht', hfile, hf, -⟩
  · rw [hs] at hpath
    cases hpath
  · obtain rfl : path' = path := Option.some.inj (hs.symm.trans hpath)
    obtain rfl : t' = t := Except.ok.inj (ht'.symm.trans ht)
    rw [hf, Option.map_some, Scenario.input_of_ofYaml hfile hn]

/-- The read buffer is compared with what is expected of it explicitly, and else with the input that is given. -/
theorem mem_compare_readBuffer_iff (p : Blocks) (s : Scenario) {m : Mismatch} (h : m.field = .readBuffer) :
    m ∈ compare p s ↔
      m.actual = p.readBuffer ∧ m.expected = s.expect.readBuffer.getD s.input ∧ m.actual ≠ m.expected := by
  rw [mem_compare_iff, h]
  rfl

/-- The scenario that is run, with every field taken from where it comes from. -/
theorem effective_eq (hl : r.load w = .ok loaded) (settings : Settings) :
    r.effective settings loaded =
      { (r.file? w).getD .reference with
        executable := (r.executable.or ((r.file? w).map Scenario.executable)).getD settings.defaults.executable
        input := (r.input.or ((r.file? w).map Scenario.input)).getD settings.defaults.input
        baseDir := if r.executable.isSome then none else r.scenario.bind Path.parent? } := by
  rcases loaded_cases hl with ⟨hs, hf, rfl⟩ | ⟨path, t, file, dir, hs, -, -, hf, hdir, rfl⟩
  · have hreference : Scenario.reference.baseDir = none := rfl
    cases hx : r.executable <;> cases hi : r.input <;> simp [effective, hs, hf, hx, hi, hreference]
  · cases hx : r.executable <;> cases hi : r.input <;> simp [effective, hs, hf, hx, hi, hdir]

theorem isSome_baseDir_iff (hl : r.load w = .ok loaded) :
    (if r.executable.isSome then none else r.scenario.bind Path.parent?).isSome ↔
      r.scenario.isSome ∧ r.executable = none := by
  rcases loaded_cases hl with ⟨hs, -⟩ | ⟨path, t, file, dir, hs, -, -, -, hdir, -⟩
  · simp [hs]
  · cases hx : r.executable <;> simp [hs, hdir]

theorem determines_effective (hl : r.load w = .ok loaded) (settings : Settings) :
    r.Determines settings (r.file? w) (r.effective settings loaded) := by
  rw [effective_eq hl]
  exact {
    executable := rfl
    input := rfl
    name := rfl
    description := rfl
    args := rfl
    programOutput := rfl
    readBuffer := rfl
    baseDir := rfl
    baseDir_isSome := isSome_baseDir_iff hl
    mem_compare_iff := fun p m h => mem_compare_readBuffer_iff p _ h }

/-! ## Runs -/

section Course
variable {color : Bool} {ends : Scenario → Attempt}

theorem attempted_deeds (color : Bool) (scenario : Scenario) (result : RunResult) :
    (r.deeds settings color scenario result).filterMap Deed.attempt? = [scenario] := by
  rw [deeds]
  split <;> rfl

theorem attempted_course (hs : Settings.load w = .ok settings) (hl : r.load w = .ok loaded) (color : Bool)
    (ends : Scenario → Attempt) : (r.course w color ends).attempted = [r.effective settings loaded] := by
  obtain ⟨result, hr, -⟩ :=
    Attempt.exists_result_fits (r.effective settings loaded) (ends (r.effective settings loaded))
  rw [course_of_loaded hs hl hr]
  exact attempted_deeds _ _ result

/-- With a scenario file, only the report of the settings shows in a run. -/
theorem course_congr {w' : World} {settings' : Settings} {s : Scenario} (hs : Settings.load w = .ok settings)
    (hl : r.load w = .ok (some s)) (hs' : Settings.load w' = .ok settings') (hl' : r.load w' = .ok (some s))
    (hreport : settings'.report = settings.report) : r.course w' color ends = r.course w color ends := by
  have heffective : r.effective settings' (some s) = r.effective settings (some s) := rfl
  obtain ⟨result, hr, -⟩ :=
    Attempt.exists_result_fits (r.effective settings (some s)) (ends (r.effective settings (some s)))
  have hr' : (ends (r.effective settings' (some s))).result (r.effective settings' (some s)) = .ok result := hr
  rw [course_of_loaded hs hl hr, course_of_loaded hs' hl' hr', heffective, hreport]
  simp only [deeds, hreport]

end Course

/-- **The scenario of a run.** If settings and scenario can be loaded, one scenario is attempted, whatever becomes of
it, and it has its fields from the request, the file and the settings in this order. An override changes its own field
and nothing else, but that an executable is not looked for from the directory of the file any more; and with a scenario
file the defaults of the settings make no difference to the run. -/
theorem course_effective (r : RunRequest) {w : World} {settings : Settings} {loaded : Option Scenario}
    (hs : Settings.load w = .ok settings) (hl : r.load w = .ok loaded) (color : Bool) (ends : Scenario → Attempt) :
    ∃ s, r.Determines settings (r.file? w) s ∧ ((r.file? w).isSome ↔ r.scenario.isSome) ∧
      (∀ path t, r.scenario = some path → w.readText path = .ok t →
        (Yaml.Document.ofText t).gives "input" = false → (r.file? w).map Scenario.input = some []) ∧
      (r.course w color ends).attempted = [s] ∧
      ((Command.run r).dispatch w color).1 =
        r.respond settings (color && settings.report.color) s (w.attempt s).1 ∧
      (∀ input, ({ r with input := some input }.course w color ends).attempted = [{ s with input }]) ∧
      (∀ executable, ({ r with executable := some executable }.course w color ends).attempted =
        [{ s with executable, baseDir := none }]) ∧
      (r.scenario.isSome → ∀ (w' : World) (settings' : Settings), Settings.load w' = .ok settings' →
        settings'.report = settings.report → r.load w' = .ok loaded →
        r.course w' color ends = r.course w color ends) := by
  refine ⟨r.effective settings loaded, determines_effective hl settings, isSome_file?_iff hl,
    fun path t => input_file?_of_not_gives hl, attempted_course hs hl color ends, dispatch_run hs hl color, ?_, ?_, ?_⟩
  · intro input
    exact attempted_course (r := { r with input := some input }) hs hl color ends
  · intro executable
    exact attempted_course (r := { r with executable := some executable }) hs hl color ends
  · intro hsome w' settings' hs' hreport hl'
    rcases loaded_cases hl with ⟨hnone, -⟩ | ⟨_, _, _, _, -, -, -, -, -, rfl⟩
    · simp [hnone] at hsome
    · exact course_congr hs hl hs' hl' hreport

/-- A scenario without an input that expects nothing in the read buffer. -/
def mute : Text := "name: echo\nexecutable: ./echo\nexpect: \x7bprogram_output: hi, read_buffer: \"\"\x7d\n"

/-- A world with that scenario and a settings file. -/
def furnished (settings : Text) : World where
  files.entries := [
    (["t"], .directory),
    (["t", "mute.yaml"], .file (Utf8.encode mute) false),
    (["c"], .directory),
    (["c", "conformance-harness"], .directory),
    (["c", "conformance-harness", "config.toml"], .file (Utf8.encode settings) false)]
  files.current := []
  env := ⟨none, none, some "/c"⟩

/-- A run of that scenario with an input of its own. -/
def voiced : RunRequest := { scenario := some "t/mute.yaml", input := some "tango" }

theorem course_effective_furnished :
    let w := furnished "[defaults]\ninput = \"kilo\"\n"
    let ends := fun _ => unfound
    ∃ s, (voiced.course w true ends).attempted = [s] ∧
      s.executable = "./echo" ∧ s.input = "tango" ∧ s.baseDir = some ['t'] ∧
      (voiced.file? w).map Scenario.input = some [] ∧
      ⟨.readBuffer, "tango", []⟩ ∈ compare ⟨[], [], "hi", "tango"⟩ s ∧
      ({ voiced with executable := some "demo" }.course w true ends).attempted =
        [{ s with executable := "demo", baseDir := none }] ∧
      voiced.course (furnished []) true ends = voiced.course w true ends := by
  intro w ends
  let file : Scenario := ⟨"echo", none, "./echo", [], [], ⟨"hi", some []⟩, none⟩
  have hs : Settings.load w = .ok ⟨⟨Scenario.referenceExecutable, "kilo"⟩, {}⟩ := by decide +kernel
  have hs' : Settings.load (furnished []) = .ok {} := by decide +kernel
  have hl : voiced.load w = .ok (some { file with baseDir := some ['t'] }) := by decide +kernel
  have hl' : voiced.load (furnished []) = .ok (some { file with baseDir := some ['t'] }) := by decide +kernel
  have hfile : voiced.file? w = some file := by decide +kernel
  have htext : w.readText "t/mute.yaml" = .ok mute := by decide +kernel
  obtain ⟨s, hfields, -, hempty, hcourse, -, -, hexecutable, hdefaults⟩ := course_effective voiced hs hl true ends
  rw [hfile] at hfields
  refine ⟨s, hcourse, hfields.executable, hfields.input, hfields.baseDir.trans (by decide),
    hempty _ mute rfl htext (by decide +kernel), ?_, hexecutable "demo", hdefaults rfl _ {} hs' rfl hl'⟩
  exact (hfields.mem_compare_iff _ _ rfl).mpr ⟨rfl, rfl, by decide⟩

end RunRequest
end BlockHarness
