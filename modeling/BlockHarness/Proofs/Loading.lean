import BlockHarness.Proofs.Extraction
import BlockHarness.Proofs.Lines
import BlockHarness.Run.Scenario

/-! What is read of a scenario file. A file that can be read lies in a directory, from which its executable is looked
for; and a scenario that is given no input has an empty one. -/
namespace BlockHarness
set_option autoImplicit false

/-! ## Paths without a parent -/

namespace Path

theorem ne_nil_of_dropIdle {pieces : List Text} (h : pieces ≠ []) : dropIdle pieces ≠ [] := by
  fun_induction dropIdle pieces with
  | case1 piece before rest _ ih => exact ih (List.cons_ne_nil _ _)
  | case2 piece before rest _ => exact List.cons_ne_nil _ _
  | case3 pieces _ => exact h

theorem idle_of_dropIdle_eq_singleton {pieces : List Text} {first : Text} (h : dropIdle pieces = [first]) :
    ∃ idle, pieces = idle ++ [first] ∧ ∀ piece ∈ idle, isIdle piece := by
  fun_induction dropIdle pieces with
  | case1 piece before rest hidle ih =>
    obtain ⟨idle, he, hall⟩ := ih h
    refine ⟨piece :: idle, by rw [he, List.cons_append], ?_⟩
    simpa using ⟨hidle, hall⟩
  | case2 piece before rest _ => cases h
  | case3 pieces _ => exact ⟨[], h, by simp⟩

/-- A path in no directory has nothing but idle pieces behind its first one, which is empty. -/
theorem splitOn_of_parent?_eq_none {p : Text} (h : parent? p = none) :
    ∃ rest, p.splitOn '/' = [] :: rest ∧ ∀ piece ∈ rest, isIdle piece := by
  rw [parent?] at h
  split at h
  next hd => exact absurd hd (ne_nil_of_dropIdle (List.reverse_ne_nil_iff.mpr (Text.splitOn_ne_nil '/' p)))
  next piece hd =>
    split at h
    next he =>
      obtain ⟨idle, hp, hall⟩ := idle_of_dropIdle_eq_singleton hd
      refine ⟨idle.reverse, ?_, fun piece hmem => hall piece (List.mem_reverse.mp hmem)⟩
      rw [List.reverse_eq_iff] at hp
      rw [hp, he, List.reverse_append]
      rfl
    next => cases h
  next => split at h <;> cases h

/-- A text whose first piece is empty is empty itself or begins with the separator. -/
theorem isAbsolute_of_splitOn {p : Text} {rest : List Text} (h : p.splitOn '/' = [] :: rest) (hp : p ≠ []) :
    isAbsolute p = true := by
  cases p with
  | nil => exact absurd rfl hp
  | cons c p =>
    by_cases hc : c = '/'
    · simp [isAbsolute, hc]
    · have hsplit : Text.splitOn '/' (c :: p) = Text.splitStep '/' c (Text.splitOn '/' p) := rfl
      rw [hsplit, Text.splitStep_of_ne hc (Text.splitOn_ne_nil '/' p)] at h
      cases hpieces : Text.splitOn '/' p with
      | nil => exact absurd hpieces (Text.splitOn_ne_nil '/' p)
      | cons piece pieces => simp [hpieces] at h

end Path

namespace Files
variable {fs : Files}

theorem walk_of_idle {l : Location} (hl : fs.isDirectory l = true) (mayMiss : Bool) {pieces : List Text}
    (h : ∀ piece ∈ pieces, Path.isIdle piece = true) : fs.walk mayMiss l pieces = .ok l := by
  induction pieces with
  | nil => rfl
  | cons piece rest ih =>
    obtain ⟨hpiece, hrest⟩ := List.forall_mem_cons.mp h
    rw [walk, hl, hpiece]
    exact ih hrest

/-- Nothing but the root lies in no directory. -/
theorem resolve_of_parent?_eq_none {p : Text} (h : Path.parent? p = none) {l : Location}
    (hl : fs.resolve false p = .ok l) : l = [] := by
  obtain ⟨rest, hsplit, hidle⟩ := Path.splitOn_of_parent?_eq_none h
  rw [resolve] at hl
  split at hl
  next => cases hl
  next hp =>
    split at hl
    next => cases hl
    next =>
      have hroot : fs.isDirectory [] = true := rfl
      rw [Path.isAbsolute_of_splitOn hsplit hp, if_pos rfl, hsplit,
        walk_of_idle hroot false (List.forall_mem_cons.mpr ⟨rfl, hidle⟩)] at hl
      exact (Except.ok.inj hl).symm

theorem read_of_parent?_eq_none {p : Text} (h : Path.parent? p = none) (opened : List (Nat × Octets))
    (octets : Octets) : fs.read p opened ≠ .ok octets := by
  intro hr
  rw [read, bind_eq_ok_iff] at hr
  obtain ⟨entry, he, hr⟩ := hr
  rw [find, bind_eq_ok_iff] at he
  obtain ⟨l, hl, he⟩ := he
  obtain rfl := resolve_of_parent?_eq_none h hl
  obtain rfl : Entry.directory = entry := Except.ok.inj he
  cases hr

end Files

theorem World.exists_parent?_of_readText {w : World} {p t : Text} (h : w.readText p = .ok t) :
    ∃ dir, Path.parent? p = some dir := by
  cases hp : Path.parent? p with
  | some dir => exact ⟨dir, rfl⟩
  | none =>
    rw [readText] at h
    split at h
    next => cases h
    next =>
      split at h
      next => cases h
      next octets hr => exact absurd hr (Files.read_of_parent?_eq_none hp _ octets)

/-! ## Scenario files -/

theorem Scenario.load_eq_ok_iff {w : World} {path : Text} {s : Scenario} :
    Scenario.load w path = .ok s ↔ ∃ t file dir, w.readText path = .ok t ∧ Scenario.ofYaml t = .ok file ∧
      Path.parent? path = some dir ∧ s = { file with baseDir := some dir } := by
  simp only [load, bind_eq_ok_iff, mapError_eq_ok_iff]
  constructor
  · rintro ⟨t, ht, file, hfile, hs⟩
    obtain ⟨dir, hdir⟩ := w.exists_parent?_of_readText ht
    rw [hdir] at hs
    exact ⟨t, file, dir, ht, hfile, hdir, (Except.ok.inj hs).symm⟩
  · rintro ⟨t, file, dir, ht, hfile, hdir, rfl⟩
    exact ⟨t, ht, file, hfile, by rw [hdir]; rfl⟩

/-! ## Fields that are not given -/

namespace Yaml

/-- Whether the root of a document has an entry of a name. -/
def Document.gives (d : Document) (name : Text) : Bool :=
  (recordEntries d [] "Scenario" d.root).toOption.any fun entries =>
    entries.any fun entry => (decodeKey d [] entry.1).toOption.any fun key => key.1 = name

theorem Document.gives_of_mem {d : Document} {name : Text} {entries : List (Node × Node)}
    (hentries : recordEntries d [] "Scenario" d.root = .ok entries) {entry : Node × Node} (hentry : entry ∈ entries)
    {step : Data.Step} (hkey : decodeKey d [] entry.1 = .ok (name, step)) : d.gives name = true := by
  have hany : (decodeKey d [] entry.1).toOption.any (fun key => key.1 = name) = true := by
    simp [hkey, Except.toOption]
  rw [gives, hentries]
  exact List.any_eq_true.mpr ⟨entry, hentry, hany⟩

/-- What reading one entry keeps, unless it is of a certain name, is kept where there is no entry of that name. -/
theorem decodeEntries_keeps {σ : Type} {d : Document} {place : Data.Place}
    {take : σ → Text → Data.Place → Node → Except Data.Fault σ} (kept : σ → Prop) (name : Text)
    (hstep : ∀ draft name' place' value draft', name' ≠ name → take draft name' place' value = .ok draft' →
      kept draft → kept draft')
    {entries : List (Node × Node)}
    (hentries : ∀ entry ∈ entries, ∀ step, decodeKey d place entry.1 ≠ .ok (name, step))
    {draft final : σ} (h : decodeEntries d place take draft entries = .ok final) (hdraft : kept draft) : kept final := by
  induction entries generalizing draft with
  | nil => exact Except.ok.inj h ▸ hdraft
  | cons entry entries ih =>
    obtain ⟨hentry, hrest⟩ := List.forall_mem_cons.mp hentries
    obtain ⟨⟨name', step⟩, hkey, h⟩ := (bind_eq_ok_iff _ _ _).mp h
    obtain ⟨draft', htake, h⟩ := (bind_eq_ok_iff _ _ _).mp h
    have hne : name' ≠ name := fun e => hentry step (e ▸ hkey)
    exact ih hrest h (hstep _ _ _ _ _ hne htake hdraft)

theorem ScenarioDraft.input_of_map {α : Type} {x : Except Data.Fault α} {put : α → ScenarioDraft}
    {draft draft' : ScenarioDraft} (h : x.map put = .ok draft') (hput : ∀ a, (put a).input = draft.input) :
    draft'.input = draft.input := by
  obtain ⟨a, -, rfl⟩ := map_eq_ok_iff.mp h
  exact hput a

theorem ScenarioDraft.input_take {d : Document} {outer place : Data.Place} {draft draft' : ScenarioDraft} {name : Text}
    {value : Node} (hn : name ≠ "input") (h : draft.take d outer name place value = .ok draft') :
    draft'.input = draft.input := by
  rw [take] at h
  split at h
  · exact input_of_map h fun _ => rfl
  split at h
  · exact input_of_map h fun _ => rfl
  split at h
  · exact input_of_map h fun _ => rfl
  split at h
  · exact input_of_map h fun _ => rfl
  split at h
  · exact input_of_map h fun _ => rfl
  -- a key that means nothing
  rw [skipValue] at h
  split at h
  · exact congrArg input (Except.ok.inj h).symm
  · cases h

theorem input_of_decodeScenario {d : Document} {s : Scenario} (h : decodeScenario d d.root = .ok s)
    (hn : d.gives "input" = false) : s.input = [] := by
  simp only [decodeScenario, bind_eq_ok_iff] at h
  obtain ⟨entries, hentries, draft, hdraft, _, -, _, -, _, -, hs⟩ := h
  have hnone : draft.input = none := by
    refine decodeEntries_keeps (fun draft => draft.input = none) "input" ?_ ?_ hdraft rfl
    · intro draft name place value draft' hne htake hdraft
      rw [ScenarioDraft.input_take hne htake, hdraft]
    · intro entry hentry step hkey
      rw [d.gives_of_mem hentries hentry hkey] at hn
      cases hn
  rw [← Except.ok.inj hs, hnone]
  rfl

end Yaml

theorem Scenario.input_of_ofYaml {t : Text} {s : Scenario} (h : Scenario.ofYaml t = .ok s)
    (hn : (Yaml.Document.ofText t).gives "input" = false) : s.input = [] := by
  obtain ⟨file, hfile, hs⟩ := (bind_eq_ok_iff _ _ _).mp h
  split at hs
  · exact Except.ok.inj hs ▸ Yaml.input_of_decodeScenario hfile hn
  · cases hs

end BlockHarness
