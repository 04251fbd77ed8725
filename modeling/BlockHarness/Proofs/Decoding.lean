import BlockHarness.Proofs.Wholeness
import Mathlib.Logic.Relation

/-! Which mappings are scenarios, and which scenario a mapping is. Each field is judged by the values of its name, so a
mapping can be put in another order, and what means nothing can be added or taken away, without a change to the
scenario. -/
namespace BlockHarness.Yaml
set_option autoImplicit false

namespace Document
variable (d : Document)

/-! ## Values -/

def IsText (node : Node) : Prop := ∃ tag isPlain t, d.resolve node = .scalar tag isPlain t

def IsNull (node : Node) : Prop := ∃ tag isPlain t, d.resolve node = .scalar tag isPlain t ∧ isNull tag isPlain t = true

def IsOptional (node : Node) : Prop :=
  ∃ tag isPlain t, d.resolve node = .scalar tag isPlain t ∧ isMisspelt tag isPlain t = false

def IsTexts (node : Node) : Prop :=
  (∃ items, d.resolve node = .sequence items ∧ ∀ item ∈ items, d.IsText item) ∨
    ∃ tag, d.resolve node = .scalar tag true []

variable {d}

theorem isText_iff {node : Node} : d.IsText node ↔ ∃ t, d.text? node = some t := by
  rw [IsText, text?]
  cases d.resolve node <;> simp

instance : DecidablePred d.IsText := fun node =>
  decidable_of_iff ((d.text? node).isSome = true) (by rw [isText_iff, Option.isSome_iff_exists])

theorem isOptional_iff {node : Node} : d.IsOptional node ↔ ∃ x, d.optional? node = some x := by
  rw [IsOptional, optional?]
  cases d.resolve node with
  | scalar tag isPlain t =>
    constructor
    · rintro ⟨_, _, _, ⟨⟩, h⟩
      exact ⟨_, if_neg (by simp [h])⟩
    · rintro ⟨x, h⟩
      refine ⟨tag, isPlain, t, rfl, Bool.eq_false_iff.mpr fun hm => ?_⟩
      cases (if_pos hm).symm.trans h
  | _ => simp

theorem mapM_text?_iff {items : List Node} : (∃ ts, items.mapM d.text? = some ts) ↔ ∀ item ∈ items, d.IsText item := by
  induction items with
  | nil => simp
  | cons item items ih =>
    rw [List.forall_mem_cons, ← ih, isText_iff]
    simp only [List.mapM_cons, Option.bind_eq_bind, Option.bind_eq_some_iff, Option.pure_def, Option.some.injEq]
    constructor
    · rintro ⟨_, t, ht, ts, hts, -⟩
      exact ⟨⟨t, ht⟩, ts, hts⟩
    · rintro ⟨⟨t, ht⟩, ts, hts⟩
      exact ⟨_, t, ht, ts, hts, rfl⟩

theorem isTexts_iff {node : Node} : d.IsTexts node ↔ ∃ ts, d.texts? node = some ts := by
  rw [IsTexts, texts?]
  cases d.resolve node with
  | sequence items => simp [mapM_text?_iff]
  | scalar tag isPlain t => cases isPlain <;> cases t <;> simp
  | _ => simp

theorem isNull_iff {node : Node} {tag : Option Text} {isPlain : Bool} {t : Text}
    (h : d.resolve node = .scalar tag isPlain t) : d.IsNull node ↔ isNull tag isPlain t = true := by
  constructor
  · rintro ⟨_, _, _, h', hnull⟩
    rw [h] at h'
    cases h'
    exact hnull
  · intro hnull
    exact ⟨tag, isPlain, t, h, hnull⟩

/-- Nothing is read of a null, and of any other scalar what it says. -/
theorem optional?_eq_some {node : Node} {x : Option Text} (h : d.optional? node = some x) :
    (x = none ↔ d.IsNull node) ∧ (¬ d.IsNull node → d.text? node = x) := by
  rw [optional?] at h
  rw [text?]
  cases hnode : d.resolve node with
  | scalar tag isPlain t =>
    rw [isNull_iff hnode]
    simp only [hnode] at h ⊢
    by_cases hm : isMisspelt tag isPlain t = true
    · rw [if_pos hm] at h
      cases h
    · rw [if_neg hm, Option.some.injEq] at h
      subst h
      by_cases hn : isNull tag isPlain t = true <;> simp [hn]
  | _ => simp [hnode] at h

/-! ## Records -/

/-- Entries from which expectations are read. -/
structure IsExpectations (d : Document) (entries : List (Node × Node)) : Prop where
  unrepeated : ∀ f : ExpectationsField, (d.valuesOf f.name entries).length ≤ 1
  given : d.valuesOf "program_output" entries ≠ []
  programOutput : ∀ value ∈ d.valuesOf "program_output" entries, d.IsText value
  readBuffer : ∀ value ∈ d.valuesOf "read_buffer" entries, d.IsOptional value

/-- Entries from which a scenario is read. -/
structure IsScenario (d : Document) (entries : List (Node × Node)) : Prop where
  unrepeated : ∀ f : ScenarioField, (d.valuesOf f.literal entries).length ≤ 1
  given : ∀ f ∈ [ScenarioField.name, .executable, .expect], d.valuesOf f.literal entries ≠ []
  texts : ∀ f ∈ [ScenarioField.name, .executable, .input], ∀ value ∈ d.valuesOf f.literal entries, d.IsText value
  description : ∀ value ∈ d.valuesOf "description" entries, d.IsOptional value
  args : ∀ value ∈ d.valuesOf "args" entries, d.IsTexts value
  expect : ∀ value ∈ d.valuesOf "expect" entries, ∃ inner, d.resolve value = .mapping inner ∧ d.IsExpectations inner

/-- Entries as they are left by a text that does not break off: all keys are scalars, in expectations as well, and
all values have been read to their ends. -/
structure IsRecord (d : Document) (entries : List (Node × Node)) : Prop where
  keys : ∀ entry ∈ entries, d.IsText entry.1
  whole : areWholeEntries entries = true

theorem IsRecord.passable {entries : List (Node × Node)} (h : d.IsRecord entries) (names : List Text) :
    d.Passable names entries := by
  intro entry hentry
  obtain ⟨n, hn⟩ := isText_iff.mp (h.keys entry hentry)
  obtain ⟨-, hvalue⟩ := (areWholeEntries_iff entries).mp h.whole entry hentry
  exact ⟨n, hn, fun _ => hvalue⟩

theorem isExpectations_iff {entries : List (Node × Node)} (h : d.IsRecord entries) :
    d.IsExpectations entries ↔ ∃ e, d.ReadsExpectations entries e := by
  constructor
  · rintro ⟨hunrepeated, hgiven, houtput, hbuffer⟩
    obtain ⟨t, ht⟩ := exists_gives_some_iff.mpr
      ⟨hunrepeated .programOutput, hgiven, fun value hvalue => isText_iff.mp (houtput value hvalue)⟩
    obtain ⟨x, hx⟩ := exists_gives_iff.mpr
      ⟨hunrepeated .readBuffer, fun value hvalue => isOptional_iff.mp (hbuffer value hvalue)⟩
    exact ⟨⟨t, x.join⟩, h.passable _, ht, x, hx, rfl⟩
  · rintro ⟨e, -, houtput, x, hbuffer, -⟩
    obtain ⟨hone, hgiven, htext⟩ := exists_gives_some_iff.mp ⟨_, houtput⟩
    obtain ⟨hone', hoptional⟩ := exists_gives_iff.mp ⟨_, hbuffer⟩
    refine ⟨?_, hgiven, fun value hvalue => isText_iff.mpr (htext value hvalue),
      fun value hvalue => isOptional_iff.mpr (hoptional value hvalue)⟩
    rintro ⟨⟩
    · exact hone
    · exact hone'

theorem isScenario_iff (hd : d.Settled) {entries : List (Node × Node)} (h : d.IsRecord entries)
    (hinner : ∀ value ∈ d.valuesOf "expect" entries, ∀ inner, d.resolve value = .mapping inner → d.IsRecord inner) :
    d.IsScenario entries ↔ ∃ s, d.ReadsScenario entries s := by
  have hexpect {value : Node} (hvalue : value ∈ d.valuesOf "expect" entries) :
      (∃ inner, d.resolve value = .mapping inner ∧ d.IsExpectations inner) ↔ ∃ e, d.expectations? value = some e := by
    simp only [expectations?_eq_some_iff hd]
    constructor
    · rintro ⟨inner, hnode, hin⟩
      obtain ⟨e, he⟩ := (isExpectations_iff (hinner value hvalue inner hnode)).mp hin
      exact ⟨e, inner, hnode, he⟩
    · rintro ⟨e, inner, hnode, he⟩
      exact ⟨inner, hnode, (isExpectations_iff (hinner value hvalue inner hnode)).mpr ⟨e, he⟩⟩
  constructor
  · rintro ⟨hunrepeated, hgiven, htexts, hdescription, hargs, hexpects⟩
    obtain ⟨name, hname⟩ := exists_gives_some_iff.mpr
      ⟨hunrepeated .name, hgiven .name (by decide),
        fun value hvalue => isText_iff.mp (htexts .name (by decide) value hvalue)⟩
    obtain ⟨description, hdescription⟩ := exists_gives_iff.mpr
      ⟨hunrepeated .description, fun value hvalue => isOptional_iff.mp (hdescription value hvalue)⟩
    obtain ⟨executable, hexecutable⟩ := exists_gives_some_iff.mpr
      ⟨hunrepeated .executable, hgiven .executable (by decide),
        fun value hvalue => isText_iff.mp (htexts .executable (by decide) value hvalue)⟩
    obtain ⟨args, hargs⟩ := exists_gives_iff.mpr
      ⟨hunrepeated .args, fun value hvalue => isTexts_iff.mp (hargs value hvalue)⟩
    obtain ⟨input, hinput⟩ := exists_gives_iff.mpr
      ⟨hunrepeated .input,
        fun value hvalue => isText_iff.mp (htexts .input (by decide) value hvalue)⟩
    obtain ⟨e, he⟩ := exists_gives_some_iff.mpr
      ⟨hunrepeated .expect, hgiven .expect (by decide),
        fun value hvalue => (hexpect hvalue).mp (hexpects value hvalue)⟩
    exact ⟨⟨name, description.join, executable, args.getD [], input.getD [], e, none⟩, h.passable _, hname,
      ⟨_, hdescription, rfl⟩, hexecutable, ⟨_, hargs, rfl⟩, ⟨_, hinput, rfl⟩, he, rfl⟩
  · rintro ⟨s, -, hname, ⟨_, hdescription, -⟩, hexecutable, ⟨_, hargs, -⟩, ⟨_, hinput, -⟩, he, -⟩
    obtain ⟨honeName, hgivenName, hname⟩ := exists_gives_some_iff.mp ⟨_, hname⟩
    obtain ⟨honeDescription, hdescription⟩ := exists_gives_iff.mp ⟨_, hdescription⟩
    obtain ⟨honeExecutable, hgivenExecutable, hexecutable⟩ := exists_gives_some_iff.mp ⟨_, hexecutable⟩
    obtain ⟨honeArgs, hargs⟩ := exists_gives_iff.mp ⟨_, hargs⟩
    obtain ⟨honeInput, hinput⟩ := exists_gives_iff.mp ⟨_, hinput⟩
    obtain ⟨honeExpect, hgivenExpect, he⟩ := exists_gives_some_iff.mp ⟨_, he⟩
    simp only [← isText_iff] at hname hexecutable hinput
    constructor
    case unrepeated =>
      rintro ⟨⟩
      · exact honeName
      · exact honeDescription
      · exact honeExecutable
      · exact honeArgs
      · exact honeInput
      · exact honeExpect
    case given =>
      simp only [List.forall_mem_cons]
      exact ⟨hgivenName, hgivenExecutable, hgivenExpect, List.forall_mem_nil _⟩
    case texts =>
      simp only [List.forall_mem_cons]
      exact ⟨hname, hexecutable, hinput, List.forall_mem_nil _⟩
    case description => exact fun value hvalue => isOptional_iff.mpr (hdescription value hvalue)
    case args => exact fun value hvalue => isTexts_iff.mpr (hargs value hvalue)
    case expect => exact fun value hvalue => (hexpect hvalue).mpr (he value hvalue)

/-! ## Results -/

/-- What an optional field holds: nothing where it is missing or null, and else what its scalar says. -/
def GivesOptional (d : Document) (name : Text) (entries : List (Node × Node)) (x : Option Text) : Prop :=
  (x = none ↔ ∀ value ∈ d.valuesOf name entries, d.IsNull value) ∧
    ∀ value ∈ d.valuesOf name entries, ¬ d.IsNull value → d.text? value = x

theorem givesOptional_join {name : Text} {entries : List (Node × Node)} {x : Option (Option Text)}
    (h : Gives d.optional? none (d.valuesOf name entries) x) : d.GivesOptional name entries x.join := by
  rw [GivesOptional]
  generalize d.valuesOf name entries = values at h
  cases h with
  | kept => simp
  | filled ha => simpa using optional?_eq_some ha

/-- The expectations of a scenario, as entries have them. -/
structure DescribesExpectations (d : Document) (entries : List (Node × Node)) (s : Scenario) : Prop where
  programOutput : ∀ value ∈ d.valuesOf "program_output" entries, d.text? value = some s.expect.programOutput
  readBuffer : d.GivesOptional "read_buffer" entries s.expect.readBuffer
  input_expected : (∀ value ∈ d.valuesOf "read_buffer" entries, d.IsNull value) → s.expectedReadBuffer = s.input
  readBuffer_expected : ∀ value ∈ d.valuesOf "read_buffer" entries, ¬ d.IsNull value →
    d.text? value = some s.expectedReadBuffer

/-- A scenario, as entries have it. -/
structure Describes (d : Document) (entries : List (Node × Node)) (s : Scenario) : Prop where
  name : ∀ value ∈ d.valuesOf "name" entries, d.text? value = some s.name
  description : d.GivesOptional "description" entries s.description
  executable : ∀ value ∈ d.valuesOf "executable" entries, d.text? value = some s.executable
  args : ∀ value ∈ d.valuesOf "args" entries, d.texts? value = some s.args
  args_absent : d.valuesOf "args" entries = [] → s.args = []
  input : ∀ value ∈ d.valuesOf "input" entries, d.text? value = some s.input
  input_absent : d.valuesOf "input" entries = [] → s.input = []
  expect : ∀ value ∈ d.valuesOf "expect" entries, ∃ inner, d.resolve value = .mapping inner ∧
    d.DescribesExpectations inner s

theorem ReadsExpectations.describes {entries : List (Node × Node)} {s : Scenario}
    (h : d.ReadsExpectations entries s.expect) : d.DescribesExpectations entries s := by
  obtain ⟨-, houtput, x, hbuffer, hx⟩ := h
  have hgives : d.GivesOptional "read_buffer" entries s.expect.readBuffer := hx ▸ givesOptional_join hbuffer
  refine ⟨houtput.read_eq, hgives, fun hnull => ?_, fun value hvalue hnull => ?_⟩
  · rw [Scenario.expectedReadBuffer, hgives.1.mpr hnull]
    rfl
  · have htext := hgives.2 value hvalue hnull
    cases hr : s.expect.readBuffer with
    | none => exact absurd (hgives.1.mp hr value hvalue) hnull
    | some t => rw [htext, Scenario.expectedReadBuffer, hr]; rfl

theorem ReadsScenario.describes (hd : d.Settled) {entries : List (Node × Node)} {s : Scenario}
    (h : d.ReadsScenario entries s) : d.Describes entries s := by
  obtain ⟨-, hname, ⟨description, hdescription, hds⟩, hexecutable, ⟨args, hargs, has⟩, ⟨input, hinput, his⟩, hexpect, -⟩ := h
  obtain ⟨hread, habsent⟩ := hargs.read_eq_getD
  obtain ⟨hread', habsent'⟩ := hinput.read_eq_getD
  refine ⟨hname.read_eq, hds ▸ givesOptional_join hdescription, hexecutable.read_eq, has ▸ hread, has ▸ habsent,
    his ▸ hread', his ▸ habsent', fun value hvalue => ?_⟩
  obtain ⟨inner, hnode, hreads⟩ := (expectations?_eq_some_iff hd).mp (hexpect.read_eq value hvalue)
  exact ⟨inner, hnode, hreads.describes⟩

/-! ## Rearrangement -/

/-- A change that means nothing to a record with fields of the given names. -/
inductive RecordStep (d : Document) (names : List Text) : List (Node × Node) → List (Node × Node) → Prop where
  | reorder {entries entries' : List (Node × Node)} (h : entries.Perm entries') : RecordStep d names entries entries'
  | insert {key value : Node} {n : Text} (entries : List (Node × Node)) (hkey : d.text? key = some n) (hn : n ∉ names)
      (hvalue : value.isWhole = true) : RecordStep d names entries ((key, value) :: entries)

/-- A change that means nothing to a scenario, in its own entries or in its expectations. -/
inductive ScenarioStep (d : Document) : List (Node × Node) → List (Node × Node) → Prop where
  | outside {entries entries' : List (Node × Node)} (h : RecordStep d ScenarioField.names entries entries') :
      ScenarioStep d entries entries'
  | inside {key value value' : Node} {inner inner' : List (Node × Node)} (before after : List (Node × Node))
      (hkey : d.text? key = some ScenarioField.expect.literal) (hvalue : d.resolve value = .mapping inner)
      (hvalue' : d.resolve value' = .mapping inner') (h : RecordStep d ExpectationsField.names inner inner') :
      ScenarioStep d (before ++ (key, value) :: after) (before ++ (key, value') :: after)

theorem RecordStep.passable_iff {names : List Text} {entries entries' : List (Node × Node)}
    (h : d.RecordStep names entries entries') : d.Passable names entries ↔ d.Passable names entries' := by
  cases h with
  | reorder h => simp only [Passable, h.mem_iff]
  | insert _ hkey hn hvalue =>
    rw [passable_cons_iff]
    exact ⟨fun h => ⟨⟨_, hkey, fun _ => hvalue⟩, h⟩, fun h => h.2⟩

theorem RecordStep.valuesOf_perm {names : List Text} {entries entries' : List (Node × Node)}
    (h : d.RecordStep names entries entries') {name : Text} (hname : name ∈ names) :
    (d.valuesOf name entries).Perm (d.valuesOf name entries') := by
  cases h with
  | reorder h => exact (h.filter _).map _
  | @insert key value n _ hkey hn hvalue =>
    have hne : d.text? key ≠ some name := by
      rw [hkey]
      exact fun e => hn (Option.some.inj e ▸ hname)
    rw [valuesOf_cons_of_ne hne]

theorem RecordStep.readsExpectations_iff {entries entries' : List (Node × Node)}
    (h : d.RecordStep ExpectationsField.names entries entries') (e : Expectations) :
    d.ReadsExpectations entries e ↔ d.ReadsExpectations entries' e := by
  have houtput := (h.valuesOf_perm (ExpectationsField.name_mem_names .programOutput)).map d.text?
  have hbuffer := (h.valuesOf_perm (ExpectationsField.name_mem_names .readBuffer)).map d.optional?
  constructor
  · rintro ⟨hpassable, ht, x, hx, he⟩
    exact ⟨h.passable_iff.mp hpassable, ht.of_perm houtput, x, hx.of_perm hbuffer, he⟩
  · rintro ⟨hpassable, ht, x, hx, he⟩
    exact ⟨h.passable_iff.mpr hpassable, ht.of_perm houtput.symm, x, hx.of_perm hbuffer.symm, he⟩

/-- What is read of a scenario depends on nothing but what is read from the values of each of its names. -/
theorem ReadsScenario.of_perm {entries entries' : List (Node × Node)} {s : Scenario}
    (hpassable : d.Passable ScenarioField.names entries')
    (hread : ∀ f : ScenarioField,
      ((d.valuesOf f.literal entries).map (f.read d)).Perm ((d.valuesOf f.literal entries').map (f.read d)))
    (h : d.ReadsScenario entries s) : d.ReadsScenario entries' s := by
  obtain ⟨-, hname, ⟨_, hdescription, hds⟩, hexecutable, ⟨_, hargs, has⟩, ⟨_, hinput, his⟩, hexpect, hbase⟩ := h
  exact ⟨hpassable, hname.of_perm (hread .name), ⟨_, hdescription.of_perm (hread .description), hds⟩,
    hexecutable.of_perm (hread .executable), ⟨_, hargs.of_perm (hread .args), has⟩,
    ⟨_, hinput.of_perm (hread .input), his⟩, hexpect.of_perm (hread .expect), hbase⟩

theorem ScenarioStep.passable_iff {entries entries' : List (Node × Node)} (h : d.ScenarioStep entries entries') :
    d.Passable ScenarioField.names entries ↔ d.Passable ScenarioField.names entries' := by
  cases h with
  | outside h => exact h.passable_iff
  | inside before after hkey hvalue hvalue' h =>
    have hexpect := ScenarioField.literal_mem_names .expect
    simp [Passable, hkey, hexpect, or_imp, forall_and]

theorem ScenarioStep.read_perm (hd : d.Settled) {entries entries' : List (Node × Node)}
    (h : d.ScenarioStep entries entries') (f : ScenarioField) :
    ((d.valuesOf f.literal entries).map (f.read d)).Perm ((d.valuesOf f.literal entries').map (f.read d)) := by
  cases h with
  | outside h => exact (h.valuesOf_perm (ScenarioField.literal_mem_names f)).map _
  | @inside key value value' inner inner' before after hkey hvalue hvalue' h =>
    have hread : d.expectations? value = d.expectations? value' := by
      refine Option.ext fun e => ?_
      simp [expectations?_eq_some_iff hd, hvalue, hvalue', h.readsExpectations_iff]
    by_cases hf : f = .expect
    · subst hf
      have hread' : ScenarioField.read d .expect value = ScenarioField.read d .expect value' := hread
      simp [valuesOf, hkey, hread']
    · have hne : d.text? key ≠ some f.literal := by
        rw [hkey]
        exact fun e => hf (ScenarioField.literal_injective _ _ (Option.some.inj e).symm)
      simp [valuesOf, hne]

theorem ScenarioStep.decodeScenario_eq (hd : d.Settled) {entries entries' : List (Node × Node)}
    (h : d.ScenarioStep entries entries') :
    (decodeScenario d (.mapping entries)).toOption = (decodeScenario d (.mapping entries')).toOption := by
  refine Option.ext fun s => ?_
  have hok (es : List (Node × Node)) : (decodeScenario d (.mapping es)).toOption = some s ↔ d.ReadsScenario es s := by
    rw [← decodeScenario_eq_ok_iff hd, toOption_eq_some_iff]
  rw [hok, hok]
  exact ⟨fun hs => hs.of_perm (h.passable_iff.mp hs.passable) (h.read_perm hd),
    fun hs => hs.of_perm (h.passable_iff.mpr hs.passable) fun f => (h.read_perm hd f).symm⟩

theorem decodeScenario_eq_of_rearranged (hd : d.Settled) {entries entries' : List (Node × Node)}
    (h : Relation.EqvGen d.ScenarioStep entries entries') :
    (decodeScenario d (.mapping entries)).toOption = (decodeScenario d (.mapping entries')).toOption := by
  induction h with
  | rel _ _ hstep => exact hstep.decodeScenario_eq hd
  | refl _ => rfl
  | symm _ _ _ ih => exact ih.symm
  | trans _ _ _ _ _ ih ih' => exact ih.trans ih'

theorem isWhole_of_mem_valuesOf {entries : List (Node × Node)} (h : areWholeEntries entries = true) {name : Text}
    {value : Node} (hvalue : value ∈ d.valuesOf name entries) : value.isWhole = true := by
  obtain ⟨entry, hentry, rfl⟩ := List.mem_map.mp hvalue
  exact ((areWholeEntries_iff entries).mp h entry (List.mem_filter.mp hentry).1).2

/-- All keys are scalars, and so are those of expectations. -/
structure HasKeys (d : Document) (entries : List (Node × Node)) : Prop where
  outside : ∀ entry ∈ entries, d.IsText entry.1
  inside : ∀ value ∈ d.valuesOf "expect" entries, ∀ inner, d.resolve value = .mapping inner →
    ∀ entry ∈ inner, d.IsText entry.1

end Document
end BlockHarness.Yaml

/-! ## Texts -/

namespace BlockHarness.Scenario
open Yaml

/-- **Scenarios from mappings.** A mapping with scalar keys is read if and only if no known name is given twice, name,
executable and expectations with a program output are given, texts are scalars and arguments a list of them. What is
read depends on the values of known names alone, whatever else there is and in which order; what is not given is empty
or absent, and a read buffer that is given is expected, even an empty one. -/
theorem ofYaml_mapping (t : Text) (entries : List (Node × Node)) (hcomplete : (Document.ofText t).complete = true)
    (hroot : (Document.ofText t).root = .mapping entries) (hkeys : (Document.ofText t).HasKeys entries) :
    ((∃ s, ofYaml t = .ok s) ↔ (Document.ofText t).IsScenario entries) ∧
    (∀ s, ofYaml t = .ok s → (Document.ofText t).Describes entries s) ∧
    ∀ entries', Relation.EqvGen (Document.ofText t).ScenarioStep entries entries' →
      (decodeScenario (Document.ofText t) (.mapping entries')).toOption = (ofYaml t).toOption := by
  obtain ⟨hd, hwhole⟩ := Document.isWhole_ofText hcomplete
  have hyaml : ofYaml t = decodeScenario (Document.ofText t) (.mapping entries) := by
    rw [ofYaml, Document.toScenario, hroot, hcomplete]
    cases decodeScenario (Document.ofText t) (.mapping entries) <;> rfl
  generalize Document.ofText t = d at *
  have hrecord : d.IsRecord entries := ⟨hkeys.outside, hwhole entries hroot⟩
  have hinner : ∀ value ∈ d.valuesOf "expect" entries, ∀ inner, d.resolve value = .mapping inner → d.IsRecord inner := by
    intro value hvalue inner hnode
    have hvalueWhole := Document.isWhole_of_mem_valuesOf hrecord.whole hvalue
    exact ⟨hkeys.inside value hvalue inner hnode, hd.isWhole_resolve hvalueWhole hnode⟩
  simp only [hyaml, Document.decodeScenario_eq_ok_iff hd]
  refine ⟨(Document.isScenario_iff hd hrecord hinner).symm, fun s hs => hs.describes hd, fun entries' h => ?_⟩
  exact (Document.decodeScenario_eq_of_rearranged hd h).symm

/-- A mapping with a foreign key, a null, and an empty read buffer in front of the program output. -/
def explicit : Text :=
  "note: 1\nname: echo\nexpect: \x7bread_buffer: '', program_output: out\x7d\ndescription: ~\nexecutable: ./x\ninput: in\n"

def explicitEntries : List (Node × Node) :=
  [(.scalar none true "note", .scalar none true "1"), (.scalar none true "name", .scalar none true "echo"),
    (.scalar none true "expect", .mapping [(.scalar none true "read_buffer", .scalar none false []),
      (.scalar none true "program_output", .scalar none true "out")]),
    (.scalar none true "description", .scalar none true "~"), (.scalar none true "executable", .scalar none true "./x"),
    (.scalar none true "input", .scalar none true "in")]

theorem ofText_explicit : Document.ofText explicit = ⟨.mapping explicitEntries, [], true⟩ := by rfl

theorem ofYaml_mapping_explicit :
    ∃ s, ofYaml explicit = .ok s ∧ (Document.ofText explicit).IsScenario explicitEntries ∧
      (Document.ofText explicit).Describes explicitEntries s ∧
      (decodeScenario (Document.ofText explicit) (.mapping explicitEntries.reverse)).toOption = some s ∧
      s.input = "in" ∧ s.expectedReadBuffer = [] := by
  have hs : ofYaml explicit = .ok ⟨"echo", none, "./x", [], "in", ⟨"out", some []⟩, none⟩ := by
    rw [ofYaml, ofText_explicit]
    decide
  have hroot : (Document.ofText explicit).root = .mapping explicitEntries := by rw [ofText_explicit]
  have hcomplete : (Document.ofText explicit).complete = true := by rw [ofText_explicit]
  have hkeys : (Document.ofText explicit).HasKeys explicitEntries := by
    rw [ofText_explicit]
    constructor
    · decide
    · intro value hvalue inner hnode
      obtain rfl := List.mem_singleton.mp hvalue
      cases hnode
      decide
  obtain ⟨hread, hdescribes, hrearranged⟩ := ofYaml_mapping explicit explicitEntries hcomplete hroot hkeys
  have hreversed := hrearranged _ (.rel _ _ (.outside (.reorder (List.reverse_perm _).symm)))
  rw [hs] at hreversed
  exact ⟨_, hs, hread.mp ⟨_, hs⟩, hdescribes _ hs, hreversed, rfl, rfl⟩

/-- A mapping whose name has a tag. -/
def tagged : Text := "name: !!str demo\nexecutable: ./x\nexpect: \x7bprogram_output: out\x7d\n"

/-- Texts need not be without a tag. -/
theorem ofYaml_tagged :
    (∃ s, ofYaml tagged = .ok s) ∧
      ∃ entries, (Document.ofText tagged).root = .mapping entries ∧
        ¬ ∀ value ∈ (Document.ofText tagged).valuesOf "name" entries,
          ∃ isPlain t, (Document.ofText tagged).resolve value = .scalar none isPlain t := by
  have hs : ofYaml tagged = .ok ⟨"demo", none, "./x", [], [], ⟨"out", none⟩, none⟩ := by decide +kernel
  refine ⟨⟨_, hs⟩, _, rfl, fun h => ?_⟩
  obtain ⟨isPlain, t, hnode⟩ := h (.scalar (some (standardTag "str")) true "demo") List.mem_cons_self
  cases hnode

end BlockHarness.Scenario
