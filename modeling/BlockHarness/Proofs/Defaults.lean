import BlockHarness.Proofs.Fields
import BlockHarness.Settings
import Mathlib.Logic.Relation

/-! Settings and their defaults. The default of a setting is the same where a document leaves out its table and where
its table leaves out the setting, and the form of the table makes no difference to what is given. -/
namespace BlockHarness.Toml
set_option autoImplicit false
open Data

/-! ## Settings -/

inductive Setting where
  | executable
  | input
  | dumpBlocksOnFailure
  | color
  deriving DecidableEq

namespace Setting

def table : Setting → Text
  | executable | input => "defaults"
  | dumpBlocksOnFailure | color => "report"

/-- The names of the settings in a table, in order. -/
def names : Setting → List Text
  | executable | input => ["executable", "input"]
  | dumpBlocksOnFailure | color => ["dump_blocks_on_failure", "color"]

def name : Setting → Text
  | executable => "executable"
  | input => "input"
  | dumpBlocksOnFailure => "dump_blocks_on_failure"
  | color => "color"

/-- What a document gives for a setting. -/
def given? (f : Setting) (es : Entries) : Option Value := (es.lookup f.table).bind (Value.field? f.names f.name)

/-- Whether a value is of the type of a setting. -/
def accepts : Setting → Value → Prop
  | executable, v | input, v => ∃ t, v = .text t
  | dumpBlocksOnFailure, v | color, v => ∃ b, v = .boolean b

theorem name_mem_names (f : Setting) : f.name ∈ f.names := by cases f <;> decide

end Setting

/-- The settings that a document gives, and the defaults of those that it does not. -/
@[mk_iff]
structure Gives (es : Entries) (s : Settings) : Prop where
  executable : Has .text ({} : Settings).defaults.executable (Setting.executable.given? es) s.defaults.executable
  input : Has .text ({} : Settings).defaults.input (Setting.input.given? es) s.defaults.input
  dumpBlocksOnFailure : Has .boolean ({} : Settings).report.dumpBlocksOnFailure
    (Setting.dumpBlocksOnFailure.given? es) s.report.dumpBlocksOnFailure
  color : Has .boolean ({} : Settings).report.color (Setting.color.given? es) s.report.color

/-- Whether the tables of the settings, where they are given, have fields. -/
def HasRecords (es : Entries) : Prop := ∀ f : Setting, ∀ value, es.lookup f.table = some value → value.isRecord = true

/-! ## Tables of settings -/

def GivesDefaults (field? : Text → Option Value) (s : Defaults) : Prop :=
  Has .text Scenario.referenceExecutable (field? "executable") s.executable ∧
    Has .text Scenario.referenceInput (field? "input") s.input

def GivesReport (field? : Text → Option Value) (s : ReportSettings) : Prop :=
  Has .boolean true (field? "dump_blocks_on_failure") s.dumpBlocksOnFailure ∧ Has .boolean true (field? "color") s.color

theorem decodeText_eq_ok_iff (due : Due) (v : Value) (t : Text) : decodeText due v = .ok t ↔ v = .text t := by
  cases v <;> simp [decodeText, mistyped]

theorem decodeBoolean_eq_ok_iff (v : Value) (b : Bool) : decodeBoolean v = .ok b ↔ v = .boolean b := by
  cases v <;> simp [decodeBoolean, mistyped]

theorem takesTwo_defaults :
    TakesTwo DefaultsDraft.mk "executable" "input" (decodeText .path) (decodeText .text) takeDefault :=
  ⟨by decide, fun _ _ _ _ => rfl⟩

theorem takesTwo_report :
    TakesTwo ReportDraft.mk "dump_blocks_on_failure" "color" decodeBoolean decodeBoolean takeReportSetting :=
  ⟨by decide, fun _ _ _ _ => rfl⟩

theorem takesTwo_settings : TakesTwo SettingsDraft.mk "defaults" "report" decodeDefaults decodeReportSettings takeSetting :=
  ⟨by decide, fun _ _ _ _ => rfl⟩

theorem decodeDefaults_eq_ok_iff {value : Value} (hvalue : value.IsTree) {s : Defaults} :
    decodeDefaults value = .ok s ↔
      value.isRecord = true ∧ GivesDefaults (fun name => value.field? Setting.executable.names name) s := by
  refine takesTwo_defaults.decode_eq_ok_iff "Defaults" hvalue (decodeText_eq_ok_iff .path) (decodeText_eq_ok_iff .text)
    fun executable input s => ?_
  obtain ⟨executable', input'⟩ := s
  rw [Defaults.mk.injEq]

theorem decodeReportSettings_eq_ok_iff {value : Value} (hvalue : value.IsTree) {s : ReportSettings} :
    decodeReportSettings value = .ok s ↔
      value.isRecord = true ∧ GivesReport (fun name => value.field? Setting.color.names name) s := by
  refine takesTwo_report.decode_eq_ok_iff "ReportConfig" hvalue decodeBoolean_eq_ok_iff decodeBoolean_eq_ok_iff
    fun dump color s => ?_
  obtain ⟨dump', color'⟩ := s
  rw [ReportSettings.mk.injEq]

/-- **Two sets of defaults.** A table that is left out has the settings of a table that leaves out all of them. -/
theorem reads_record_iff {τ : Type} {read : Value → Except Fault τ} {default : τ} {names : List Text}
    {Given : (Text → Option Value) → τ → Prop}
    (hread : ∀ value, value.IsTree → ∀ s,
      read value = .ok s ↔ value.isRecord = true ∧ Given (fun name => value.field? names name) s)
    (hdefault : ∀ s, Given (fun _ => none) s ↔ default = s)
    {given : Option Value} (hgiven : ∀ value, given = some value → value.IsTree) {s : τ} :
    (∃ x, Reads read none given x ∧ x.getD default = s) ↔
      (∀ value, given = some value → value.isRecord = true) ∧
        Given (fun name => given.bind (Value.field? names name)) s := by
  cases given with
  | none => simpa [Reads] using (hdefault s).symm
  | some value =>
    have hvalue := hread value (hgiven value rfl)
    simp only [Reads, Option.some.injEq, Option.bind_some, forall_eq']
    constructor
    · rintro ⟨_, ⟨s', hs', rfl⟩, rfl⟩
      exact (hvalue s').mp hs'
    · intro h
      exact ⟨some s, ⟨s, (hvalue s).mpr h, rfl⟩, rfl⟩

theorem givesDefaults_none_iff (s : Defaults) : GivesDefaults (fun _ => none) s ↔ {} = s := by
  obtain ⟨executable, input⟩ := s
  simp [GivesDefaults, Has, eq_comm]

theorem givesReport_none_iff (s : ReportSettings) : GivesReport (fun _ => none) s ↔ {} = s := by
  obtain ⟨dump, color⟩ := s
  simp [GivesReport, Has, eq_comm]

/-- **Settings of a document.** -/
theorem decodeSettings_eq_ok_iff {es : Entries} (hes : es.IsTree) {s : Settings} :
    decodeSettings es = .ok s ↔ HasRecords es ∧ Gives es s := by
  have hdefaults : (∃ x, Reads decodeDefaults none (es.lookup Setting.executable.table) x ∧ x.getD {} = s.defaults) ↔
      (∀ value, es.lookup Setting.executable.table = some value → value.isRecord = true) ∧
        GivesDefaults (fun name => (es.lookup Setting.executable.table).bind (Value.field? Setting.executable.names name))
          s.defaults :=
    reads_record_iff (fun _ h _ => decodeDefaults_eq_ok_iff h) givesDefaults_none_iff fun _ => hes.of_lookup
  have hreport : (∃ x, Reads decodeReportSettings none (es.lookup Setting.color.table) x ∧ x.getD {} = s.report) ↔
      (∀ value, es.lookup Setting.color.table = some value → value.isRecord = true) ∧
        GivesReport (fun name => (es.lookup Setting.color.table).bind (Value.field? Setting.color.names name)) s.report :=
    reads_record_iff (fun _ h _ => decodeReportSettings_eq_ok_iff h) givesReport_none_iff fun _ => hes.of_lookup
  have hdecode : decodeSettings es = .ok s ↔
      (∃ x, Reads decodeDefaults none (es.lookup Setting.executable.table) x ∧ x.getD {} = s.defaults) ∧
        ∃ x, Reads decodeReportSettings none (es.lookup Setting.color.table) x ∧ x.getD {} = s.report := by
    rw [decodeSettings, bind_eq_ok_iff]
    constructor
    · rintro ⟨draft, hdraft, hs⟩
      obtain ⟨a, b, rfl, ha, hb⟩ := (takesTwo_settings.decodeFields_eq_ok_iff hes.keys).mp hdraft
      cases hs
      exact ⟨⟨a, ha, rfl⟩, b, hb, rfl⟩
    · rintro ⟨⟨a, ha, hdefaults⟩, b, hb, hreport⟩
      refine ⟨⟨a, b⟩, (takesTwo_settings.decodeFields_eq_ok_iff hes.keys).mpr ⟨a, b, rfl, ha, hb⟩, ?_⟩
      rw [hdefaults, hreport]
      rfl
  rw [hdecode, hdefaults, hreport]
  constructor
  · rintro ⟨⟨hrecord, hexecutable, hinput⟩, hrecord', hdump, hcolor⟩
    refine ⟨?_, hexecutable, hinput, hdump, hcolor⟩
    rintro ⟨⟩
    · exact hrecord
    · exact hrecord
    · exact hrecord'
    · exact hrecord'
  · rintro ⟨hrecords, hexecutable, hinput, hdump, hcolor⟩
    exact ⟨⟨hrecords .executable, hexecutable, hinput⟩, hrecords .color, hdump, hcolor⟩

/-! ## Faults -/

theorem exists_has_iff {α : Type} {value : α → Value} {default : α} {given : Option Value} :
    (∃ a, Has value default given a) ↔ ∀ v, given = some v → ∃ a, v = value a := by
  cases given with
  | none => simp [Has]
  | some v => simp [Has]

theorem exists_gives_iff {es : Entries} : (∃ s, Gives es s) ↔ ∀ f v, Setting.given? f es = some v → f.accepts v := by
  constructor
  · rintro ⟨s, hexecutable, hinput, hdump, hcolor⟩ f
    cases f with
    | executable => exact exists_has_iff.mp ⟨_, hexecutable⟩
    | input => exact exists_has_iff.mp ⟨_, hinput⟩
    | dumpBlocksOnFailure => exact exists_has_iff.mp ⟨_, hdump⟩
    | color => exact exists_has_iff.mp ⟨_, hcolor⟩
  · intro h
    obtain ⟨executable, hexecutable⟩ := exists_has_iff.mpr (h .executable)
    obtain ⟨input, hinput⟩ := exists_has_iff.mpr (h .input)
    obtain ⟨dump, hdump⟩ := exists_has_iff.mpr (h .dumpBlocksOnFailure)
    obtain ⟨color, hcolor⟩ := exists_has_iff.mpr (h .color)
    exact ⟨⟨⟨executable, input⟩, ⟨dump, color⟩⟩, hexecutable, hinput, hdump, hcolor⟩

/-- **Faults of a document.** Where the tables have fields, only a given setting of another type is a fault. -/
theorem decodeSettings_eq_none_iff {es : Entries} (hes : es.IsTree) (hrecords : HasRecords es) :
    (decodeSettings es).toOption = none ↔ ∃ f v, Setting.given? f es = some v ∧ ¬ f.accepts v := by
  have hok : (∃ s, (decodeSettings es).toOption = some s) ↔ ∀ f v, Setting.given? f es = some v → f.accepts v := by
    rw [← exists_gives_iff]
    refine exists_congr fun s => ?_
    rw [toOption_eq_some_iff, decodeSettings_eq_ok_iff hes, and_iff_right hrecords]
  rw [← Option.not_isSome_iff_eq_none, Option.isSome_iff_exists, hok]
  simp only [Classical.not_forall, exists_prop]

/-! ## Forms -/

/-- A value without what stands inside of it if it is a table. -/
def Value.outline : Value → Value
  | .table _ _ => .table .header []
  | v => v

/-- What a setting depends on: whether its table has fields, and what is given of the setting itself. -/
def Setting.view (f : Setting) (table : Option Value) : Bool × Option Value :=
  (table.all Value.isRecord, (table.bind (Value.field? f.names f.name)).map Value.outline)

/-- A change of a table of settings that means nothing: another order or origin, a key that is not a setting, another
table where there is a table inside, or another form. -/
inductive TableStep (names : List Text) : Value → Value → Prop where
  | reorder (origin origin' : Origin) {entries entries' : Entries} (h : entries.Perm entries') :
      TableStep names (.table origin entries) (.table origin' entries')
  | insert (origin : Origin) {n : Text} (value : Value) (entries : Entries) (hn : n ∉ names) :
      TableStep names (.table origin entries) (.table origin ((n, value) :: entries))
  | within (origin origin₁ origin₂ : Origin) (n : Text) (inner₁ inner₂ entries : Entries) :
      TableStep names (.table origin ((n, .table origin₁ inner₁) :: entries))
        (.table origin ((n, .table origin₂ inner₂) :: entries))
  | list (origin : Origin) (items : List Value) : TableStep names (.table origin (names.zip items)) (.list items)
  | tables (items : List Entries) : TableStep names (.list (items.map (.table .header))) (.tables items)

/-- A change of a document that means nothing to the settings. -/
inductive SettingsStep : Entries → Entries → Prop where
  | reorder {es es' : Entries} (h : es.Perm es') : SettingsStep es es'
  | insert {n : Text} (value : Value) (es : Entries) (hn : ∀ f : Setting, n ≠ f.table) :
      SettingsStep es ((n, value) :: es)
  | insertTable (f : Setting) (origin : Origin) (es : Entries) : SettingsStep es ((f.table, .table origin []) :: es)
  | inside (f : Setting) {value value' : Value} (es : Entries) (h : TableStep f.names value value') :
      SettingsStep ((f.table, value) :: es) ((f.table, value') :: es)

/-- Documents that come from each other by changes that mean nothing, with no key twice on the way. -/
def Varies : Entries → Entries → Prop :=
  Relation.EqvGen fun es es' => es.IsTree ∧ es'.IsTree ∧ SettingsStep es es'

theorem TableStep.view_eq {f : Setting} {value value' : Value} (h : TableStep f.names value value') (hvalue : value.IsTree)
    (hvalue' : value'.IsTree) : f.view (some value) = f.view (some value') := by
  simp only [Setting.view, Option.all_some, Option.bind_some]
  cases h with
  | reorder origin origin' hperm =>
    have hlookup := Entries.lookup_eq_of_perm (Entries.isTree_table_iff.mp hvalue) (Entries.isTree_table_iff.mp hvalue')
      hperm f.name
    simp only [Value.isRecord, Value.field?, hlookup]
  | @insert origin n value entries hn =>
    have hne : f.name ≠ n := fun e => hn (e ▸ f.name_mem_names)
    simp only [Value.isRecord, Value.field?, Entries.lookup_cons_of_ne hne]
  | within origin origin₁ origin₂ n inner₁ inner₂ entries =>
    simp only [Value.isRecord, Value.field?]
    by_cases hname : f.name = n
    · subst hname
      rw [Entries.lookup_cons_self, Entries.lookup_cons_self]
      rfl
    · rw [Entries.lookup_cons_of_ne hname, Entries.lookup_cons_of_ne hname]
  | list origin items => simp only [Value.isRecord, Value.field?, lookup_zip f.name_mem_names]
  | tables items => simp only [Value.isRecord, Value.field?, List.getElem?_map]

theorem Setting.names_eq_of_table_eq {f g : Setting} (h : g.table = f.table) : g.names = f.names := by
  revert h
  cases f <;> cases g <;> decide

theorem SettingsStep.view_eq {es es' : Entries} (h : SettingsStep es es') (hes : es.IsTree) (hes' : es'.IsTree)
    (g : Setting) : g.view (es.lookup g.table) = g.view (es'.lookup g.table) := by
  cases h with
  | reorder hperm => rw [Entries.lookup_eq_of_perm hes hes' hperm]
  | insert value es hn => rw [Entries.lookup_cons_of_ne (hn g).symm]
  | insertTable f origin es =>
    by_cases hg : g.table = f.table
    · -- a table cannot be added where one is, since then its key would be there twice
      have habsent : es.lookup f.table = none := Entries.lookup_eq_none_iff.mpr (List.nodup_cons.mp hes'.keys).1
      rw [hg, habsent, Entries.lookup_cons_self]
      rfl
    · rw [Entries.lookup_cons_of_ne hg]
  | @inside f value value' es h =>
    by_cases hg : g.table = f.table
    · rw [hg, Entries.lookup_cons_self, Entries.lookup_cons_self]
      rw [← Setting.names_eq_of_table_eq hg] at h
      exact h.view_eq (hes.values _ List.mem_cons_self) (hes'.values _ List.mem_cons_self)
    · rw [Entries.lookup_cons_of_ne hg, Entries.lookup_cons_of_ne hg]

theorem has_congr {α : Type} {value : α → Value} (hvalue : ∀ v a, v.outline = value a ↔ v = value a) {default a : α}
    {given given' : Option Value} (h : given.map Value.outline = given'.map Value.outline) :
    Has value default given a ↔ Has value default given' a := by
  have houtline (g : Option Value) : Has value default (g.map Value.outline) a ↔ Has value default g a := by
    cases g with
    | none => rfl
    | some v => exact hvalue v a
  rw [← houtline given, h, houtline]

theorem outline_eq_text_iff (v : Value) (t : Text) : v.outline = .text t ↔ v = .text t := by
  cases v <;> simp [Value.outline]

theorem outline_eq_boolean_iff (v : Value) (b : Bool) : v.outline = .boolean b ↔ v = .boolean b := by
  cases v <;> simp [Value.outline]

section
variable {es es' : Entries} (h : ∀ f : Setting, f.view (es.lookup f.table) = f.view (es'.lookup f.table))
include h

theorem hasRecords_congr : HasRecords es ↔ HasRecords es' := by
  have hall (es : Entries) : HasRecords es ↔ ∀ f : Setting, (es.lookup f.table).all Value.isRecord = true := by
    simp only [HasRecords, Option.all_eq_true]
  have hrecord (f : Setting) : (es.lookup f.table).all Value.isRecord = (es'.lookup f.table).all Value.isRecord :=
    congrArg Prod.fst (h f)
  simp only [hall, hrecord]

theorem gives_congr (s : Settings) : Gives es s ↔ Gives es' s := by
  have hgiven (f : Setting) : (f.given? es).map Value.outline = (f.given? es').map Value.outline := congrArg Prod.snd (h f)
  -- texts and booleans are seen in full from outside, so what is inside of tables does not matter
  rw [gives_iff, gives_iff, has_congr outline_eq_text_iff (hgiven .executable),
    has_congr outline_eq_text_iff (hgiven .input), has_congr outline_eq_boolean_iff (hgiven .dumpBlocksOnFailure),
    has_congr outline_eq_boolean_iff (hgiven .color)]

end

theorem Varies.decodeSettings_eq {es es' : Entries} (h : Varies es es') :
    (decodeSettings es).toOption = (decodeSettings es').toOption := by
  induction h with
  | rel es es' hstep =>
    obtain ⟨hes, hes', hstep⟩ := hstep
    have hview := hstep.view_eq hes hes'
    refine Option.ext fun s => ?_
    rw [toOption_eq_some_iff, toOption_eq_some_iff, decodeSettings_eq_ok_iff hes, decodeSettings_eq_ok_iff hes',
      hasRecords_congr hview, gives_congr hview]
  | refl _ => rfl
  | symm _ _ _ ih => exact ih.symm
  | trans _ _ _ _ _ ih ih' => exact ih.trans ih'

/-- **Foreign keys.** A document of nothing else has all defaults. -/
theorem decodeSettings_of_foreign {es : Entries} (hes : es.IsTree) (h : ∀ entry ∈ es, ∀ f : Setting, entry.1 ≠ f.table) :
    decodeSettings es = .ok {} := by
  have habsent (f : Setting) : es.lookup f.table = none := by
    refine Entries.lookup_eq_none_iff.mpr fun hmem => ?_
    obtain ⟨entry, hentry, he⟩ := List.mem_map.mp hmem
    exact h entry hentry f he
  have hgiven (f : Setting) : f.given? es = none := by
    rw [Setting.given?, habsent]
    rfl
  refine (decodeSettings_eq_ok_iff hes).mpr ⟨fun f value hvalue => ?_, ?_⟩
  · rw [habsent] at hvalue
    cases hvalue
  · simp only [gives_iff, hgiven, Has, and_self]

end BlockHarness.Toml

/-! ## Files -/

namespace BlockHarness.Settings
open Toml

theorem loadFrom_toOption {w : World} {path t : Text} {entries : Entries} (ht : w.readText path = .ok t)
    (hread : read? t = some entries) : (loadFrom w path).toOption = (decodeSettings entries).toOption := by
  refine Option.ext fun s => ?_
  rw [toOption_eq_some_iff, toOption_eq_some_iff, loadFrom, bind_eq_ok_iff]
  simp [mapError_eq_ok_iff, ht, ofToml, hread]

theorem loadFrom_eq_ok_iff {w : World} {path t : Text} {entries : Entries} (ht : w.readText path = .ok t)
    (hread : read? t = some entries) {s : Settings} : loadFrom w path = .ok s ↔ decodeSettings entries = .ok s := by
  rw [← toOption_eq_some_iff, loadFrom_toOption ht hread, toOption_eq_some_iff]

/-- **Settings from files.** Each setting is the given one or the default, whatever the others are. The settings depend
on what is given for each and not on the form of a document, and only a given setting of another type is a fault.
Without a file, or where a file gives nothing, all settings are the defaults. -/
theorem loadFrom_defaults (w : World) (path t : Text) (entries : Entries) (ht : w.readText path = .ok t)
    (hread : read? t = some entries) :
    (∀ s, loadFrom w path = .ok s → Gives entries s) ∧
    (∀ entries', Varies entries entries' → (decodeSettings entries').toOption = (loadFrom w path).toOption ∧
      ∀ w' path' t', w'.readText path' = .ok t' → read? t' = some entries' →
        (loadFrom w' path').toOption = (loadFrom w path).toOption) ∧
    (HasRecords entries →
      ((∃ e, loadFrom w path = .error e) ↔ ∃ f v, Setting.given? f entries = some v ∧ ¬ f.accepts v)) ∧
    ((∀ entry ∈ entries, ∀ f : Setting, entry.1 ≠ f.table) → loadFrom w path = .ok {}) ∧
    (∀ (w' : World) (path' : Text), w'.readText path' = .ok [] → loadFrom w' path' = .ok {}) ∧
    ∀ w' : World, w'.files.isPresent w'.env.configPath = false → load w' = .ok {} := by
  have hes : entries.IsTree := isTree_read? hread
  have hload (s : Settings) : loadFrom w path = .ok s ↔ decodeSettings entries = .ok s := loadFrom_eq_ok_iff ht hread
  refine ⟨fun s hs => ?_, fun entries' hvaries => ?_, fun hrecords => ?_, fun hforeign => ?_, fun w' path' ht' => ?_,
    fun w' habsent => ?_⟩
  · exact ((decodeSettings_eq_ok_iff hes).mp ((hload s).mp hs)).2
  · have heq : (decodeSettings entries').toOption = (loadFrom w path).toOption := by
      rw [loadFrom_toOption ht hread, hvaries.decodeSettings_eq]
    exact ⟨heq, fun w' path' t' ht' hread' => (loadFrom_toOption ht' hread').trans heq⟩
  · rw [← decodeSettings_eq_none_iff hes hrecords, ← loadFrom_toOption ht hread]
    cases loadFrom w path <;> simp [Except.toOption]
  · exact (hload {}).mpr (decodeSettings_of_foreign hes hforeign)
  · have hempty : read? [] = some [] := rfl
    exact (loadFrom_eq_ok_iff ht' hempty).mpr rfl
  · exact load_of_not_isPresent habsent

/-- A document that gives two settings, one of them in a list, and foreign keys. -/
def partly : Text := "defaults = [\"./demo\"]\ncolor = 1\n[report]\nnote = 1\ncolor = false\n"

/-- Its entries with the given defaults. -/
def partlyEntries (defaults : Value) : Entries :=
  [("defaults", defaults), ("color", .integer 1),
    ("report", .table .header [("note", .integer 1), ("color", .boolean false)])]

/-- A document with a number for a color. -/
def mistaken : Text := "report = [true, 1]\n"

def mistakenEntries : Entries := [("report", .list [.boolean true, .integer 1])]

/-- A world with one file. -/
def holding (t : Text) : World := ⟨⟨[(["s"], .file (Utf8.encode t) false)], []⟩, ⟨none, none, none⟩, []⟩

theorem loadFrom_defaults_partly :
    let s : Settings := ⟨⟨"./demo", Scenario.referenceInput⟩, ⟨true, false⟩⟩
    loadFrom (holding partly) "s" = .ok s ∧ Gives (partlyEntries (.list [.text "./demo"])) s ∧
      (decodeSettings (partlyEntries (.table .header [("executable", .text "./demo")]))).toOption = some s ∧
      (∃ e, loadFrom (holding mistaken) "s" = .error e) ∧
      loadFrom (holding "color = 1\n") "s" = .ok {} ∧ loadFrom (holding []) "s" = .ok {} ∧
      load (holding partly) = .ok {} := by
  intro s
  have hs : loadFrom (holding partly) "s" = .ok s := by decide +kernel
  have ht : (holding partly).readText "s" = .ok partly := by decide +kernel
  have hread : read? partly = some (partlyEntries (.list [.text "./demo"])) := by rfl
  have hes := isTree_read? hread
  have hvalue : Value.IsTree (.table .header [("executable", .text "./demo")]) :=
    Entries.isTree_table_iff.mpr ⟨by decide, List.forall_mem_singleton.mpr (.text _)⟩
  have hvaries : Varies (partlyEntries (.list [.text "./demo"]))
      (partlyEntries (.table .header [("executable", .text "./demo")])) :=
    .symm _ _ (.rel _ _ ⟨hes.replace "defaults" hvalue, hes, .inside .executable _ (.list .header [.text "./demo"])⟩)
  obtain ⟨hgives, hsame, -, -, hempty, hmissing⟩ := loadFrom_defaults _ _ _ _ ht hread
  obtain ⟨-, -, hfault, -⟩ := loadFrom_defaults (holding mistaken) "s" mistaken mistakenEntries (by decide +kernel) rfl
  obtain ⟨-, -, -, hforeign, -⟩ :=
    loadFrom_defaults (holding "color = 1\n") "s" "color = 1\n" [("color", .integer 1)] (by decide +kernel) rfl
  refine ⟨hs, hgives s hs, (hsame _ hvaries).1.trans (by rw [hs]; rfl), (hfault ?_).mpr ?_, hforeign ?_,
    hempty _ _ (by decide +kernel), hmissing _ (by decide +kernel)⟩
  · intro f value hlookup
    cases f with
    | dumpBlocksOnFailure | color => cases hlookup; rfl
    | executable | input => cases hlookup
  · refine ⟨.color, .integer 1, rfl, ?_⟩
    rintro ⟨b, hb⟩
    cases hb
  · intro entry hentry f
    obtain rfl := List.mem_singleton.mp hentry
    cases f <;> decide

end BlockHarness.Settings
