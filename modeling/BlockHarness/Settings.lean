import BlockHarness.Data.Fault
import BlockHarness.Scenario.Basic
import BlockHarness.Toml.Document
import BlockHarness.World.Environment

/-! Settings of the harness, read from a TOML document. A settings table may also be given as the list of its fields
in order; what is not given keeps its default, and keys that mean nothing are passed over. -/
namespace BlockHarness
set_option autoImplicit false

/-- What is run when no scenario file is given. -/
structure Defaults where
  executable : Text := Scenario.referenceExecutable
  input : Text := Scenario.referenceInput
  deriving DecidableEq, Repr

/-- How a run is reported. -/
structure ReportSettings where
  dumpBlocksOnFailure : Bool := true
  color : Bool := true
  deriving DecidableEq, Repr

structure Settings where
  defaults : Defaults := {}
  report : ReportSettings := {}
  deriving DecidableEq, Repr

end BlockHarness

namespace BlockHarness.Toml
set_option autoImplicit false
open Data

/-! ## Values -/

/-- A value as a found one. A date counts as a map of a kind that is not written. -/
def Value.found : Value → Found
  | .text t => .text t
  | .integer i => .integer i
  | .floating x => .floating x
  | .boolean b => .boolean b
  | .list _ | .tables _ => .sequence
  | .datetime | .table _ _ => .map

/-- The fault of a value that stands where another kind is due. -/
def mistyped {α : Type} (v : Value) (due : Due) : Except Fault α := .error (.wrongType [] v.found due)

def decodeText (due : Due) : Value → Except Fault Text
  | .text t => .ok t
  | v => mistyped v due

def decodeBoolean : Value → Except Fault Bool
  | .boolean b => .ok b
  | v => mistyped v .boolean

/-! ## Records -/

/-- The values of a record by field name. The items of a list belong to the fields in order; items beyond the last
field are left out. -/
def recordFields (name : Text) (fields : List Text) : Value → Except Fault Entries
  | .table _ entries => .ok entries
  | .datetime => .ok []
  | .list items => .ok (fields.zip items)
  | .tables items => .ok (fields.zip (items.map (.table .header)))
  | v => mistyped v (.record name)

/-- Reads the fields of a record one after the other. -/
def decodeFields {σ : Type} (take : σ → Text → Value → Except Fault σ) : σ → Entries → Except Fault σ
  | draft, [] => .ok draft
  | draft, (name, value) :: rest => do
    let draft ← take draft name value
    decodeFields take draft rest

/-- The defaults that a table has given so far. -/
structure DefaultsDraft where
  executable : Option Text := none
  input : Option Text := none

def takeDefault (draft : DefaultsDraft) (name : Text) (value : Value) : Except Fault DefaultsDraft :=
  if name = "executable" then (decodeText .path value).map fun v => { draft with executable := some v }
  else if name = "input" then (decodeText .text value).map fun v => { draft with input := some v }
  else .ok draft

/-- Reads the defaults. What the table leaves out is as in the reference scenario. -/
def decodeDefaults (value : Value) : Except Fault Defaults := do
  let entries ← recordFields "Defaults" ["executable", "input"] value
  let draft ← decodeFields takeDefault {} entries
  return {
    executable := draft.executable.getD Scenario.referenceExecutable
    input := draft.input.getD Scenario.referenceInput }

/-- The report settings that a table has given so far. -/
structure ReportDraft where
  dumpBlocksOnFailure : Option Bool := none
  color : Option Bool := none

def takeReportSetting (draft : ReportDraft) (name : Text) (value : Value) : Except Fault ReportDraft :=
  if name = "dump_blocks_on_failure" then
    (decodeBoolean value).map fun v => { draft with dumpBlocksOnFailure := some v }
  else if name = "color" then (decodeBoolean value).map fun v => { draft with color := some v }
  else .ok draft

/-- Reads the report settings. What the table leaves out is switched on. -/
def decodeReportSettings (value : Value) : Except Fault ReportSettings := do
  let entries ← recordFields "ReportConfig" ["dump_blocks_on_failure", "color"] value
  let draft ← decodeFields takeReportSetting {} entries
  return { dumpBlocksOnFailure := draft.dumpBlocksOnFailure.getD true, color := draft.color.getD true }

/-- The tables of the settings that a document has given so far. -/
structure SettingsDraft where
  defaults : Option Defaults := none
  report : Option ReportSettings := none

def takeSetting (draft : SettingsDraft) (name : Text) (value : Value) : Except Fault SettingsDraft :=
  if name = "defaults" then (decodeDefaults value).map fun v => { draft with defaults := some v }
  else if name = "report" then (decodeReportSettings value).map fun v => { draft with report := some v }
  else .ok draft

/-- Reads the settings from the table of a document. A table that the document leaves out is the one that there is
without a document. -/
def decodeSettings (entries : Entries) : Except Fault Settings := do
  let draft ← decodeFields takeSetting {} entries
  return { defaults := draft.defaults.getD {}, report := draft.report.getD {} }

end BlockHarness.Toml

namespace BlockHarness

def Settings.ofToml (t : Text) : Except Data.Fault Settings :=
  match Toml.read? t with
  | none => .error .malformed
  | some entries => Toml.decodeSettings entries

end BlockHarness

namespace BlockHarness.Settings

/-! ## The settings file -/

def loadFrom (w : World) (path : Text) : Except Failure Settings := do
  let t ← (w.readText path).mapError (.fileRead path)
  (ofToml t).mapError fun fault => .settings (.decoding fault)

/-- Reads the settings of the environment. Without a settings file all of them have their defaults. -/
def load (w : World) : Except Failure Settings :=
  if w.files.isPresent w.env.configPath then loadFrom w w.env.configPath else .ok {}

theorem load_of_isPresent {w : World} (h : w.files.isPresent w.env.configPath = true) :
    load w = loadFrom w w.env.configPath := if_pos h

theorem load_of_not_isPresent {w : World} (h : w.files.isPresent w.env.configPath = false) : load w = .ok {} :=
  if_neg (Bool.eq_false_iff.mp h)

end BlockHarness.Settings
