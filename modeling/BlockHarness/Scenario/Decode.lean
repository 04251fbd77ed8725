import BlockHarness.Scenario.Basic
import BlockHarness.Yaml.Typing

/-! Scenarios from YAML. Entries are read in the order of the text, and the first thing that is wrong is the fault;
missing fields come after all entries, and a malformed text after everything that stands before the place. Keys
that mean nothing to a scenario are passed over, even repeated ones. -/
namespace BlockHarness.Yaml
set_option autoImplicit false
open Data

/-! ## Values -/

/-- Reads a text: any scalar, by the characters it stands for. -/
def decodeText (d : Document) (place : Place) (due : Data.Due) (node : Node) : Except Fault Text :=
  match d.resolve node with
  | .scalar _ _ t => .ok t
  | .sequence _ => .error (.wrongType place .sequence due)
  | .mapping _ => .error (.wrongType place .map due)
  | _ => .error .malformed

/-- Reads an optional text: plain nulls are absent. A null tag on other text is a fault of the record at `outer`. -/
def decodeOptional (d : Document) (outer place : Place) (node : Node) : Except Fault (Option Text) :=
  match d.resolve node with
  | .scalar none true t => .ok (if t = [] ∨ isNullWord t then none else some t)
  | .scalar (some tag) true t =>
    if tag = standardTag "null" then
      if isNullWord t then .ok none else .error (.wrongValue outer t .null)
    else .ok (some t)
  | node => (decodeText d place .text node).map some

/-- Reads the items of a list of texts, the first of which has position `index`. -/
def decodeItems (d : Document) (place : Place) (index : Nat) : List Node → Except Fault (List Text)
  | [] => .ok []
  | node :: rest => do
    let item ← decodeText d (place ++ [.item index]) .text node
    let items ← decodeItems d place (index + 1) rest
    return item :: items

/-- Reads a list of texts. A scalar that is not written is an empty list. -/
def decodeTexts (d : Document) (place : Place) (node : Node) : Except Fault (List Text) :=
  match d.resolve node with
  | .sequence items => decodeItems d place 0 items
  | .scalar tag isPlain t =>
    if isPlain && t.isEmpty then .ok [] else .error (scalarFault place .sequence tag isPlain t)
  | .mapping _ => .error (.wrongType place .map .sequence)
  | _ => .error .malformed

/-! ## Records -/

/-- The key of an entry by name, and the step that leads from the record to its value. -/
def decodeKey (d : Document) (place : Place) (node : Node) : Except Fault (Text × Step) :=
  match node with
  | .«alias» _ => (decodeText d place .fieldName node).map fun name => (name, .namelessKey)
  | _ => (decodeText d place .fieldName node).map fun name => (name, .key name)

/-- Reads the entries of a record one after the other. -/
def decodeEntries {σ : Type} (d : Document) (place : Place)
    (take : σ → Text → Place → Node → Except Fault σ) : σ → List (Node × Node) → Except Fault σ
  | draft, [] => .ok draft
  | draft, (key, value) :: rest => do
    let (name, step) ← decodeKey d place key
    let draft ← take draft name (place ++ [step]) value
    decodeEntries d place take draft rest

/-- The entries of a record; there are none where nothing is written. -/
def recordEntries (d : Document) (place : Place) (name : Text) (node : Node) :
    Except Fault (List (Node × Node)) :=
  match d.resolve node with
  | .mapping entries => .ok entries
  | .void => .ok []
  | .scalar tag isPlain t =>
    if isPlain && t.isEmpty then .ok [] else .error (scalarFault place (.record name) tag isPlain t)
  | .sequence _ => .error (.wrongType place .sequence (.record name))
  | _ => .error .malformed

/-- Passes over a value that means nothing. It need not make sense, but it must have an end. -/
def skipValue {α : Type} (result : α) (value : Node) : Except Fault α :=
  if value.isWhole then .ok result else .error .malformed

/-- Reads a field that may be given only once. -/
def once {α : Type} (place : Place) (name : Text) (before : Option α) (value : Except Fault α) :
    Except Fault (Option α) :=
  match before with
  | some _ => .error (.duplicateField place name)
  | none => value.map some

/-- A field that has to be given. -/
def needed {α : Type} (place : Place) (name : Text) (given : Option α) : Except Fault α :=
  match given with
  | some a => .ok a
  | none => .error (.missingField place name)

/-! ## Expectations -/

/-- The fields of expectations that have been read so far. -/
structure ExpectationsDraft where
  programOutput : Option Text := none
  readBuffer : Option (Option Text) := none

def ExpectationsDraft.take (d : Document) (outer : Place) (draft : ExpectationsDraft) (name : Text)
    (place : Place) (value : Node) : Except Fault ExpectationsDraft :=
  if name = "program_output" then
    (once outer name draft.programOutput (decodeText d place .text value)).map fun v =>
      { draft with programOutput := v }
  else if name = "read_buffer" then
    (once outer name draft.readBuffer (decodeOptional d outer place value)).map fun v =>
      { draft with readBuffer := v }
  else skipValue draft value

def decodeExpectations (d : Document) (place : Place) (node : Node) : Except Fault Expectations := do
  let entries ← recordEntries d place "Expectations" node
  let draft ← decodeEntries d place (ExpectationsDraft.take d place) {} entries
  let programOutput ← needed place "program_output" draft.programOutput
  return { programOutput, readBuffer := draft.readBuffer.join }

/-! ## Scenarios -/

/-- The fields of a scenario that have been read so far. -/
structure ScenarioDraft where
  name : Option Text := none
  description : Option (Option Text) := none
  executable : Option Text := none
  args : Option (List Text) := none
  input : Option Text := none
  expect : Option Expectations := none

def ScenarioDraft.take (d : Document) (outer : Place) (draft : ScenarioDraft) (name : Text)
    (place : Place) (value : Node) : Except Fault ScenarioDraft :=
  if name = "name" then
    (once outer name draft.name (decodeText d place .text value)).map fun v => { draft with name := v }
  else if name = "description" then
    (once outer name draft.description (decodeOptional d outer place value)).map fun v =>
      { draft with description := v }
  else if name = "executable" then
    (once outer name draft.executable (decodeText d place .path value)).map fun v => { draft with executable := v }
  else if name = "args" then
    (once outer name draft.args (decodeTexts d place value)).map fun v => { draft with args := v }
  else if name = "input" then
    (once outer name draft.input (decodeText d place .text value)).map fun v => { draft with input := v }
  else if name = "expect" then
    (once outer name draft.expect (decodeExpectations d place value)).map fun v => { draft with expect := v }
  else skipValue draft value

def decodeScenario (d : Document) (node : Node) : Except Fault Scenario := do
  let entries ← recordEntries d [] "Scenario" node
  let draft ← decodeEntries d [] (ScenarioDraft.take d []) {} entries
  let name ← needed [] "name" draft.name
  let executable ← needed [] "executable" draft.executable
  let expect ← needed [] "expect" draft.expect
  return {
    name, executable, expect
    description := draft.description.join
    args := draft.args.getD []
    input := draft.input.getD []
    baseDir := none }

/-- Reads a scenario from a document, which must be complete. -/
def Document.toScenario (d : Document) : Except Fault Scenario := do
  let scenario ← decodeScenario d d.root
  if d.complete then return scenario else throw .malformed

end BlockHarness.Yaml

namespace BlockHarness

/-- Reads a scenario from YAML. It has no base directory yet. -/
def Scenario.ofYaml (t : Text) : Except Data.Fault Scenario := (Yaml.Document.ofText t).toScenario

end BlockHarness
