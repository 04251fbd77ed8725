import BlockHarness.Proofs.Answer

/-! Records in JSON. What is printed of a record is read back as an object with its members, and the record is decoded
from them; so nothing of a record is lost, and different records are printed differently. -/
namespace BlockHarness
set_option autoImplicit false

/-! ## Values of documents -/

namespace Json

/-- The names of an object's members, in order. -/
def keys : Json → List Text
  | .object members => members.map Prod.fst
  | _ => []

def text? : Json → Option Text
  | .text t => some t
  | _ => none

def boolean? : Json → Option Bool
  | .boolean b => some b
  | _ => none

def items? : Json → Option (List Json)
  | .list items => some items
  | _ => none

/-- A value that may be `null`. -/
def nullable? {α : Type} (decode : Json → Option α) : Json → Option (Option α)
  | .null => some none
  | j => (decode j).map some

theorem nullable?_ofOption {α : Type} {encode : α → Json} {decode : Json → Option α}
    (h : ∀ a, decode (encode a) = some a) (hnull : ∀ a, encode a ≠ .null) (x : Option α) :
    nullable? decode (ofOption encode x) = some x := by
  cases x with
  | none => rfl
  | some a =>
    have hvalue : nullable? decode (encode a) = (decode (encode a)).map some := by
      cases ha : encode a with
      | null => exact absurd ha (hnull a)
      | _ => rfl
    rw [ofOption, hvalue, h, Option.map_some]

theorem mapM_map_eq_some {α : Type} {encode : α → Json} {decode : Json → Option α}
    (h : ∀ a, decode (encode a) = some a) (as : List α) : (as.map encode).mapM decode = some as := by
  induction as with
  | nil => rfl
  | cons a as ih => simp [h, ih]

theorem pretty_injective : Function.Injective pretty := by
  refine injective_of_read (fun t => (read? t).map Prod.fst) fun j => ?_
  rw [← List.append_nil j.pretty, read?_pretty, Option.map_some]

theorem compact_injective : Function.Injective compact := by
  refine injective_of_read (fun t => (read? t).map Prod.fst) fun j => ?_
  rw [← List.append_nil j.compact, read?_compact, Option.map_some]

end Json

/-! ## Decoding -/

/-- The stage with a name in lower case and underscores. -/
def Stage.ofJson? (j : Json) : Option Stage :=
  let names : List (Text × Stage) :=
    [("launch", .launch), ("stderr_check", .stderrCheck), ("parse", .parse), ("comparison", .comparison)]
  j.text?.bind fun name => names.lookup name

def ComparedField.ofJson? (j : Json) : Option ComparedField :=
  let names : List (Text × ComparedField) := [("program_output", .programOutput), ("read_buffer", .readBuffer)]
  j.text?.bind fun name => names.lookup name

def Mismatch.ofJson? (j : Json) : Option Mismatch := do
  let field ← (j.member? "field").bind ComparedField.ofJson?
  let actual ← (j.member? "actual").bind Json.text?
  let expected ← (j.member? "expected").bind Json.text?
  return { field, actual, expected }

def Blocks.ofJson? (j : Json) : Option Blocks := do
  let assembly ← (j.member? "assembly").bind Json.text?
  let machineCode ← (j.member? "machine_code").bind Json.text?
  let programOutput ← (j.member? "program_output").bind Json.text?
  let readBuffer ← (j.member? "read_buffer").bind Json.text?
  return { assembly, machineCode, programOutput, readBuffer }

/-- The record in an object. Its blocks may be left out. -/
def RunResult.ofJson? (j : Json) : Option RunResult := do
  let name ← (j.member? "name").bind Json.text?
  let passed ← (j.member? "passed").bind Json.boolean?
  let failedStage ← (j.member? "failed_stage").bind (Json.nullable? Stage.ofJson?)
  let mismatches ← ((j.member? "mismatches").bind Json.items?).bind (List.mapM Mismatch.ofJson?)
  let error ← (j.member? "error").bind (Json.nullable? Json.text?)
  let blocks ← match j.member? "blocks" with
    | none => some none
    | some value => (Blocks.ofJson? value).map some
  return { name, passed, failedStage, mismatches, error, blocks }

theorem Stage.ofJson?_toJson (s : Stage) : ofJson? s.toJson = some s := by cases s <;> rfl

theorem Mismatch.ofJson?_toJson (m : Mismatch) : ofJson? m.toJson = some m := by
  obtain ⟨field, actual, expected⟩ := m
  cases field <;> rfl

theorem Blocks.ofJson?_toJson (p : Blocks) : ofJson? p.toJson = some p := rfl

theorem Blocks.toJson_injective : Function.Injective Blocks.toJson := injective_of_read ofJson? ofJson?_toJson

/-! ## Documents of records -/

def RunResult.document (r : RunResult) : Text := r.toJson.pretty ++ ['\n']

namespace RunResult

/-- A document holds a record: it has a member for each of its fields, but none for blocks that are absent, and these
hold what stands in the fields. -/
structure IsHeldBy (r : RunResult) (j : Json) : Prop where
  keys : j.keys =
    ["name", "passed", "failed_stage", "mismatches", "error"] ++ if r.blocks.isSome then ["blocks"] else []
  name : j.member? "name" = some (.text r.name)
  passed : j.member? "passed" = some (.boolean r.passed)
  failedStage : (j.member? "failed_stage").bind (Json.nullable? Stage.ofJson?) = some r.failedStage
  failedStage_null : j.member? "failed_stage" = some .null ↔ r.failedStage = none
  mismatches : ∃ items, j.member? "mismatches" = some (.list items) ∧
    items.mapM Mismatch.ofJson? = some r.mismatches
  error : (j.member? "error").bind (Json.nullable? Json.text?) = some r.error
  error_null : j.member? "error" = some .null ↔ r.error = none
  blocks : (j.member? "blocks").bind Blocks.ofJson? = r.blocks
  blocks_ne_null : j.member? "blocks" ≠ some .null
  decoded : ofJson? j = some r

section
variable (r : RunResult)

theorem keys_toJson : r.toJson.keys =
    ["name", "passed", "failed_stage", "mismatches", "error"] ++ if r.blocks.isSome then ["blocks"] else [] := by
  obtain ⟨name, passed, failedStage, mismatches, error, blocks⟩ := r
  cases blocks <;> rfl

theorem failedStage_decoded :
    (r.toJson.member? "failed_stage").bind (Json.nullable? Stage.ofJson?) = some r.failedStage :=
  Json.nullable?_ofOption Stage.ofJson?_toJson nofun r.failedStage

theorem mismatches_decoded : ∃ items, r.toJson.member? "mismatches" = some (.list items) ∧
    items.mapM Mismatch.ofJson? = some r.mismatches :=
  ⟨_, rfl, Json.mapM_map_eq_some Mismatch.ofJson?_toJson r.mismatches⟩

theorem error_decoded : (r.toJson.member? "error").bind (Json.nullable? Json.text?) = some r.error := by
  have htext : ∀ t : Text, Json.text? (.text t) = some t := fun _ => rfl
  have hnull : ∀ t : Text, Json.text t ≠ .null := nofun
  exact Json.nullable?_ofOption htext hnull r.error

theorem member?_blocks : r.toJson.member? "blocks" = r.blocks.map Blocks.toJson := by
  obtain ⟨name, passed, failedStage, mismatches, error, blocks⟩ := r
  cases blocks <;> rfl

theorem ofJson?_toJson : ofJson? r.toJson = some r := by
  have hname : (r.toJson.member? "name").bind Json.text? = some r.name := rfl
  have hpassed : (r.toJson.member? "passed").bind Json.boolean? = some r.passed := rfl
  obtain ⟨items, hitems, hmismatches⟩ := r.mismatches_decoded
  rw [ofJson?, hname, hpassed, failedStage_decoded, hitems, error_decoded, member?_blocks]
  simp only [Option.bind_some, Option.bind_eq_bind, Json.items?, hmismatches]
  obtain ⟨name, passed, failedStage, mismatches, error, blocks⟩ := r
  cases blocks with
  | none => rfl
  | some p => rfl

theorem isHeldBy_toJson : r.IsHeldBy r.toJson where
  keys := r.keys_toJson
  name := rfl
  passed := rfl
  failedStage := r.failedStage_decoded
  failedStage_null := by
    have hmember : r.toJson.member? "failed_stage" = some (Json.ofOption Stage.toJson r.failedStage) := rfl
    rw [hmember]
    cases r.failedStage <;> simp [Json.ofOption, Stage.toJson]
  mismatches := r.mismatches_decoded
  error := r.error_decoded
  error_null := by
    have hmember : r.toJson.member? "error" = some (Json.ofOption .text r.error) := rfl
    rw [hmember]
    cases r.error <;> simp [Json.ofOption]
  blocks := by
    rw [member?_blocks]
    cases r.blocks <;> rfl
  blocks_ne_null := by
    rw [member?_blocks]
    cases r.blocks <;> simp [Blocks.toJson]
  decoded := r.ofJson?_toJson

end

theorem toJson_injective : Function.Injective RunResult.toJson := injective_of_read ofJson? ofJson?_toJson

/-- **The JSON of a record is faithful.** What a run prints for JSON is the document of its record, and every document
is read as one object, with a line break behind it, that holds the record it was made of; so different records have
different documents. Blocks are read back as well, from either of their forms. -/
theorem document_faithful :
    (∀ r : RunResult, ∃ j, Json.read? r.document = some (j, ['\n']) ∧ r.IsHeldBy j) ∧
    (∀ r r' : RunResult, r.document = r'.document ↔ r = r') ∧
    (∀ (request : RunRequest) (settings : Settings) (color : Bool) (scenario : Scenario) (a : Attempt),
      ∃ r, a.result scenario = .ok r ∧
        ({ request with json := true }.respond settings color scenario a).stdout = r.document) ∧
    (∀ p : Blocks, ∃ j, Json.read? p.toJson.compact = some (j, []) ∧ Json.read? p.toJson.pretty = some (j, []) ∧
      j.keys = ["assembly", "machine_code", "program_output", "read_buffer"] ∧ Blocks.ofJson? j = some p) ∧
    ∀ p p' : Blocks,
      (p.toJson.compact = p'.toJson.compact ↔ p = p') ∧ (p.toJson.pretty = p'.toJson.pretty ↔ p = p') := by
  refine ⟨fun r => ⟨r.toJson, Json.read?_pretty _ _, r.isHeldBy_toJson⟩, fun r r' => ⟨fun h => ?_, congrArg document⟩,
    fun request settings color scenario a => ?_, fun p => ⟨p.toJson, ?_, ?_, rfl, p.ofJson?_toJson⟩,
    fun p p' => ⟨?_, ?_⟩⟩
  · exact toJson_injective (Json.pretty_injective (List.append_cancel_right h))
  · obtain ⟨r, hr, -⟩ := Attempt.exists_result_fits scenario a
    exact ⟨r, hr, RunRequest.stdout_respond_of_json hr rfl⟩
  · simpa using Json.read?_compact p.toJson []
  · simpa using Json.read?_pretty p.toJson []
  · exact (Json.compact_injective.comp Blocks.toJson_injective).eq_iff
  · exact (Json.pretty_injective.comp Blocks.toJson_injective).eq_iff

end RunResult
end BlockHarness
