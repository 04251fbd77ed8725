import BlockHarness.Command.Line
import BlockHarness.Proofs.Answer
import BlockHarness.Proofs.Growth
import BlockHarness.Proofs.NormalForm

/-! Extracting all blocks, and extracting one. Both look for every block on the whole text, so what is printed of all of
them is what is printed of each, and where they cannot all be extracted the fault is that of the first one that cannot
be, by the order of their names and not of the text. -/
namespace BlockHarness
set_option autoImplicit false

/-- A response to extracting all blocks goes together with the responses to extracting each of them: it succeeds if all
of them do, and prints what they print between markers; else it gives the failure of the first one that fails. -/
structure Response.Gathers (whole : Response) (single : BlockName → Response) : Prop where
  ok_iff : whole.answer = .ok () ↔ ∀ b, (single b).answer = .ok ()
  stdout_eq : whole.answer = .ok () →
    whole.stdout = BlockName.all.flatMap fun b => b.opening ++ (single b).stdout ++ b.closing
  error_iff : ∀ failure, whole.answer = .error failure ↔
    ∃ b, (∀ a ∈ BlockName.earlier b, (single a).answer = .ok ()) ∧ (single b).answer = .error failure

/-! ## Responses to extracting -/

section Parse
variable {w : World} {file t : Text}

theorem gathers_of_readCaptured_error {failure : Failure} (h : readCaptured w file = .error failure) :
    (parseResponse w file none).Gathers fun b => parseResponse w file (some b) := by
  simp only [parseResponse_of_readCaptured_error h]
  refine ⟨⟨fun h _ => h, fun h => h .assembly⟩, fun h => ?_, fun failure' => ⟨fun h => ?_, ?_⟩⟩
  · cases h
  · exact ⟨.assembly, by simp [BlockName.mem_earlier_iff, BlockName.index], h⟩
  · rintro ⟨b, -, h⟩
    exact h

theorem gathers_of_read_ok {p : Blocks} (h : readCaptured w file = .ok t) (hp : Blocks.read t = .ok p) :
    (parseResponse w file none).Gathers fun b => parseResponse w file (some b) := by
  have hwhole : parseResponse w file none = ⟨p.render, .ok ()⟩ :=
    parseResponse_of_extract_ok h (by rw [extract, hp]; rfl)
  have hsingle (b : BlockName) : parseResponse w file (some b) = ⟨p.get b, .ok ()⟩ :=
    parseResponse_of_extract_ok h ((Blocks.read_eq_ok_iff t p).mp hp b)
  simp only [hwhole, hsingle]
  refine ⟨⟨fun _ _ => rfl, fun _ => rfl⟩, fun _ => rfl, fun failure => ⟨fun h => ?_, ?_⟩⟩
  · cases h
  · rintro ⟨b, -, h⟩
    cases h

theorem gathers_of_read_error {fault : BlockFault} (h : readCaptured w file = .ok t)
    (hf : Blocks.read t = .error fault) :
    (parseResponse w file none).Gathers fun b => parseResponse w file (some b) := by
  obtain ⟨hfault, hearlier⟩ := (Blocks.read_eq_error_iff t fault).mp hf
  have hwhole : parseResponse w file none = .refuse (.block fault) :=
    parseResponse_of_extract_error h (by rw [extract, hf]; rfl)
  have hfirst : parseResponse w file (some fault.block) = .refuse (.block fault) :=
    parseResponse_of_extract_error h hfault
  have hbefore : ∀ a ∈ fault.block.earlier, (parseResponse w file (some a)).answer = .ok () := by
    intro a ha
    obtain ⟨c, hc⟩ := hearlier a ((BlockName.mem_earlier_iff a _).mp ha)
    have hok : parseResponse w file (some a) = ⟨c, .ok ()⟩ := parseResponse_of_extract_ok h hc
    rw [hok]
  rw [hwhole]
  refine ⟨⟨fun hok => ?_, fun hall => ?_⟩, fun hok => ?_, fun failure => ⟨fun he => ?_, ?_⟩⟩
  · cases hok
  · have hok := hall fault.block
    rw [hfirst] at hok
    cases hok
  · cases hok
  · exact ⟨fault.block, hbefore, by rw [hfirst]; exact he⟩
  · rintro ⟨b, hb, he⟩
    -- of two names that fail, the later one has the earlier one in front of it
    rcases Nat.lt_trichotomy b.index fault.block.index with hlt | heq | hgt
    · rw [hbefore b ((BlockName.mem_earlier_iff _ _).mpr hlt)] at he
      cases he
    · rw [BlockName.index_injective heq, hfirst] at he
      exact he
    · have hok := hb fault.block ((BlockName.mem_earlier_iff _ _).mpr hgt)
      rw [hfirst] at hok
      cases hok

theorem gathers_parseResponse (w : World) (file : Text) :
    (parseResponse w file none).Gathers fun b => parseResponse w file (some b) := by
  cases h : readCaptured w file with
  | error failure => exact gathers_of_readCaptured_error h
  | ok t =>
    cases hr : Blocks.read t with
    | error fault => exact gathers_of_read_error h hr
    | ok p => exact gathers_of_read_ok h hr

end Parse

/-! ## Command lines -/

/-- The command line that asks for the blocks in a file: for all, or for one by name. -/
def parseLine (file : Text) (block : Option BlockName) : List Text :=
  ("parse" : Text) :: file ::
    match block with
    | none => []
    | some b => ["--block", b.literal]

/-- Whether an argument stands for a file: it does not look like an option, unless it is a single dash. -/
def IsOperand (file : Text) : Prop := file = ['-'] ∨ ∃ c rest, file = c :: rest ∧ c ≠ '-'

theorem IsOperand.ne_nil {file : Text} (h : IsOperand file) : file ≠ [] := by
  rcases h with rfl | ⟨c, rest, rfl, -⟩ <;> exact List.cons_ne_nil _ _

theorem IsOperand.read?_cons {file : Text} (h : IsOperand file) (specs : List OptionSpec) (a : Arguments)
    (rest : List Text) :
    Arguments.read? specs a none (file :: rest) =
      Arguments.read? specs { a with positional := file :: a.positional } none rest := by
  rcases h with rfl | ⟨c, cs, rfl, hc⟩
  · rfl
  · simp [Arguments.read?, hc]

theorem read?_parseLine {file : Text} (h : IsOperand file) (block : Option BlockName) :
    Arguments.read? parseOptions {} none (parseLine file block).tail =
      some ⟨(block.map fun b => (("block" : Text), b.literal)).toList, [file]⟩ := by
  have htail : (parseLine file block).tail = file :: (parseLine file block).drop 2 := rfl
  rw [htail, h.read?_cons]
  rcases block with _ | b
  · rfl
  · cases b <;> rfl

theorem BlockName.ofText?_literal (b : BlockName) : ofText? b.literal = some b := by cases b <;> decide

theorem parseOfArguments?_parseLine {file : Text} (h : IsOperand file) (block : Option BlockName) :
    parseOfArguments? (parseLine file block).tail = some (.parse file block) := by
  rw [parseOfArguments?, read?_parseLine h]
  rcases block with _ | b
  · simp [h.ne_nil, Arguments.value?]
  · simp [h.ne_nil, Arguments.value?, BlockName.ofText?_literal]

theorem ofArguments?_parseLine {file : Text} (h : IsOperand file) (block : Option BlockName) :
    Request.ofArguments? (parseLine file block) = some (.command (.parse file block)) := by
  have hrequest : Request.ofArguments? (parseLine file block) =
      (parseOfArguments? (parseLine file block).tail).map .command := rfl
  rw [hrequest, parseOfArguments?_parseLine h]
  rfl

/-- **Extracting all blocks and extracting one agree.** From whatever file, extracting all blocks succeeds exactly if
extracting each of them does, and prints what that prints between the markers of the block; if it fails, it does so as
extracting the first block does that cannot be extracted, by the order of the names. The program does so when it is
asked for a file, and for a block by its name. -/
theorem dispatch_parse_gathers (w : World) (color : Bool) (file : Text) :
    (((Command.parse file none).dispatch w color).1.Gathers fun b =>
      ((Command.parse file (some b)).dispatch w color).1) ∧
    (IsOperand file → ∀ block, (runProgram w color (parseLine file block)).1 =
      ((Command.parse file block).dispatch w color).1.exit) :=
  ⟨gathers_parseResponse w file,
    fun h block => RunRequest.runProgram_command (ofArguments?_parseLine h block) w color⟩

/-- A block inside another one that is never closed, with the markers of a third one around its end. -/
def entangled : Text :=
  "BEGIN read buffer\nBEGIN assembly\nEND program output\nretEND assembly\nBEGIN program output\n"

theorem dispatch_parse_gathers_entangled :
    ((Command.parse "-" none).dispatch (piped entangled) true).1.answer =
        .error (.block ⟨.missingBegin, .machineCode⟩) ∧
      ((Command.parse "-" (some .readBuffer)).dispatch (piped entangled) true).1.answer =
        .error (.block ⟨.missingEnd, .readBuffer⟩) ∧
      (runProgram (piped entangled) true (parseLine "-" none)).1.failure =
        some (.block ⟨.missingBegin, .machineCode⟩) ∧
      (runProgram (piped entangled) true (parseLine "-" (some .assembly))).1.stdout = "END program output\nret" := by
  obtain ⟨hgathers, hprogram⟩ := dispatch_parse_gathers (piped entangled) true "-"
  have hwhole := (hgathers.error_iff (.block ⟨.missingBegin, .machineCode⟩)).mpr
    ⟨.machineCode, by decide +kernel, by decide +kernel⟩
  refine ⟨hwhole, by decide +kernel, ?_, ?_⟩
  · rw [hprogram (.inl rfl) none, Response.exit, hwhole]
  · rw [hprogram (.inl rfl) (some .assembly)]
    decide +kernel

end BlockHarness
