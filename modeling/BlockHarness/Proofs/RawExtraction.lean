import BlockHarness.Proofs.Execution
import BlockHarness.Proofs.Separators

/-! Blocks in captured octets. All markers are written in octets below `0x80`, at which lossy reading falls apart, so
looking for markers in the text that is read and looking for their octets in what was captured find the same
stretches; a run that finds what it expects has captured exactly the octets of it. -/
namespace BlockHarness
set_option autoImplicit false

/-! ## Words of single octets -/

namespace Utf8

/-- Every character of a text is written in one octet. -/
def IsAscii (t : Text) : Prop := ∀ c ∈ t, c.toNat < 0x80

theorem encode_cons_ascii {c : Char} (h : c.toNat < 0x80) (t : Text) :
    encode (c :: t) = c.toNat.toUInt8 :: encode t := by
  simp [encode, encodeChar_ascii h]

theorem decodeLossy_append_char (a b : Octets) {c : Char} (h : c.toNat < 0x80) :
    decodeLossy (a ++ c.toNat.toUInt8 :: b) = decodeLossy a ++ c :: decodeLossy b := by
  have hx : c.toNat.toUInt8.toNat = c.toNat := toNat_toUInt8 (by omega)
  rw [decodeLossy_append_ascii a b (by omega), hx, Char.ofNat_toNat]

theorem decodeLossy_append_word (a b : Octets) {t : Text} (h : IsAscii t) (hne : t ≠ []) :
    decodeLossy (a ++ encode t ++ b) = decodeLossy a ++ t ++ decodeLossy b := by
  obtain ⟨c, t, rfl⟩ := List.exists_cons_of_ne_nil hne
  have hc : c.toNat < 0x80 := h c List.mem_cons_self
  rw [encode_cons_ascii hc, List.append_assoc, List.cons_append, decodeLossy_append_char a _ hc,
    decodeLossy_encode_append]
  simp

/-- A character below `0x80` is read only of its own octet, between what is read of the octets on either side. -/
theorem exists_of_decodeLossy_eq {octets : Octets} {u v : Text} {c : Char} (hc : c.toNat < 0x80)
    (h : decodeLossy octets = u ++ c :: v) :
    ∃ a b, octets = a ++ c.toNat.toUInt8 :: b ∧ decodeLossy a = u ∧ decodeLossy b = v := by
  by_cases hx : ∀ x ∈ octets, 0x80 ≤ x.toNat
  · have := high_of_mem_decodeLossy hx (c := c) (by rw [h]; simp)
    omega
  · obtain ⟨x, hmem, hlow⟩ : ∃ x ∈ octets, x.toNat < 0x80 := by simpa using hx
    obtain ⟨a, b, rfl⟩ := List.append_of_mem hmem
    rw [decodeLossy_append_ascii a b hlow] at h
    -- the octet at hand is the one looked for, or that one is on one of its two sides
    rcases append_cons_eq_append_cons h with ⟨z, ha, hv⟩ | ⟨z, hu, hb⟩ | ⟨ha, he, hb⟩
    · obtain ⟨p, q, rfl, hp, hq⟩ := exists_of_decodeLossy_eq hc ha
      refine ⟨p, q ++ x :: b, by simp, hp, ?_⟩
      rw [decodeLossy_append_ascii q b hlow, hq, hv]
    · obtain ⟨p, q, rfl, hp, hq⟩ := exists_of_decodeLossy_eq hc hb
      refine ⟨a ++ x :: p, q, by simp, ?_, hq⟩
      rw [decodeLossy_append_ascii a p hlow, hp, hu]
    · have hx : c.toNat.toUInt8 = x := by
        rw [← he, toNat_ofNat (.inl (by omega))]
        exact UInt8.ofNat_toNat
      exact ⟨a, b, by rw [hx], ha, hb⟩
termination_by octets.length

theorem exists_of_decodeLossy_eq_append {octets : Octets} {t v : Text} (ht : IsAscii t)
    (h : decodeLossy octets = t ++ v) : ∃ b, octets = encode t ++ b ∧ decodeLossy b = v := by
  induction t generalizing octets with
  | nil => exact ⟨octets, rfl, h⟩
  | cons c t ih =>
    have hc : c.toNat < 0x80 := ht c List.mem_cons_self
    obtain ⟨a, b, rfl, ha, hb⟩ := exists_of_decodeLossy_eq (u := []) hc h
    obtain ⟨b', rfl, hb'⟩ := ih (fun d hd => ht d (List.mem_cons_of_mem c hd)) hb
    rw [(decodeLossy_eq_nil_iff a).mp ha, encode_cons_ascii hc]
    exact ⟨b', rfl, hb'⟩

/-- A word of single octets is read exactly where its octets are. -/
theorem infix_decodeLossy_iff {t : Text} (ht : IsAscii t) (hne : t ≠ []) (octets : Octets) :
    t <:+: decodeLossy octets ↔ encode t <:+: octets := by
  constructor
  · rintro ⟨u, v, h⟩
    obtain ⟨c, t, rfl⟩ := List.exists_cons_of_ne_nil hne
    have hc : c.toNat < 0x80 := ht c List.mem_cons_self
    have h' : decodeLossy octets = u ++ c :: (t ++ v) := by simpa using h.symm
    obtain ⟨a, b, rfl, -, hb⟩ := exists_of_decodeLossy_eq hc h'
    obtain ⟨b', rfl, -⟩ := exists_of_decodeLossy_eq_append (fun d hd => ht d (List.mem_cons_of_mem c hd)) hb
    exact ⟨a, b', by simp [encode_cons_ascii hc]⟩
  · rintro ⟨a, b, rfl⟩
    exact ⟨decodeLossy a, decodeLossy b, (decodeLossy_append_word a b ht hne).symm⟩

end Utf8

/-! ## One block -/

namespace BlockName
open Utf8

/-- The octets of a block's content, found in captured octets by the octets of its markers. -/
def findRaw (b : BlockName) (octets : Octets) : Except BlockFault Octets :=
  match between (encode b.opening) (encode b.closing) octets with
  | .ok (start, stop) => .ok (slice octets start stop)
  | .error fault => .error ⟨fault, b⟩

theorem isAscii_of_mem_markers {m : Text} (h : m ∈ markers) : IsAscii m := by
  have hall : ∀ m ∈ markers, m.all (fun c => c.toNat < 0x80) = true := by decide
  intro c hc
  exact of_decide_eq_true (List.all_eq_true.mp (hall m h) c hc)

theorem rawBrackets (b : BlockName) : Brackets 0x0A (encode b.opening) (encode b.closing) :=
  Marker.separators_octets.brackets (nofun : Marker.opening b ≠ Marker.closing b)

section Markers
variable {m : Text} (hm : m ∈ markers)
include hm

theorem decodeLossy_append_marker (a b : Octets) :
    decodeLossy (a ++ encode m ++ b) = decodeLossy a ++ m ++ decodeLossy b :=
  decodeLossy_append_word a b (isAscii_of_mem_markers hm) (endedBy_of_mem_markers hm).ne_nil

theorem marker_infix_decodeLossy_iff (octets : Octets) : m <:+: decodeLossy octets ↔ encode m <:+: octets :=
  infix_decodeLossy_iff (isAscii_of_mem_markers hm) (endedBy_of_mem_markers hm).ne_nil octets

end Markers

theorem cut_decodeLossy {b : BlockName} {octets u c v : Octets}
    (h : Cut (encode b.opening) (encode b.closing) octets u c v) :
    Cut b.opening b.closing (decodeLossy octets) (decodeLossy u) (decodeLossy c) (decodeLossy v) where
  eq_append := by
    rw [h.eq_append, decodeLossy_append_marker b.closing_mem_markers, decodeLossy_append_marker b.opening_mem_markers]
  front_opening := (not_congr (marker_infix_decodeLossy_iff b.opening_mem_markers u)).mpr h.front_opening
  front_closing := (not_congr (marker_infix_decodeLossy_iff b.closing_mem_markers u)).mpr h.front_closing
  content_closing := (not_congr (marker_infix_decodeLossy_iff b.closing_mem_markers c)).mpr h.content_closing

theorem crossed_decodeLossy {b : BlockName} {octets u v : Octets}
    (h : Crossed (encode b.opening) (encode b.closing) octets u v) :
    Crossed b.opening b.closing (decodeLossy octets) (decodeLossy u) (decodeLossy v) where
  eq_append := by rw [h.eq_append, decodeLossy_append_marker b.closing_mem_markers]
  front_opening := (not_congr (marker_infix_decodeLossy_iff b.opening_mem_markers u)).mpr h.front_opening
  front_closing := (not_congr (marker_infix_decodeLossy_iff b.closing_mem_markers u)).mpr h.front_closing
  back_opening := (marker_infix_decodeLossy_iff b.opening_mem_markers v).mpr h.back_opening

/-- Extraction and lossy reading may change places. -/
theorem find_decodeLossy (b : BlockName) (octets : Octets) :
    b.find (decodeLossy octets) = (b.findRaw octets).map decodeLossy := by
  have ho := marker_infix_decodeLossy_iff b.opening_mem_markers octets
  have hc := marker_infix_decodeLossy_iff b.closing_mem_markers octets
  rw [findRaw]
  split
  next start stop h =>
    obtain ⟨u, c, v, hcut, rfl, rfl⟩ := (between_eq_ok_iff b.rawBrackets _ _).mp h
    rw [hcut.slice_eq]
    exact (find_eq_ok_iff b _ _).mpr ⟨_, _, cut_decodeLossy hcut⟩
  next fault h =>
    refine (find_eq_fault_iff b _ _).mpr ?_
    cases fault with
    | missingBegin => exact between_eq_missingBegin_iff.mpr ((not_congr ho).mpr (between_eq_missingBegin_iff.mp h))
    | missingEnd =>
      obtain ⟨h1, h2⟩ := between_eq_missingEnd_iff.mp h
      exact between_eq_missingEnd_iff.mpr ⟨ho.mpr h1, (not_congr hc).mpr h2⟩
    | outOfOrder =>
      obtain ⟨u, v, hx⟩ := (between_eq_outOfOrder_iff b.rawBrackets).mp h
      exact (between_eq_outOfOrder_iff b.brackets).mpr ⟨_, _, crossed_decodeLossy hx⟩

end BlockName

/-! ## A whole run -/

namespace Attempt
open Utf8

variable {a : Attempt} {scenario : Scenario}

theorem findRaw_of_execute {p : Blocks} (h : a.execute scenario = .ok (p, [])) {field : ComparedField}
    (hr : replacement ∉ field.expected scenario) :
    field.block.findRaw a.stdout = .ok (encode (field.expected scenario)) := by
  obtain ⟨-, -, hread, hm⟩ := execute_eq_ok_iff.mp h
  have hget := (compare_eq_nil_iff p scenario).mp hm.symm field
  have hfind := (Blocks.read_eq_ok_iff _ p).mp hread field.block
  rw [hget, BlockName.find_decodeLossy] at hfind
  cases hraw : field.block.findRaw a.stdout with
  | error f => rw [hraw] at hfind; cases hfind
  | ok c =>
    have hc : decodeLossy c = field.expected scenario := by rw [hraw] at hfind; exact Except.ok.inj hfind
    rw [← hc] at hr ⊢
    rw [encode_decodeLossy hr]

theorem checkStderr_of_capture {captured : Captured} (h : a.capture scenario = .ok captured) :
    captured.checkStderr = .ok () ↔ a.stderr = [] := by
  have hl : ¬ a.FailsLaunch := by
    intro hl
    obtain ⟨program, reason, hc⟩ := exists_capture_eq_error hl scenario
    rw [hc] at h
    cases h
  rw [capture_eq_ok hl] at h
  cases h
  rw [Captured.checkStderr_eq_ok_iff, decodeLossy_eq_nil_iff]

/-- **Lossy reading hides nothing.** Text survives it; it may change places with extraction, so that a block is found
in what was read exactly if it is found in the octets; where a run lists no mismatch and expects no replacement
character, the octets of what it expects were captured; and the error stream reads as empty only if it was. -/
theorem lossy_reading (scenario : Scenario) :
    (∀ t : Text, decodeLossy (encode t) = t) ∧
    (∀ (b : BlockName) (octets : Octets), b.find (decodeLossy octets) = (b.findRaw octets).map decodeLossy) ∧
    (∀ (a : Attempt) (p : Blocks), a.execute scenario = .ok (p, []) →
      (∀ field : ComparedField, replacement ∉ field.expected scenario) →
      ∀ field : ComparedField, field.block.findRaw a.stdout = .ok (encode (field.expected scenario))) ∧
    (∀ (a : Attempt) (captured : Captured), a.capture scenario = .ok captured →
      (captured.checkStderr = .ok () ↔ a.stderr = [])) := by
  refine ⟨decodeLossy_encode, BlockName.find_decodeLossy, ?_, ?_⟩
  · intro a p h hr field
    exact findRaw_of_execute h (hr field)
  · intro a captured h
    exact checkStderr_of_capture h

/-- A run with octets of no text in front of its blocks, between them, and in the ones that are not compared, each
time just in front of a marker. -/
def torn : Attempt :=
  .launched "demo" (.ended {
    feeding := .complete
    status := .exited 0
    stdout := [0xFF, 0xC3] ++ encode "BEGIN assembly\n" ++ [0xE2, 0x82] ++ encode "END assembly\n" ++ [0xED, 0xA0] ++
      encode "BEGIN machine code\n" ++ [0xF0, 0x9F, 0x98] ++ encode "END machine code\nBEGIN program output\n" ++
      encode "é\n" ++ encode "END program output\n" ++ [0xC0] ++ encode "BEGIN read buffer\nyankeeEND read buffer\n"
    stderr := [] })

def tornScenario : Scenario where
  name := "torn"
  description := none
  executable := "demo"
  args := []
  input := "yankee"
  expect := ⟨"é\n", none⟩
  baseDir := none

theorem lossy_reading_torn :
    torn.execute tornScenario = .ok (⟨"\uFFFD", "\uFFFD", "é\n", "yankee"⟩, []) ∧
      BlockName.programOutput.findRaw torn.stdout = .ok [0xC3, 0xA9, 0x0A] := by
  have hrun : torn.execute tornScenario = .ok (⟨"\uFFFD", "\uFFFD", "é\n", "yankee"⟩, []) := by decide +kernel
  have hplain : ∀ field : ComparedField, replacement ∉ field.expected tornScenario := by
    intro field
    cases field <;> decide
  exact ⟨hrun, (lossy_reading tornScenario).2.2.1 torn _ hrun hplain .programOutput⟩

end Attempt
end BlockHarness
