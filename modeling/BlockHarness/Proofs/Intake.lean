import BlockHarness.Command.Basic
import BlockHarness.Proofs.Execution

/-! Two ways in for captured output. What a process puts out is read lossily, and so always; what comes from a file or
from the standard input is read strictly, and so only if it is UTF-8. On UTF-8 the two are the same, and then
extracting blocks answers as a run does; on anything else a run goes on and extracting is refused. -/
namespace BlockHarness
set_option autoImplicit false

/-! ## Strict reading -/

namespace Utf8

theorem pieces_encode (t : Text) : pieces (encode t) = t.map some := by
  rw [pieces, Reader.foldl_feed_encode, Reader.finish_behind]
  simp [Reader.finish, Reader.start]

theorem eq_map_some_of_all_isSome {read : List (Option Char)} (h : read.all Option.isSome = true) :
    read = (read.filterMap id).map some := by
  induction read with
  | nil => rfl
  | cons piece read ih =>
    obtain ⟨hp, hr⟩ : piece.isSome = true ∧ read.all Option.isSome = true := by simpa using h
    obtain ⟨c, rfl⟩ := Option.isSome_iff_exists.mp hp
    have hc : id (some c) = some c := rfl
    rw [List.filterMap_cons_some hc, List.map_cons, ← ih hr]

/-- Strict reading accepts what was written, and nothing else. -/
theorem decode?_eq_some_iff (octets : Octets) (t : Text) : decode? octets = some t ↔ octets = encode t := by
  constructor
  · intro h
    simp only [decode?] at h
    split at h
    next hall =>
      have hp : pieces octets = t.map some := (Option.some.inj h) ▸ eq_map_some_of_all_isSome hall
      have hnone : none ∉ (pieces octets).reverse := by simp [hp]
      have he := (covered_pieces octets).encode_eq hnone
      rw [List.reverse_reverse, hp, List.map_map] at he
      simpa [Function.comp_def] using he.symm
    next => cases h
  · rintro rfl
    simp [decode?, pieces_encode]

end Utf8

/-! ## Sources -/

/-- Some octets come from a source that is named on the command line: from the standard input, or from a file. -/
def World.Supplies (w : World) (source : Text) (octets : Octets) : Prop :=
  if isStandardInput source then w.input = octets
  else '\x00' ∉ source ∧ w.files.read source [(0, w.input)] = .ok octets

/-- The refusal of a source that is not UTF-8. -/
def notUtf8 (source : Text) : Failure :=
  if isStandardInput source then .io .notUtf8 else .fileRead source .notUtf8

section
variable {w : World} {source : Text} {octets : Octets}

theorem readCaptured_of_decode_none (h : w.Supplies source octets) (hd : Utf8.decode? octets = none) :
    readCaptured w source = .error (notUtf8 source) := by
  unfold World.Supplies at h
  rw [readCaptured, notUtf8]
  split at h
  next hs =>
    rw [if_pos hs, if_pos hs, h, hd]
  next hs =>
    obtain ⟨hnul, hread⟩ := h
    rw [if_neg hs, if_neg hs, World.readText, if_neg (by simpa using hnul), hread]
    simp only [hd]
    rfl

theorem readCaptured_of_encode {t : Text} (h : w.Supplies source (Utf8.encode t)) : readCaptured w source = .ok t := by
  have hd : Utf8.decode? (Utf8.encode t) = some t := (Utf8.decode?_eq_some_iff _ t).mpr rfl
  unfold World.Supplies at h
  rw [readCaptured]
  split at h
  next hs =>
    rw [if_pos hs, h, hd]
  next hs =>
    obtain ⟨hnul, hread⟩ := h
    rw [if_neg hs, World.readText, if_neg (by simpa using hnul), hread]
    simp only [hd]
    rfl

theorem parseResponse_of_readCaptured_error {failure : Failure} (h : readCaptured w source = .error failure)
    (block : Option BlockName) : parseResponse w source block = .refuse failure := by
  rw [parseResponse, h]

theorem parseResponse_of_extract_ok {t : Text} {block : Option BlockName} {shown : Text}
    (h : readCaptured w source = .ok t) (he : extract t block = .ok shown) :
    parseResponse w source block = ⟨shown, .ok ()⟩ := by
  simp only [parseResponse, h, he]

theorem parseResponse_of_extract_error {t : Text} {block : Option BlockName} {fault : BlockFault}
    (h : readCaptured w source = .ok t) (he : extract t block = .error fault) :
    parseResponse w source block = .refuse (.block fault) := by
  simp only [parseResponse, h, he]

theorem parseResponse_of_decode_none (h : w.Supplies source octets) (hd : Utf8.decode? octets = none)
    (block : Option BlockName) : parseResponse w source block = .refuse (notUtf8 source) :=
  parseResponse_of_readCaptured_error (readCaptured_of_decode_none h hd) block

theorem parseResponse_of_read_ok {t : Text} {p : Blocks} (h : w.Supplies source (Utf8.encode t))
    (hr : Blocks.read t = .ok p) : parseResponse w source none = ⟨p.render, .ok ()⟩ :=
  parseResponse_of_extract_ok (readCaptured_of_encode h) (by rw [extract, hr]; rfl)

theorem parseResponse_of_read_error {t : Text} {f : BlockFault} (h : w.Supplies source (Utf8.encode t))
    (hr : Blocks.read t = .error f) : parseResponse w source none = .refuse (.block f) :=
  parseResponse_of_extract_error (readCaptured_of_encode h) (by rw [extract, hr]; rfl)

end

/-! ## Extracting and running -/

/-- Extracting all blocks from a source answers as a run does: it prints the blocks that the run extracts, and where the
run fails for its blocks it fails for the same reason. -/
structure AgreesWithRun (w : World) (source : Text) (scenario : Scenario) (a : Attempt) : Prop where
  ok : ∀ blocks mismatches, a.execute scenario = .ok (blocks, mismatches) →
    parseResponse w source none = ⟨blocks.render, .ok ()⟩
  error : ∀ failure, a.execute scenario = .error failure → failure.stage? = some .parse →
    parseResponse w source none = .refuse failure

section
variable {w : World} {source : Text} {scenario : Scenario} {a : Attempt} (hl : ¬ a.FailsLaunch) (he : a.stderr = [])
  (hs : w.Supplies source a.stdout)
include hl he hs

theorem agreesWithRun_of_encode {t : Text} (ht : a.stdout = Utf8.encode t) : AgreesWithRun w source scenario a := by
  have hsource : w.Supplies source (Utf8.encode t) := ht ▸ hs
  have hlossy : Utf8.decodeLossy a.stdout = t := by rw [ht, Utf8.decodeLossy_encode]
  constructor
  · intro p mismatches h
    obtain ⟨-, -, hr, -⟩ := Attempt.execute_eq_ok_iff.mp h
    rw [hlossy] at hr
    exact parseResponse_of_read_ok hsource hr
  · intro failure h hstage
    cases hr : Blocks.read t with
    | ok p =>
      rw [Attempt.execute_of_read_ok hl he (hlossy ▸ hr)] at h
      cases h
    | error f =>
      rw [Attempt.execute_of_read_error hl he (hlossy ▸ hr)] at h
      cases h
      exact parseResponse_of_read_error hsource hr

theorem not_agreesWithRun_of_decode_none (hd : Utf8.decode? a.stdout = none) : ¬ AgreesWithRun w source scenario a := by
  intro h
  have hrefuse := parseResponse_of_decode_none hs hd none
  cases hr : Blocks.read (Utf8.decodeLossy a.stdout) with
  | ok p =>
    have hok := h.ok _ _ (Attempt.execute_of_read_ok hl he hr)
    rw [hrefuse] at hok
    cases hok
  | error f =>
    have herror := h.error _ (Attempt.execute_of_read_error hl he hr) rfl
    rw [hrefuse, notUtf8] at herror
    split at herror <;> cases herror

end

/-- **When extracting answers as a run does.** A process has ended well and put out some octets, and a source supplies
the same ones. Extracting the blocks from the source answers as the run of the process does exactly if the octets are
those of a text; if they are not, extracting is refused whatever the run has made of them. -/
theorem agreesWithRun_iff {w : World} {source : Text} {a : Attempt} (scenario : Scenario) (hl : ¬ a.FailsLaunch)
    (he : a.stderr = []) (hs : w.Supplies source a.stdout) :
    (AgreesWithRun w source scenario a ↔ ∃ t, a.stdout = Utf8.encode t) ∧
      ((¬ ∃ t, a.stdout = Utf8.encode t) → parseResponse w source none = .refuse (notUtf8 source)) := by
  cases hd : Utf8.decode? a.stdout with
  | none =>
    have hno : ¬ ∃ t, a.stdout = Utf8.encode t := by
      rintro ⟨t, ht⟩
      rw [(Utf8.decode?_eq_some_iff _ t).mpr ht] at hd
      cases hd
    exact ⟨iff_of_false (not_agreesWithRun_of_decode_none hl he hs hd) hno,
      fun _ => parseResponse_of_decode_none hs hd none⟩
  | some t =>
    have ht : a.stdout = Utf8.encode t := (Utf8.decode?_eq_some_iff _ t).mp hd
    exact ⟨iff_of_true (agreesWithRun_of_encode hl he hs ht) ⟨t, ht⟩, fun hno => absurd ⟨t, ht⟩ hno⟩

/-- Four blocks, with some octets for machine code. -/
def octetsWith (code : Octets) : Octets :=
  Utf8.encode "BEGIN assembly\nret\nEND assembly\nBEGIN machine code\n" ++ code ++
    Utf8.encode "END machine code\nBEGIN program output\n1\nEND program output\nBEGIN read buffer\nyankeeEND read buffer\n"

/-- A process that has ended well and put out such blocks. -/
def emitted (code : Octets) : Attempt := .launched "demo" (.ended ⟨.complete, .exited 0, octetsWith code, []⟩)

/-- A directory with such blocks in a file, while the same come from the standard input. -/
def saved (code : Octets) : World :=
  ⟨⟨[(["out"], .file (octetsWith code) false)], []⟩, ⟨none, none, none⟩, octetsWith code⟩

/-- What is expected of such a process. -/
def emittedScenario : Scenario := { Scenario.reference with expect := ⟨"1\n", none⟩ }

theorem not_failsLaunch_emitted (code : Octets) : ¬ (emitted code).FailsLaunch := by
  simp [emitted, Attempt.FailsLaunch]

theorem agreesWithRun_iff_accented :
    ¬ (emitted [0xC3, 0xA9]).FailsLaunch ∧ (emitted [0xC3, 0xA9]).stderr = [] ∧
      (saved [0xC3, 0xA9]).Supplies "out" (emitted [0xC3, 0xA9]).stdout ∧
      (emitted [0xC3, 0xA9]).execute emittedScenario = .ok (⟨"ret\n", "é", "1\n", "yankee"⟩, []) ∧
      parseResponse (saved [0xC3, 0xA9]) "out" none = ⟨Blocks.render ⟨"ret\n", "é", "1\n", "yankee"⟩, .ok ()⟩ := by
  have hl := not_failsLaunch_emitted [0xC3, 0xA9]
  have hs : (saved [0xC3, 0xA9]).Supplies "out" (emitted [0xC3, 0xA9]).stdout := ⟨by decide, by decide +kernel⟩
  have hrun : (emitted [0xC3, 0xA9]).execute emittedScenario = .ok (⟨"ret\n", "é", "1\n", "yankee"⟩, []) := by
    decide +kernel
  obtain ⟨hiff, -⟩ := agreesWithRun_iff emittedScenario hl rfl hs
  have hagree := hiff.mpr ⟨Utf8.decodeLossy (octetsWith [0xC3, 0xA9]), by decide +kernel⟩
  exact ⟨hl, rfl, hs, hrun, hagree.ok _ _ hrun⟩

/-- A stray octet in one block: a run extracts all four, and extracting them from the same octets is refused. -/
theorem not_agreesWithRun_stray :
    (saved [0xFF, 0x0A]).Supplies "out" (emitted [0xFF, 0x0A]).stdout ∧
      (saved [0xFF, 0x0A]).Supplies "-" (emitted [0xFF, 0x0A]).stdout ∧
      (emitted [0xFF, 0x0A]).execute emittedScenario = .ok (⟨"ret\n", "\uFFFD\n", "1\n", "yankee"⟩, []) ∧
      parseResponse (saved [0xFF, 0x0A]) "out" none = .refuse (.fileRead "out" .notUtf8) ∧
      parseResponse (saved [0xFF, 0x0A]) "-" none = .refuse (.io .notUtf8) ∧
      ¬ AgreesWithRun (saved [0xFF, 0x0A]) "out" emittedScenario (emitted [0xFF, 0x0A]) ∧
      ¬ AgreesWithRun (saved [0xFF, 0x0A]) "-" emittedScenario (emitted [0xFF, 0x0A]) := by
  have hd : Utf8.decode? (emitted [0xFF, 0x0A]).stdout = none := by decide +kernel
  have hl := not_failsLaunch_emitted [0xFF, 0x0A]
  have hfile : (saved [0xFF, 0x0A]).Supplies "out" (emitted [0xFF, 0x0A]).stdout := ⟨by decide, by decide +kernel⟩
  have hinput : (saved [0xFF, 0x0A]).Supplies "-" (emitted [0xFF, 0x0A]).stdout := rfl
  exact ⟨hfile, hinput, by decide +kernel, parseResponse_of_decode_none hfile hd none,
    parseResponse_of_decode_none hinput hd none, not_agreesWithRun_of_decode_none hl rfl hfile hd,
    not_agreesWithRun_of_decode_none hl rfl hinput hd⟩

end BlockHarness
