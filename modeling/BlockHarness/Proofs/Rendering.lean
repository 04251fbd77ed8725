import BlockHarness.Proofs.NormalForm
import BlockHarness.Proofs.ReportLines

/-! What is printed of blocks tells them apart. Contents stand as they are between delimiters that they may imitate, and
a delimiter may share its line with content. Yet a block that was read from a text does not hold its own closing marker,
so each content ends where that marker is first seen, and the blocks come out one after another. -/
namespace BlockHarness
set_option autoImplicit false

/-! ## Contents between delimiters -/

section Enclosed
variable {α β : Type}

/-- Contents one after another, each between its delimiters. -/
def enclosed (opening closing content : β → List α) (bs : List β) : List α :=
  bs.flatMap fun b => opening b ++ content b ++ closing b

/-- Contents that do not hold their closing delimiters can be told apart. -/
theorem eq_of_enclosed_eq {stop : α} {opening closing f g : β → List α} {bs : List β}
    (hc : ∀ b ∈ bs, EndedBy stop (closing b)) (hf : ∀ b ∈ bs, ¬ closing b <:+: f b)
    (hg : ∀ b ∈ bs, ¬ closing b <:+: g b)
    (h : enclosed opening closing f bs = enclosed opening closing g bs) : ∀ b ∈ bs, f b = g b := by
  induction bs with
  | nil => simp
  | cons b bs ih =>
    simp only [List.forall_mem_cons] at hc hf hg
    have hcut : f b ++ closing b ++ enclosed opening closing f bs =
        g b ++ closing b ++ enclosed opening closing g bs := by
      simpa [enclosed] using h
    obtain ⟨hfirst, hrest⟩ := hc.1.append_inj hf.1 hg.1 hcut
    exact List.forall_mem_cons.mpr ⟨hfirst, ih hc.2 hf.2 hg.2 hrest⟩

end Enclosed

/-! ## Extracted blocks and dumped blocks -/

namespace Blocks
variable {t u : Text} {p q : Blocks}

theorem ext_get (h : ∀ b, p.get b = q.get b) : p = q := by
  obtain ⟨a, m, o, r⟩ := p
  obtain ⟨a', m', o', r'⟩ := q
  obtain rfl : a = a' := h .assembly
  obtain rfl : m = m' := h .machineCode
  obtain rfl : o = o' := h .programOutput
  obtain rfl : r = r' := h .readBuffer
  rfl

theorem eq_of_render_eq (hp : read t = .ok p) (hq : read u = .ok q) (h : p.render = q.render) : p = q := by
  have hends : ∀ b ∈ BlockName.all, EndedBy '\n' b.closing := fun b _ => b.brackets.closing_ended
  have hget := eq_of_enclosed_eq hends (fun b _ => closing_not_infix_get hp b) (fun b _ => closing_not_infix_get hq b) h
  exact ext_get fun b => hget b b.mem_all

/-- The line in front of a dumped block. -/
def dumpOpening (b : BlockName) : Text := "\n  BEGIN " ++ b.literal ++ "\n"

/-- What is printed behind a dumped block: its closing marker, a little indented. -/
def dumpClosing (b : BlockName) : Text := "  " ++ b.closing

theorem endedBy_dumpClosing (b : BlockName) : EndedBy '\n' (dumpClosing b) := by
  obtain ⟨body, he, hbody⟩ := b.brackets.closing_ended
  have hindent : '\n' ∉ ("  " : Text) := by decide
  refine ⟨"  " ++ body, ?_, by simp only [List.mem_append, hindent, hbody, or_self, not_false_iff]⟩
  rw [dumpClosing, he, List.append_assoc]

theorem renderPieces_blockDump (b : BlockName) (content : Text) :
    renderPieces false (blockDump b content) = dumpOpening b ++ content ++ dumpClosing b := by cases b <;> rfl

theorem renderPieces_dump {r : RunResult} (hr : r.passed = false) (hb : r.blocks = some p) :
    renderPieces false (dump r) = enclosed dumpOpening dumpClosing p.get dumpedBlocks := by
  have hdump : dump r = dumpedBlocks.flatMap fun b => blockDump b (p.get b) := by simp [dump, hr, hb]
  rw [hdump, renderPieces, List.flatMap_assoc, enclosed]
  congr 1
  funext b
  exact renderPieces_blockDump b (p.get b)

theorem eq_of_dump_eq (hp : read t = .ok p) (hq : read u = .ok q)
    (h : enclosed dumpOpening dumpClosing p.get dumpedBlocks = enclosed dumpOpening dumpClosing q.get dumpedBlocks) :
    p.assembly = q.assembly ∧ p.machineCode = q.machineCode := by
  -- a content that held the indented marker would hold the marker
  have hfree : ∀ {t : Text} {p : Blocks}, read t = .ok p → ∀ b ∈ dumpedBlocks, ¬ dumpClosing b <:+: p.get b :=
    fun hp b _ hi => closing_not_infix_get hp b ((List.suffix_append _ _).isInfix.trans hi)
  have hget := eq_of_enclosed_eq (fun b _ => endedBy_dumpClosing b) (hfree hp) (hfree hq) h
  exact ⟨hget .assembly (by decide), hget .machineCode (by decide)⟩

/-- **Printed blocks can be told apart.** Two texts have been read. Extracting the blocks from the one prints the same
as extracting them from the other exactly if they are the same blocks; and failed runs that have kept them dump the
same, without colour, exactly if they are the same in the two blocks that are dumped. -/
theorem shown_eq_iff (hp : read t = .ok p) (hq : read u = .ok q) :
    (∀ (w w' : World) (source source' : Text), w.Supplies source (Utf8.encode t) → w'.Supplies source' (Utf8.encode u) →
      ∀ color color', ((Command.parse source none).dispatch w color).1.stdout =
        ((Command.parse source' none).dispatch w' color').1.stdout ↔ p = q) ∧
    ∀ r r' : RunResult, r.passed = false → r.blocks = some p → r'.passed = false → r'.blocks = some q →
      (renderPieces false (dump r) = renderPieces false (dump r') ↔
        p.assembly = q.assembly ∧ p.machineCode = q.machineCode) := by
  constructor
  · intro w w' source source' hs hs' color color'
    rw [dispatch_parse_of_read_ok hs hp, dispatch_parse_of_read_ok hs' hq]
    exact ⟨eq_of_render_eq hp hq, congrArg render⟩
  · intro r r' hr hb hr' hb'
    rw [renderPieces_dump hr hb, renderPieces_dump hr' hb']
    refine ⟨eq_of_dump_eq hp hq, ?_⟩
    rintro ⟨ha, hm⟩
    simp [enclosed, dumpedBlocks, get, ha, hm]

/-- Without a parser behind them, different blocks may look the same. -/
example : render ⟨"ret\n", "c3 ", "END machine code\nBEGIN program output\n1\n", "yankee"⟩ =
    render ⟨"ret\n", "c3 END machine code\nBEGIN program output\n", "1\n", "yankee"⟩ := by decide +kernel

/-- Two blocks that overlap, neither of them ended by a line feed, with some program output behind them. -/
def overlapped (output : Text) : Text :=
  "BEGIN assembly\nBEGIN machine code\nretEND assembly\nc3 END machine code\nBEGIN program output\n" ++ output ++
    "END program output\nBEGIN read buffer\nyankeeEND read buffer\n"

/-- The blocks in that text. -/
def disentangled (output : Text) : Blocks := ⟨"BEGIN machine code\nret", "retEND assembly\nc3 ", output, "yankee"⟩

/-- A run that has failed for its read buffer. -/
def failedFor (p : Blocks) : RunResult := .compared "demo" p [⟨.readBuffer, p.readBuffer, "tango"⟩]

theorem shown_eq_iff_overlapped :
    read (overlapped "1\n") = .ok (disentangled "1\n") ∧ read (overlapped "1") = .ok (disentangled "1") ∧
      ((Command.parse "-" none).dispatch (piped (overlapped "1\n")) false).1.stdout ≠
        ((Command.parse "-" none).dispatch (piped (overlapped "1")) true).1.stdout ∧
      renderPieces false (dump (failedFor (disentangled "1\n"))) =
        renderPieces false (dump (failedFor (disentangled "1"))) := by
  have hp : read (overlapped "1\n") = .ok (disentangled "1\n") := by decide +kernel
  have hq : read (overlapped "1") = .ok (disentangled "1") := by decide +kernel
  obtain ⟨hprinted, hdumped⟩ := shown_eq_iff hp hq
  refine ⟨hp, hq, fun h => ?_, (hdumped _ _ rfl rfl rfl rfl).mpr ⟨rfl, rfl⟩⟩
  have heq := (hprinted (piped (overlapped "1\n")) (piped (overlapped "1")) "-" "-" rfl rfl false true).mp h
  exact absurd heq (by decide)

end Blocks
end BlockHarness
