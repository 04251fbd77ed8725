import BlockHarness.Proofs.Intake
import BlockHarness.Proofs.Layout

/-! What extracting prints, taken as captured output again. Printed blocks stand in the order of their names with
nothing around them, so a block is found again where nothing printed in front of it holds a marker of it; then printing
a second time changes nothing. -/
namespace BlockHarness
set_option autoImplicit false

/-! ## Printed blocks -/

namespace Blocks
variable {t : Text} {p : Blocks}

/-- No content holds a marker of a block that is printed behind it. -/
def Separate (p : Blocks) : Prop :=
  ∀ b b' : BlockName, b.index < b'.index → ¬ b'.opening <:+: p.get b ∧ ¬ b'.closing <:+: p.get b

instance (p : Blocks) : Decidable p.Separate :=
  decidable_of_iff (∀ b ∈ BlockName.all, ∀ b' ∈ BlockName.all, b.index < b'.index →
      ¬ b'.opening <:+: p.get b ∧ ¬ b'.closing <:+: p.get b)
    ⟨fun h b b' => h b b.mem_all b' b'.mem_all, fun h b _ b' _ => h b b'⟩

/-- Blocks in the order of their names, with nothing around them. -/
def layout (p : Blocks) : Layout where
  order := BlockName.all
  order_perm := .refl _
  lead := []
  content := p.get
  gap _ := []

theorem text_layout (p : Blocks) : p.layout.text = p.render := by
  have hpassage : p.layout.passage = fun b => b.opening ++ p.get b ++ b.closing := by
    funext b
    exact List.append_nil _
  rw [Layout.text, hpassage]
  rfl

theorem blocks_layout (p : Blocks) : p.layout.blocks = p := rfl

/-- In front of a block stand the contents of the blocks before it, and else only empty texts. -/
theorem mem_piecesBefore_layout {b : BlockName} {piece : Text} (h : piece ∈ p.layout.piecesBefore b) :
    piece = [] ∨ ∃ a : BlockName, a.index < b.index ∧ piece = p.get a := by
  simp only [Layout.piecesBefore, List.mem_cons, List.mem_flatMap, List.not_mem_nil, or_false] at h
  rcases h with rfl | ⟨a, ha, rfl | rfl⟩
  · exact .inl rfl
  · exact .inr ⟨a, (BlockName.mem_earlier_iff a b).mp ha, rfl⟩
  · exact .inl rfl

theorem readable_layout (hr : read t = .ok p) (hp : p.Separate) : p.layout.Readable := by
  intro b
  constructor
  · exact closing_not_infix_get hr b
  · intro piece hpiece
    rcases mem_piecesBefore_layout hpiece with rfl | ⟨a, hlt, rfl⟩
    · have ho : b.opening ≠ [] := b.brackets.opening_ended.ne_nil
      have hc : b.closing ≠ [] := b.brackets.closing_ended.ne_nil
      exact ⟨fun h => ho (List.infix_nil.mp h), fun h => hc (List.infix_nil.mp h)⟩
    · exact hp a b hlt

theorem read_render (hr : read t = .ok p) (hp : p.Separate) : read p.render = .ok p := by
  have h := p.layout.read_text (readable_layout hr hp)
  rwa [text_layout, blocks_layout] at h

end Blocks

/-! ## Extracting twice -/

theorem dispatch_parse_of_read_ok {w : World} {source t : Text} {p : Blocks} (hs : w.Supplies source (Utf8.encode t))
    (hr : Blocks.read t = .ok p) (color : Bool) :
    ((Command.parse source none).dispatch w color).1 = ⟨p.render, .ok ()⟩ := parseResponse_of_read_ok hs hr

/-- **What extracting prints is a normal form.** Blocks have been read from a text, and no content holds a marker of a
block that is printed behind it. Then what extracting them prints is read as the same blocks, and extracting from that
prints it once more. -/
theorem dispatch_parse_normal {w : World} {source t : Text} {p : Blocks} (hs : w.Supplies source (Utf8.encode t))
    (hr : Blocks.read t = .ok p) (hp : p.Separate) :
    ∃ shown, (∀ color, ((Command.parse source none).dispatch w color).1 = ⟨shown, .ok ()⟩) ∧
      Blocks.read shown = .ok p ∧
      ∀ (w' : World) (source' : Text) (color : Bool), w'.Supplies source' (Utf8.encode shown) →
        ((Command.parse source' none).dispatch w' color).1 = ⟨shown, .ok ()⟩ := by
  have hagain : Blocks.read p.render = .ok p := Blocks.read_render hr hp
  refine ⟨p.render, dispatch_parse_of_read_ok hs hr, hagain, ?_⟩
  intro w' source' color hs'
  exact dispatch_parse_of_read_ok hs' hagain color

/-- Blocks out of order and in the middle of lines, with markers in them: their own opening one, or one of a block that
is printed in front. Behind the blocks stand markers without any. -/
def scattered : Text :=
  "noise BEGIN assembly\nBEGIN assembly\nretEND assembly\nEND assembly\nBEGIN read buffer\nEND assembly\n" ++
    "yankeeEND read buffer\nBEGIN program output\n1\nEND program output\nBEGIN machine code\nc3 END machine code\n" ++
    "BEGIN read buffer\nEND program output\n"

/-- The blocks in that text. -/
def gathered : Blocks := ⟨"BEGIN assembly\nret", "c3 ", "1\n", "END assembly\nyankee"⟩

/-- A world in which some text comes from the standard input. -/
def piped (t : Text) : World := ⟨⟨[], []⟩, ⟨none, none, none⟩, Utf8.encode t⟩

theorem dispatch_parse_normal_scattered :
    (piped scattered).Supplies "-" (Utf8.encode scattered) ∧ Blocks.read scattered = .ok gathered ∧ gathered.Separate ∧
      ∃ shown, ((Command.parse "-" none).dispatch (piped scattered) false).1 = ⟨shown, .ok ()⟩ ∧
        shown ≠ scattered ∧ Blocks.read shown = .ok gathered ∧
        ((Command.parse "-" none).dispatch (piped shown) false).1 = ⟨shown, .ok ()⟩ := by
  have hs : (piped scattered).Supplies "-" (Utf8.encode scattered) := rfl
  have hr : Blocks.read scattered = .ok gathered := by decide +kernel
  have hp : gathered.Separate := by decide +kernel
  obtain ⟨shown, hshown, hread, hagain⟩ := dispatch_parse_normal hs hr hp
  have hother : gathered.render ≠ scattered := by decide +kernel
  have heq : shown = gathered.render := by
    have h := (hshown false).symm.trans (dispatch_parse_of_read_ok hs hr false)
    exact congrArg Response.stdout h
  exact ⟨hs, hr, hp, shown, hshown false, heq ▸ hother, hread, hagain (piped shown) "-" false rfl⟩

end BlockHarness
