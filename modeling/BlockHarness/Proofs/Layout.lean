import Mathlib.Data.List.Infix
import BlockHarness.Proofs.Extraction

/-! Texts that hold the four blocks in some order, with other text around them. What is read of such a text is what
was laid out, whatever the order, as long as nothing in front of a block holds a marker of it. -/
namespace BlockHarness
set_option autoImplicit false

/-- The four blocks in some order, with text before, between and behind them. Contents and gaps may be empty and
need not begin or end with a line. -/
structure Layout where
  order : List BlockName
  order_perm : order.Perm BlockName.all
  lead : Text
  content : BlockName → Text
  gap : BlockName → Text

namespace Layout
variable (l : Layout)

/-- A block between its markers, and the gap behind it. -/
def passage (b : BlockName) : Text := b.opening ++ l.content b ++ b.closing ++ l.gap b

def text : Text := l.lead ++ l.order.flatMap l.passage

def blocks : Blocks :=
  ⟨l.content .assembly, l.content .machineCode, l.content .programOutput, l.content .readBuffer⟩

/-- The gaps and contents in front of a block. -/
def piecesBefore (b : BlockName) : List Text :=
  l.lead :: (l.order.takeWhile (· ≠ b)).flatMap fun a => [l.content a, l.gap a]

/-- No content holds its own closing marker, and no gap or content in front of a block holds a marker of it. -/
def Readable : Prop :=
  ∀ b : BlockName, ¬ b.closing <:+: l.content b ∧
    ∀ piece ∈ l.piecesBefore b, ¬ b.opening <:+: piece ∧ ¬ b.closing <:+: piece

instance : Decidable l.Readable :=
  decidable_of_iff (∀ b ∈ BlockName.all, ¬ b.closing <:+: l.content b ∧
    ∀ piece ∈ l.piecesBefore b, ¬ b.opening <:+: piece ∧ ¬ b.closing <:+: piece)
    ⟨fun h b => h b b.mem_all, fun h b _ => h b⟩

theorem get_blocks (b : BlockName) : l.blocks.get b = l.content b := by cases b <;> rfl

/-! ## A layout cut at a block -/

/-- The pieces of some passages, each after its marker. -/
def parts (bs : List BlockName) : List (Text × Text) :=
  bs.flatMap fun b => [(b.opening, l.content b), (b.closing, l.gap b)]

theorem joined_parts (lead : Text) (bs : List BlockName) : joined lead (l.parts bs) = lead ++ bs.flatMap l.passage := by
  rw [joined, parts, List.flatMap_assoc]
  congr 2
  funext b
  simp [passage]

theorem exists_mem_parts_iff (P : Text × Text → Prop) (bs : List BlockName) :
    (∃ part ∈ l.parts bs, P part) ↔ ∃ b ∈ bs, P (b.opening, l.content b) ∨ P (b.closing, l.gap b) := by
  constructor
  · rintro ⟨part, hpart, h⟩
    obtain ⟨b, hb, hpart⟩ := List.mem_flatMap.mp hpart
    simp only [List.mem_cons, List.not_mem_nil, or_false] at hpart
    rcases hpart with rfl | rfl
    · exact ⟨b, hb, .inl h⟩
    · exact ⟨b, hb, .inr h⟩
  · rintro ⟨b, hb, h | h⟩
    · exact ⟨_, List.mem_flatMap.mpr ⟨b, hb, List.mem_cons_self⟩, h⟩
    · exact ⟨_, List.mem_flatMap.mpr ⟨b, hb, List.mem_cons_of_mem _ List.mem_cons_self⟩, h⟩

/-- A marker lies in some passages if it is a marker of one of them or lies in one of their pieces. -/
theorem infix_passages_iff {m : Text} (hm : m ∈ BlockName.markers) (lead : Text) (bs : List BlockName) :
    m <:+: lead ++ bs.flatMap l.passage ↔
      m <:+: lead ∨ ∃ b ∈ bs, (b.opening = m ∨ m <:+: l.content b) ∨ b.closing = m ∨ m <:+: l.gap b := by
  have hp : ∀ part ∈ l.parts bs, EndedBy '\n' part.1 ∧ (part.1 = m ∨ Apart part.1 m) := by
    intro part hpart
    have hmem : part.1 ∈ BlockName.markers := by
      obtain ⟨b, -, hb | hb⟩ := (l.exists_mem_parts_iff (· = part) bs).mp ⟨part, hpart, rfl⟩
      · exact hb ▸ b.opening_mem_markers
      · exact hb ▸ b.closing_mem_markers
    exact ⟨BlockName.endedBy_of_mem_markers hmem, BlockName.markers_apart hmem hm⟩
  rw [← joined_parts, (BlockName.endedBy_of_mem_markers hm).infix_joined_iff lead (l.parts bs) hp, exists_mem_parts_iff]

theorem infix_other_passages {b : BlockName} {bs : List BlockName} (hb : b ∉ bs) {m : Text}
    (hm : m = b.opening ∨ m = b.closing) {lead : Text} (h : m <:+: lead ++ bs.flatMap l.passage) :
    ∃ piece ∈ lead :: bs.flatMap fun a => [l.content a, l.gap a], m <:+: piece := by
  have hmem : m ∈ BlockName.markers := by
    rcases hm with rfl | rfl
    · exact b.opening_mem_markers
    · exact b.closing_mem_markers
  simp only [List.mem_cons, List.mem_flatMap]
  rcases (l.infix_passages_iff hmem lead bs).mp h with h | ⟨a, ha, (he | h) | he | h⟩
  · exact ⟨lead, .inl rfl, h⟩
  · rcases hm with rfl | rfl
    · exact absurd (BlockName.opening_injective he ▸ ha) hb
    · exact absurd he (a.opening_ne_closing b)
  · exact ⟨l.content a, .inr ⟨a, ha, by simp⟩, h⟩
  · rcases hm with rfl | rfl
    · exact absurd he.symm (b.opening_ne_closing a)
    · exact absurd (BlockName.closing_injective he ▸ ha) hb
  · exact ⟨l.gap a, .inr ⟨a, ha, by simp⟩, h⟩

theorem not_mem_of_order_eq {bs cs : List BlockName} {b : BlockName} (ho : l.order = bs ++ b :: cs) : b ∉ bs := by
  have hnodup : (bs ++ b :: cs).Nodup := ho ▸ l.order_perm.nodup_iff.mpr (by decide)
  exact fun h => (List.nodup_append.mp hnodup).2.2 b h b List.mem_cons_self rfl

theorem takeWhile_of_order_eq {bs cs : List BlockName} {b : BlockName} (ho : l.order = bs ++ b :: cs) :
    l.order.takeWhile (· ≠ b) = bs := by
  have hpos : ∀ a ∈ bs, decide (a ≠ b) = true := fun a ha =>
    decide_eq_true fun e => l.not_mem_of_order_eq ho (e ▸ ha)
  rw [ho, List.takeWhile_append_of_pos hpos]
  simp

theorem exists_order_eq (b : BlockName) : ∃ bs cs, l.order = bs ++ b :: cs :=
  List.append_of_mem (l.order_perm.mem_iff.mpr b.mem_all)

theorem cut_text (h : l.Readable) (b : BlockName) : ∃ u v, Cut b.opening b.closing l.text u (l.content b) v := by
  obtain ⟨bs, cs, ho⟩ := l.exists_order_eq b
  obtain ⟨hc, hp⟩ := h b
  have hb := l.not_mem_of_order_eq ho
  rw [piecesBefore, l.takeWhile_of_order_eq ho] at hp
  refine ⟨l.lead ++ bs.flatMap l.passage, l.gap b ++ cs.flatMap l.passage, ?_, fun hi => ?_, fun hi => ?_, hc⟩
  · simp [text, ho, passage]
  · obtain ⟨piece, hmem, hi⟩ := l.infix_other_passages hb (.inl rfl) hi
    exact (hp piece hmem).1 hi
  · obtain ⟨piece, hmem, hi⟩ := l.infix_other_passages hb (.inr rfl) hi
    exact (hp piece hmem).2 hi

/-- **Round trip.** A readable layout is read back as it was laid out. -/
theorem read_text (h : l.Readable) : Blocks.read l.text = .ok l.blocks := by
  rw [Blocks.read_eq_ok_iff]
  intro b
  rw [get_blocks, BlockName.find_eq_ok_iff]
  exact l.cut_text h b

/-- Blocks that are cut in the middle of lines and hold markers: their own opening one, or those of blocks in front. -/
def nested : Layout where
  order := [.readBuffer, .assembly, .programOutput, .machineCode]
  order_perm := by decide
  lead := "END read buffer: BEGIN "
  content
    | .readBuffer => "yankee"
    | .assembly => "BEGIN assembly\nret"
    | .programOutput => "END assembly\nBEGIN read buffer\n1"
    | .machineCode => []
  gap
    | .readBuffer => "BEGIN program outpu"
    | .assembly => []
    | .programOutput => "\nEND program output\n"
    | .machineCode => "END machine code\n"

theorem read_text_nested : nested.Readable ∧ Blocks.read nested.text = .ok nested.blocks :=
  ⟨by decide +kernel, nested.read_text (by decide +kernel)⟩

end Layout
end BlockHarness
