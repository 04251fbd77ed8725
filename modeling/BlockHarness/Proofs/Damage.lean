import BlockHarness.Proofs.Growth
import BlockHarness.Proofs.Layout

/-! Layouts with damaged markers: one has been deleted, or the two of a block have changed places. A deletion joins the
texts on both sides, and halves of a marker may meet there. Where none do, damage stays with its block: that block is
refused with its own fault, and every other one is found as it was laid out. -/
namespace BlockHarness
set_option autoImplicit false

/-! ## Damage -/

/-- What may have happened to the markers of a block. -/
inductive Damage where
  | unopened
  | unclosed
  | exchanged
  deriving DecidableEq, Repr

namespace Damage

/-- The fault that a damaged block is refused with. -/
def fault : Damage → MarkerFault
  | .unopened => .missingBegin
  | .unclosed => .missingEnd
  | .exchanged => .outOfOrder

/-- Damage to a single block. -/
def only (d : Damage) (b : BlockName) : BlockName → Option Damage := fun a => if a = b then some d else none

theorem only_self (d : Damage) (b : BlockName) : d.only b b = some d := if_pos rfl

theorem only_of_ne (d : Damage) {a b : BlockName} (h : a ≠ b) : d.only b a = none := if_neg h

end Damage

namespace BlockName

/-- The markers that damage leaves of a block. -/
def remaining (b : BlockName) (d : Option Damage) : List Text :=
  (if d = some .unopened then [] else [b.opening]) ++ if d = some .unclosed then [] else [b.closing]

theorem opening_mem_remaining_iff (a b : BlockName) (d : Option Damage) :
    a.opening ∈ b.remaining d ↔ a = b ∧ d ≠ some .unopened := by
  have hinj : a.opening = b.opening ↔ a = b := ⟨opening_injective, congrArg opening⟩
  by_cases ho : d = some .unopened <;> by_cases hc : d = some .unclosed <;>
    simp [remaining, ho, hc, hinj, opening_ne_closing]

theorem closing_mem_remaining_iff (a b : BlockName) (d : Option Damage) :
    a.closing ∈ b.remaining d ↔ a = b ∧ d ≠ some .unclosed := by
  have hinj : a.closing = b.closing ↔ a = b := ⟨closing_injective, congrArg closing⟩
  by_cases ho : d = some .unopened <;> by_cases hc : d = some .unclosed <;>
    simp [remaining, ho, hc, hinj, (opening_ne_closing b a).symm]

theorem infix_append_iff {m m' : Text} (h : m ∈ markers) (h' : m' ∈ markers) (u v : Text) :
    m' <:+: u ++ m ++ v ↔ m' <:+: u ∨ m' = m ∨ m' <:+: v := by
  rw [(endedBy_of_mem_markers h).infix_append_iff (endedBy_of_mem_markers h') (markers_apart h h'), eq_comm]

theorem infix_append_append_iff {m₁ m₂ m : Text} (h₁ : m₁ ∈ markers) (h₂ : m₂ ∈ markers) (h : m ∈ markers)
    {c v : Text} (hc : ¬ m <:+: c) (hv : ¬ m <:+: v) (u : Text) :
    m <:+: u ++ m₁ ++ c ++ m₂ ++ v ↔ m <:+: u ∨ m = m₁ ∨ m = m₂ := by
  rw [infix_append_iff h₂ h, infix_append_iff h₁ h]
  simp [hc, hv, or_assoc]

end BlockName

/-- A text that holds none of the eight markers. -/
def MarkerFree (t : Text) : Prop := ∀ m ∈ BlockName.markers, ¬ m <:+: t

instance (t : Text) : Decidable (MarkerFree t) := inferInstanceAs (Decidable (∀ m ∈ BlockName.markers, ¬ m <:+: t))

namespace Layout

/-- No text that is laid out around the markers holds one itself. -/
structure Clean (l : Layout) : Prop where
  lead : MarkerFree l.lead
  content : ∀ b, MarkerFree (l.content b)
  gap : ∀ b, MarkerFree (l.gap b)

instance (l : Layout) : Decidable l.Clean :=
  decidable_of_iff (MarkerFree l.lead ∧ ∀ b ∈ BlockName.all, MarkerFree (l.content b) ∧ MarkerFree (l.gap b))
    ⟨fun ⟨hlead, h⟩ => ⟨hlead, fun b => (h b b.mem_all).1, fun b => (h b b.mem_all).2⟩,
      fun h => ⟨h.lead, fun b _ => ⟨h.content b, h.gap b⟩⟩⟩

variable (l : Layout) (damage : BlockName → Option Damage)

/-- A block with what damage leaves of its markers, and the gap behind it. -/
def damagedPassage (b : BlockName) : Text :=
  match damage b with
  | none => l.passage b
  | some .unopened => l.content b ++ b.closing ++ l.gap b
  | some .unclosed => b.opening ++ l.content b ++ l.gap b
  | some .exchanged => b.closing ++ l.content b ++ b.opening ++ l.gap b

/-- The damaged text as far as some blocks. -/
def damagedFront (bs : List BlockName) : Text := l.lead ++ bs.flatMap (l.damagedPassage damage)

def damagedText : Text := l.damagedFront damage l.order

/-- What stands behind some blocks and behind the last marker that is left of them. Where the last of them has lost its
closing marker, that is its content too. -/
def trailing (bs : List BlockName) : Text :=
  match bs.getLast? with
  | none => l.lead
  | some a => if damage a = some .unclosed then l.content a ++ l.gap a else l.gap a

/-- The text that a deletion joins at a block: its content, and what stands in front of it back to the last marker that
is left, or the gap behind it. -/
def joint (b : BlockName) : Text :=
  match damage b with
  | some .unopened => l.trailing damage (l.order.takeWhile (· ≠ b)) ++ l.content b
  | some .unclosed => l.content b ++ l.gap b
  | _ => []

/-- No marker is made where a deletion joins two texts. -/
def Tolerates (b : BlockName) : Prop := MarkerFree (l.joint damage b)

instance (b : BlockName) : Decidable (l.Tolerates damage b) :=
  inferInstanceAs (Decidable (MarkerFree (l.joint damage b)))

/-! ## Markers that are left -/

variable {l damage}

theorem damagedFront_append (bs : List BlockName) (b : BlockName) (s : Text) :
    l.damagedFront damage (bs ++ [b]) ++ s = l.damagedFront damage bs ++ l.damagedPassage damage b ++ s := by
  simp [damagedFront]

theorem trailing_markerFree (hl : l.Clean) (ht : ∀ b, l.Tolerates damage b) (bs : List BlockName) :
    MarkerFree (l.trailing damage bs) := by
  rw [trailing]
  split
  next => exact hl.lead
  next a _ =>
    split
    next hd =>
      have h := ht a
      rwa [Tolerates, joint, hd] at h
    next => exact hl.gap a

/-- What stands behind a block and behind its last marker. -/
theorem trailing_append (bs : List BlockName) (b : BlockName) :
    l.trailing damage (bs ++ [b]) = if damage b = some .unclosed then l.content b ++ l.gap b else l.gap b := by
  rw [trailing, List.getLast?_concat]

/-- One more block adds the markers that damage leaves of it, as long as no text it joins completes another one. -/
theorem infix_append_damagedPassage_iff (hl : l.Clean) {m : Text} (hm : m ∈ BlockName.markers) {b : BlockName}
    {s : Text} (hs : ¬ m <:+: (if damage b = some .unclosed then l.content b ++ l.gap b else l.gap b) ++ s)
    (front : Text) :
    m <:+: front ++ l.damagedPassage damage b ++ s ↔
      m <:+: front ++ (if damage b = some .unopened then l.content b else []) ∨ m ∈ b.remaining (damage b) := by
  have hcontent : ¬ m <:+: l.content b := hl.content b m hm
  rw [damagedPassage]
  cases hd : damage b with
  | none =>
    have hgap : ¬ m <:+: l.gap b ++ s := by simpa [hd] using hs
    have htext : front ++ l.passage b ++ s =
        front ++ b.opening ++ l.content b ++ b.closing ++ (l.gap b ++ s) := by simp [passage]
    rw [htext, BlockName.infix_append_append_iff b.opening_mem_markers b.closing_mem_markers hm hcontent hgap]
    simp [BlockName.remaining]
  | some d =>
    cases d with
    | unopened =>
      have hgap : ¬ m <:+: l.gap b ++ s := by simpa [hd] using hs
      have htext : front ++ (l.content b ++ b.closing ++ l.gap b) ++ s =
          front ++ l.content b ++ b.closing ++ (l.gap b ++ s) := by simp
      rw [htext, BlockName.infix_append_iff b.closing_mem_markers hm]
      simp [hgap, BlockName.remaining]
    | unclosed =>
      have hgap : ¬ m <:+: l.content b ++ (l.gap b ++ s) := by simpa [hd] using hs
      have htext : front ++ (b.opening ++ l.content b ++ l.gap b) ++ s =
          front ++ b.opening ++ (l.content b ++ (l.gap b ++ s)) := by simp
      rw [htext, BlockName.infix_append_iff b.opening_mem_markers hm]
      simp [hgap, BlockName.remaining]
    | exchanged =>
      have hgap : ¬ m <:+: l.gap b ++ s := by simpa [hd] using hs
      have htext : front ++ (b.closing ++ l.content b ++ b.opening ++ l.gap b) ++ s =
          front ++ b.closing ++ l.content b ++ b.opening ++ (l.gap b ++ s) := by simp
      rw [htext, BlockName.infix_append_append_iff b.closing_mem_markers b.opening_mem_markers hm hcontent hgap]
      simp [BlockName.remaining, or_comm]

/-- A marker stands in front of a place exactly if damage has left it of a block there, even with more text behind the
place, as long as that text completes no marker. -/
theorem infix_damagedFront_iff (hl : l.Clean) (ht : ∀ b, l.Tolerates damage b) {m : Text} (hm : m ∈ BlockName.markers)
    {bs cs : List BlockName} (ho : l.order = bs ++ cs) {s : Text} (hs : MarkerFree (l.trailing damage bs ++ s)) :
    m <:+: l.damagedFront damage bs ++ s ↔ ∃ b ∈ bs, m ∈ b.remaining (damage b) := by
  -- block by block from the front, since a deleted opening marker joins its content to what stands there
  induction bs using List.reverseRecOn generalizing cs s with
  | nil => simpa [damagedFront, trailing] using hs m hm
  | append_singleton bs b ih =>
    have ho' : l.order = bs ++ b :: cs := by rw [ho, List.append_assoc, List.singleton_append]
    have hfree : MarkerFree (l.trailing damage bs ++ if damage b = some .unopened then l.content b else []) := by
      split
      next hd =>
        have hb := ht b
        rwa [Tolerates, joint, hd, l.takeWhile_of_order_eq ho'] at hb
      next => simpa using trailing_markerFree hl ht bs
    rw [trailing_append] at hs
    rw [damagedFront_append, infix_append_damagedPassage_iff hl hm (hs m hm), ih ho' hfree]
    simp [or_and_right, exists_or]

/-- The damaged text, cut in front of a block. -/
theorem exists_damagedText_eq (l : Layout) (damage : BlockName → Option Damage) (b : BlockName) :
    ∃ bs cs, l.order = bs ++ b :: cs ∧
      l.damagedText damage =
        l.damagedFront damage bs ++ l.damagedPassage damage b ++ cs.flatMap (l.damagedPassage damage) := by
  obtain ⟨bs, cs, ho⟩ := l.exists_order_eq b
  exact ⟨bs, cs, ho, by simp [damagedText, damagedFront, ho]⟩

section Found
variable (hl : l.Clean) (ht : ∀ b, l.Tolerates damage b)
include hl ht

theorem infix_damagedText_iff {m : Text} (hm : m ∈ BlockName.markers) :
    m <:+: l.damagedText damage ↔ ∃ b : BlockName, m ∈ b.remaining (damage b) := by
  have ho : l.order = l.order ++ [] := (List.append_nil _).symm
  have hfree : MarkerFree (l.trailing damage l.order ++ []) := by simpa using trailing_markerFree hl ht l.order
  have h := infix_damagedFront_iff hl ht hm ho hfree
  have hmem (b : BlockName) : b ∈ l.order := l.order_perm.mem_iff.mpr b.mem_all
  simpa [damagedText, hmem] using h

theorem opening_infix_damagedText_iff (b : BlockName) :
    b.opening <:+: l.damagedText damage ↔ damage b ≠ some .unopened := by
  simp [infix_damagedText_iff hl ht b.opening_mem_markers, BlockName.opening_mem_remaining_iff]

theorem closing_infix_damagedText_iff (b : BlockName) :
    b.closing <:+: l.damagedText damage ↔ damage b ≠ some .unclosed := by
  simp [infix_damagedText_iff hl ht b.closing_mem_markers, BlockName.closing_mem_remaining_iff]

/-- In front of a block stands no marker of it. -/
theorem not_infix_damagedFront {bs cs : List BlockName} {b : BlockName} (ho : l.order = bs ++ b :: cs) :
    ¬ b.opening <:+: l.damagedFront damage bs ∧ ¬ b.closing <:+: l.damagedFront damage bs := by
  have hb : b ∉ bs := l.not_mem_of_order_eq ho
  have hfree : MarkerFree (l.trailing damage bs ++ []) := by simpa using trailing_markerFree hl ht bs
  have ho' := infix_damagedFront_iff hl ht b.opening_mem_markers ho hfree
  have hc' := infix_damagedFront_iff hl ht b.closing_mem_markers ho hfree
  simp only [List.append_nil, BlockName.opening_mem_remaining_iff, BlockName.closing_mem_remaining_iff] at ho' hc'
  rw [ho', hc']
  exact ⟨fun ⟨a, ha, e, _⟩ => hb (e ▸ ha), fun ⟨a, ha, e, _⟩ => hb (e ▸ ha)⟩

theorem find_damagedText_intact {b : BlockName} (hd : damage b = none) :
    b.find (l.damagedText damage) = .ok (l.content b) := by
  obtain ⟨bs, cs, ho, htext⟩ := l.exists_damagedText_eq damage b
  obtain ⟨hopening, hclosing⟩ := not_infix_damagedFront hl ht ho
  refine (b.find_eq_ok_iff _ _).mpr ⟨l.damagedFront damage bs, l.gap b ++ cs.flatMap (l.damagedPassage damage),
    ⟨?_, hopening, hclosing, hl.content b _ b.closing_mem_markers⟩⟩
  simp [htext, damagedPassage, hd, passage]

theorem find_damagedText_damaged {b : BlockName} {d : Damage} (hd : damage b = some d) :
    b.find (l.damagedText damage) = .error ⟨d.fault, b⟩ := by
  rw [BlockName.find_eq_fault_iff]
  cases d with
  | unopened =>
    rw [Damage.fault, between_eq_missingBegin_iff, opening_infix_damagedText_iff hl ht]
    exact not_not_intro hd
  | unclosed =>
    rw [Damage.fault, between_eq_missingEnd_iff, opening_infix_damagedText_iff hl ht,
      closing_infix_damagedText_iff hl ht, hd]
    simp
  | exchanged =>
    obtain ⟨bs, cs, ho, htext⟩ := l.exists_damagedText_eq damage b
    obtain ⟨hopening, hclosing⟩ := not_infix_damagedFront hl ht ho
    rw [Damage.fault, between_eq_outOfOrder_iff b.brackets]
    refine ⟨l.damagedFront damage bs,
      l.content b ++ b.opening ++ (l.gap b ++ cs.flatMap (l.damagedPassage damage)), ⟨?_, hopening, hclosing, ?_⟩⟩
    · simp [htext, damagedPassage, hd]
    · exact List.infix_append _ _ _

/-- The fault that is reported is that of the first damaged block in the order of the names. -/
theorem read_damagedText {b : BlockName} {d : Damage} (hd : damage b = some d)
    (hfirst : ∀ a ∈ b.earlier, damage a = none) : Blocks.read (l.damagedText damage) = .error ⟨d.fault, b⟩ := by
  refine (Blocks.read_eq_error_iff _ _).mpr ⟨find_damagedText_damaged hl ht hd, fun a ha => ?_⟩
  exact ⟨l.content a, find_damagedText_intact hl ht (hfirst a ((BlockName.mem_earlier_iff a b).mpr ha))⟩

end Found

theorem tolerates_only {b : BlockName} {d : Damage} (h : l.Tolerates (d.only b) b) (a : BlockName) :
    l.Tolerates (d.only b) a := by
  by_cases ha : a = b
  · exact ha ▸ h
  · have hempty : MarkerFree [] := by decide
    rwa [Tolerates, joint, d.only_of_ne ha]

/-- **Damage is local.** If one block has lost a marker, or its two markers have changed places, reading a layout fails
with the fault of that block, and every other block is found as it was laid out. If several blocks are damaged, each is
refused with its own fault, and the fault that is reported is that of the first one in the order of the names, wherever
they stand. -/
theorem read_damaged (l : Layout) (hl : l.Clean) :
    (∀ b (d : Damage), l.Tolerates (d.only b) b →
      Blocks.read (l.damagedText (d.only b)) = .error ⟨d.fault, b⟩ ∧
      ∀ a, a ≠ b → a.find (l.damagedText (d.only b)) = .ok (l.content a)) ∧
    ∀ damage, (∀ b, l.Tolerates damage b) →
      (∀ b, damage b = none → b.find (l.damagedText damage) = .ok (l.content b)) ∧
      ∀ b d, damage b = some d → b.find (l.damagedText damage) = .error ⟨d.fault, b⟩ ∧
        ((∀ a ∈ b.earlier, damage a = none) → Blocks.read (l.damagedText damage) = .error ⟨d.fault, b⟩) := by
  constructor
  · intro b d h
    have ht := tolerates_only h
    have hother (a : BlockName) (ha : a ≠ b) : d.only b a = none := d.only_of_ne ha
    refine ⟨read_damagedText hl ht (d.only_self b) fun a ha => hother a ?_, fun a ha => ?_⟩
    · rintro rfl
      exact Nat.lt_irrefl _ ((BlockName.mem_earlier_iff a a).mp ha)
    · exact find_damagedText_intact hl ht (hother a ha)
  · intro damage ht
    exact ⟨fun b hd => find_damagedText_intact hl ht hd, fun b d hd =>
      ⟨find_damagedText_damaged hl ht hd, read_damagedText hl ht hd⟩⟩

/-- Blocks in texts that hold halves of a marker. -/
def halved : Layout where
  order := [.programOutput, .machineCode, .readBuffer, .assembly]
  order_perm := by decide
  lead := "noise END "
  content
    | .programOutput => "1\n"
    | .machineCode => "bly\nc3 "
    | .readBuffer => "yankee"
    | .assembly => "ret\n"
  gap
    | .programOutput => "BEGIN assem"
    | _ => "\n"

/-- The halves meet where the marker between them is deleted, and make a marker of another block. -/
example : halved.Clean ∧ ¬ halved.Tolerates (Damage.unopened.only .machineCode) .machineCode ∧
    BlockName.assembly.find (halved.damagedText (Damage.unopened.only .machineCode)) ≠ .ok "ret\n" := by
  decide +kernel

/-- Damage to every block but one. -/
def scarred : BlockName → Option Damage
  | .programOutput => some .unclosed
  | .machineCode => none
  | .readBuffer => some .unopened
  | .assembly => some .exchanged

theorem read_damaged_halved :
    halved.Clean ∧ (∀ b, halved.Tolerates scarred b) ∧
      Blocks.read (halved.damagedText scarred) = .error ⟨.outOfOrder, .assembly⟩ ∧
      BlockName.programOutput.find (halved.damagedText scarred) = .error ⟨.missingEnd, .programOutput⟩ ∧
      BlockName.machineCode.find (halved.damagedText scarred) = .ok "bly\nc3 " ∧
      Blocks.read (halved.damagedText (Damage.unclosed.only .machineCode)) = .error ⟨.missingEnd, .machineCode⟩ := by
  have hl : halved.Clean := by decide +kernel
  have ht : ∀ b, halved.Tolerates scarred b := by
    intro b
    cases b <;> decide +kernel
  obtain ⟨hone, hmany⟩ := read_damaged halved hl
  obtain ⟨hintact, hdamaged⟩ := hmany scarred ht
  exact ⟨hl, ht, (hdamaged .assembly .exchanged rfl).2 (by decide), (hdamaged .programOutput .unclosed rfl).1,
    hintact .machineCode rfl, (hone .machineCode .unclosed (by decide +kernel)).1⟩

end Layout
end BlockHarness
