import BlockHarness.Proofs.Entries

/-! What a complete document holds. The reader of events and the tree in the making keep in step: whatever collection
is open on the one side is open on the other, and a mapping is closed only between a value and a key. So nothing is cut
off in a document that comes to its end. -/
namespace BlockHarness.Yaml
set_option autoImplicit false

/-! ## What is due inside collections -/

/-- What is due inside an open collection: an item of a sequence, or a key or a value of a mapping. -/
inductive Slot where
  | item
  | key
  | value
  deriving DecidableEq

namespace Slot

def next : Slot → Slot
  | item => item
  | key => value
  | value => key

/-- Whether an open collection has as many nodes as it has where this is due. -/
def Fits (s : Slot) (isMapping : Bool) (count : Nat) : Prop :=
  match s with
  | item => isMapping = false
  | key => isMapping = true ∧ count % 2 = 0
  | value => isMapping = true ∧ count % 2 = 1

theorem Fits.next {s : Slot} {isMapping : Bool} {count : Nat} (h : s.Fits isMapping count) :
    s.next.Fits isMapping (count + 1) := by
  cases s with
  | item => exact h
  | key => exact ⟨h.1, by have := h.2; omega⟩
  | value => exact ⟨h.1, by have := h.2; omega⟩

end Slot

def Due.slot? : Due → Option Slot
  | .blockItem | .indentlessItem | .flowItem _ => some .item
  | .blockKey | .pairKey | .pairClose | .flowKey _ => some .key
  | .blockValue | .pairValue | .flowValue | .flowNoValue => some .value
  | .firstDocument | .furtherDocument | .documentContent | .documentClose | .blockNode | .nothing => none

/-! ## Events -/

/-- What is due behind the first event of a node, where `after` is due behind the node. -/
inductive Starts (after : List Due) : Event → List Due → Prop where
  | «alias» (name : Text) : Starts after (.«alias» name) after
  | scalar (props : Properties) (isPlain : Bool) (t : Text) : Starts after (.scalar props isPlain t) after
  | sequence (props : Properties) {due : Due} (h : due.slot? = some .item) :
      Starts after (.sequenceStart props) (due :: after)
  | mapping (props : Properties) {due : Due} (h : due.slot? = some .key) :
      Starts after (.mappingStart props) (due :: after)

/-- What is due before and after an event. -/
inductive Moves : List Due → Event → List Due → Prop where
  | root {due : Due} {outer due' : List Due} {event : Event} (h : due.slot? = none) (hstarts : Starts outer event due') :
      Moves (due :: outer) event due'
  | child {due next : Due} {outer due' : List Due} {event : Event} {s : Slot} (h : due.slot? = some s)
      (hnext : next.slot? = some s.next) (hstarts : Starts (next :: outer) event due') :
      Moves (due :: outer) event due'
  | sequenceEnd {due : Due} {outer : List Due} (h : due.slot? = some .item) : Moves (due :: outer) .sequenceEnd outer
  | mappingEnd {due : Due} {outer : List Due} (h : due.slot? = some .key) : Moves (due :: outer) .mappingEnd outer
  | documentStart {due : List Due} {content : Due} (h : content.slot? = none) :
      Moves due .documentStart [content, .documentClose]
  | documentEnd {due due' : List Due} : Moves due .documentEnd due'
  | streamEnd {due due' : List Due} : Moves due .streamEnd due'

theorem exists_of_moves_documentStart {due due' : List Due} (h : Moves due .documentStart due') :
    ∃ content : Due, content.slot? = none ∧ due' = [content, .documentClose] := by
  cases h with
  | root _ hstarts => cases hstarts
  | child _ _ hstarts => cases hstarts
  | documentStart hcontent => exact ⟨_, hcontent, rfl⟩

namespace EventReader

theorem due_readProperties (r : EventReader) : r.readProperties.2.2.due = r.due := by
  rw [readProperties]
  split <;> rfl

theorem starts_of_readNode? {inBlock mayLackIndent : Bool} {r r' : EventReader} {event : Event}
    (h : r.readNode? inBlock mayLackIndent = some (event, r')) : Starts r.due event r'.due := by
  have hdue := r.due_readProperties
  rw [readNode?] at h
  split at h
  · cases h
    exact .«alias» _
  generalize r.readProperties = read at h hdue
  obtain ⟨anchor, rawTag, q⟩ := read
  rw [← hdue]
  simp only at h
  split at h
  · cases h
  · cases h
  next t _ _ =>
    have hempty {c : Prop} [Decidable c] {props : Properties}
        (h : (if c then some (Event.scalar props true [], q) else none) = some (event, r')) :
        Starts q.due event r'.due := by
      split at h
      · cases h
        exact .scalar _ _ _
      · cases h
    cases t <;> simp only at h
    case blockEntry =>
      split at h
      · cases h
        exact .sequence _ rfl
      · exact hempty h
    case scalar =>
      cases h
      exact .scalar _ _ _
    case flowSequenceStart =>
      cases h
      exact .sequence _ rfl
    case flowMappingStart =>
      cases h
      exact .mapping _ rfl
    case blockSequenceStart =>
      split at h
      · cases h
        exact .sequence _ rfl
      · exact hempty h
    case blockMappingStart =>
      split at h
      · cases h
        exact .mapping _ rfl
      · exact hempty h
    all_goals exact hempty h

theorem starts_of_readNodeUnless? {inBlock mayLackIndent : Bool} {stops : List Token} {due : Due} {r r' : EventReader}
    {event : Event} (h : r.readNodeUnless? inBlock mayLackIndent stops due = some (event, r')) :
    Starts (due :: r.due) event r'.due := by
  rw [readNodeUnless?] at h
  split at h
  · cases h
  split at h
  · cases h
    exact .scalar _ _ _
  · exact starts_of_readNode? h

theorem moves_of_readDocumentStart? {isFirst : Bool} {r r' : EventReader} {event : Event} (before : List Due)
    (h : r.readDocumentStart? isFirst = some (event, r')) : Moves before event r'.due := by
  rw [readDocumentStart?] at h
  simp only at h
  split at h
  · cases h
  · cases h
    exact .streamEnd
  split at h
  all_goals
    split at h
    · cases h
      exact .documentStart rfl
    · split at h
      · cases h
        exact .documentStart rfl
      · cases h

theorem moves_of_readFlowItem? {due : Due} (hdue : due.slot? = some .item) {r r' : EventReader} {event : Event}
    (h : r.readFlowItem? = some (event, r')) : Moves (due :: r.due) event r'.due := by
  rw [readFlowItem?] at h
  split at h
  · cases h
  · cases h
    exact .child hdue rfl (.mapping _ rfl)
  · cases h
    exact .sequenceEnd hdue
  · exact .child hdue rfl (starts_of_readNode? h)

theorem moves_of_readFlowKey? {due : Due} (hdue : due.slot? = some .key) {r r' : EventReader} {event : Event}
    (h : r.readFlowKey? = some (event, r')) : Moves (due :: r.due) event r'.due := by
  rw [readFlowKey?] at h
  split at h
  · cases h
  · have hstarts := starts_of_readNodeUnless? h
    exact .child hdue rfl hstarts
  · cases h
    exact .mappingEnd hdue
  · exact .child hdue rfl (starts_of_readNode? h)

/-- What is due changes with an event in one of few ways. -/
theorem moves_of_next? {r r' : EventReader} {event : Event} (h : r.next? = some (event, r')) :
    Moves r.due event r'.due := by
  rw [next?] at h
  split at h
  · cases h
  next due outer hdue =>
    rw [hdue]
    cases due <;> simp only at h
    case firstDocument => exact moves_of_readDocumentStart? _ h
    case furtherDocument => exact moves_of_readDocumentStart? _ h
    case documentContent =>
      split at h
      case h_1 => cases h
      case h_6 => exact .root rfl (starts_of_readNode? h)
      all_goals
        cases h
        exact .root rfl (.scalar _ _ _)
    case documentClose =>
      split at h
      · cases h
      · cases h
        exact .documentEnd
      · cases h
        exact .documentEnd
    case blockNode => exact .root rfl (starts_of_readNode? h)
    case blockItem =>
      split at h
      · exact .child rfl rfl (starts_of_readNodeUnless? h)
      · cases h
        exact .sequenceEnd rfl
      · cases h
    case indentlessItem =>
      split at h
      · cases h
      · exact .child rfl rfl (starts_of_readNodeUnless? h)
      · cases h
        exact .sequenceEnd rfl
    case blockKey =>
      split at h
      · exact .child rfl rfl (starts_of_readNodeUnless? h)
      · cases h
        exact .mappingEnd rfl
      · cases h
    case blockValue =>
      split at h
      · cases h
      · exact .child rfl rfl (starts_of_readNodeUnless? h)
      · cases h
        exact .child rfl rfl (.scalar {} true [])
    case flowItem isFirst =>
      split at h
      · exact moves_of_readFlowItem? rfl h
      · cases h
        exact .sequenceEnd rfl
      · exact moves_of_readFlowItem? rfl h
      · cases h
    case pairKey =>
      split at h
      case h_1 => cases h
      case h_5 => exact .child rfl rfl (starts_of_readNode? h)
      all_goals
        cases h
        exact .child rfl rfl (.scalar {} true [])
    case pairValue =>
      split at h
      · cases h
      · exact .child rfl rfl (starts_of_readNodeUnless? h)
      · cases h
        exact .child rfl rfl (.scalar {} true [])
    case pairClose =>
      obtain ⟨_, _, h⟩ := Option.map_eq_some_iff.mp h
      cases h
      exact .mappingEnd rfl
    case flowKey isFirst =>
      split at h
      · exact moves_of_readFlowKey? rfl h
      · cases h
        exact .mappingEnd rfl
      · exact moves_of_readFlowKey? rfl h
      · cases h
    case flowValue =>
      split at h
      · cases h
      · exact .child rfl rfl (starts_of_readNodeUnless? h)
      · cases h
        exact .child rfl rfl (.scalar {} true [])
    case flowNoValue =>
      obtain ⟨_, _, h⟩ := Option.map_eq_some_iff.mp h
      cases h
      exact .child rfl rfl (.scalar {} true [])
    case nothing => cases h

/-- The events that a reader may give, one after the other. -/
inductive Emits : EventReader → List Event → Prop where
  | stop (r : EventReader) : Emits r []
  | event {r r' : EventReader} {event : Event} {events : List Event} (h : r.next? = some (event, r'))
      (hrest : Emits r' events) : Emits r (event :: events)

theorem exists_emits_run (fuel : Nat) (r : EventReader) (before : List Event) :
    ∃ events, run fuel r before = before.reverse ++ events ∧ Emits r events := by
  induction fuel generalizing r before with
  | zero => exact ⟨[], (List.append_nil _).symm, .stop r⟩
  | succ fuel ih =>
    rw [run]
    cases h : r.next? with
    | none => exact ⟨[], (List.append_nil _).symm, .stop r⟩
    | some next =>
      obtain ⟨event, r'⟩ := next
      obtain ⟨events, hrun, hemits⟩ := ih r' (event :: before)
      refine ⟨event :: events, ?_, .event h hemits⟩
      simp only [hrun, List.reverse_cons, List.append_assoc, List.singleton_append]

end EventReader

/-! ## Trees in the making -/

theorem areWhole_iff (nodes : List Node) : areWhole nodes = true ↔ ∀ node ∈ nodes, node.isWhole = true := by
  induction nodes with
  | nil => simp [areWhole]
  | cons node nodes ih => simp [areWhole, ih]

theorem areWholeEntries_iff (entries : List (Node × Node)) :
    areWholeEntries entries = true ↔ ∀ entry ∈ entries, entry.1.isWhole = true ∧ entry.2.isWhole = true := by
  induction entries with
  | nil => simp [areWholeEntries]
  | cons entry entries ih => simp [areWholeEntries, ih]

theorem areWholeEntries_pairUp {nodes : List Node} (h : ∀ node ∈ nodes, node.isWhole = true) (hlength : nodes.length % 2 = 0) :
    areWholeEntries (pairUp nodes) = true := by
  fun_induction pairUp nodes with
  | case1 => rfl
  | case2 => cases hlength
  | case3 key value rest ih =>
    obtain ⟨hkey, hvalue, hrest⟩ : key.isWhole = true ∧ value.isWhole = true ∧ ∀ node ∈ rest, node.isWhole = true := by
      simpa using h
    have hlength' : rest.length % 2 = 0 := by
      rw [List.length_cons, List.length_cons] at hlength
      omega
    rw [areWholeEntries, hkey, hvalue, ih hrest hlength']
    rfl

/-- Whether the open collections are those inside which something is due, when `pending` nodes more are taken to be in
the innermost one. Around it, the one that is open is still to come. -/
def Aligned : Nat → List Due → List OpenNode → Prop
  | _, [], opened => opened = []
  | pending, due :: outer, opened =>
    match due.slot? with
    | none => opened = [] ∧ Aligned 1 outer []
    | some s => ∃ o rest, opened = o :: rest ∧ s.Fits o.isMapping (o.before.length + pending) ∧ Aligned 1 outer rest

namespace TreeBuilder
variable {b b' : TreeBuilder}

/-- Nothing that has been finished so far is cut off. -/
structure IsWhole (b : TreeBuilder) : Prop where
  root : ∀ node, b.root = some node → node.isWhole = true
  opened : ∀ o ∈ b.opened, ∀ node ∈ o.before, node.isWhole = true
  anchored : ∀ a ∈ b.anchored, a.2.isWhole = true ∧ ∀ n, a.2 ≠ .«alias» n

theorem opened_add (b : TreeBuilder) (anchored : Option Nat) (node : Node) :
    (b.add anchored node).opened =
      match b.opened with
      | [] => []
      | o :: outer => { o with before := node :: o.before } :: outer := by
  obtain ⟨root, opened, names, latest, count, finished⟩ := b
  cases anchored <;> cases opened <;> rfl

theorem aligned_add {due : List Due} (h : Aligned 1 due b.opened) (anchored : Option Nat) (node : Node) :
    Aligned 0 due (b.add anchored node).opened := by
  rw [opened_add]
  cases due with
  | nil =>
    rw [Aligned] at h
    rw [h]
    rfl
  | cons due outer =>
    rw [Aligned] at h
    cases hslot : due.slot? with
    | none =>
      rw [hslot] at h
      obtain ⟨hopened, houter⟩ := h
      rw [hopened, Aligned, hslot]
      exact ⟨rfl, houter⟩
    | some s =>
      rw [hslot] at h
      obtain ⟨o, rest, hopened, hfits, houter⟩ := h
      rw [hopened, Aligned, hslot]
      exact ⟨_, rest, rfl, hfits, houter⟩

theorem anchored_add (b : TreeBuilder) (anchored : Option Nat) (node : Node) :
    (b.add anchored node).anchored = (anchored.map fun n => (n, node)).toList ++ b.anchored := by
  obtain ⟨root, opened, names, latest, count, finished⟩ := b
  cases anchored <;> cases opened <;> rfl

theorem root_add (b : TreeBuilder) (anchored : Option Nat) (node : Node) :
    (b.add anchored node).root = if b.opened = [] then b.root.or (some node) else b.root := by
  obtain ⟨root, opened, names, latest, count, finished⟩ := b
  cases anchored <;> cases opened <;> rfl

theorem IsWhole.add (h : b.IsWhole) {node : Node} (hnode : node.isWhole = true) {anchored : Option Nat}
    (halias : anchored = none ∨ ∀ n, node ≠ .«alias» n) : (b.add anchored node).IsWhole := by
  constructor
  case root =>
    intro found hfound
    rw [root_add] at hfound
    cases hroot : b.root with
    | none =>
      rw [hroot] at hfound
      split at hfound
      · exact Option.some.inj hfound ▸ hnode
      · cases hfound
    | some first =>
      rw [hroot, Option.some_or, ite_self] at hfound
      exact h.root found (hroot.trans hfound)
  case opened =>
    rw [opened_add]
    cases hopened : b.opened with
    | nil => exact List.forall_mem_nil _
    | cons o outer =>
      obtain ⟨ho, houter⟩ := List.forall_mem_cons.mp (hopened ▸ h.opened)
      exact List.forall_mem_cons.mpr ⟨List.forall_mem_cons.mpr ⟨hnode, ho⟩, houter⟩
  case anchored =>
    rw [anchored_add]
    cases anchored with
    | none => exact h.anchored
    | some n => exact List.forall_mem_cons.mpr ⟨⟨hnode, halias.resolve_left nofun⟩, h.anchored⟩

theorem IsWhole.anchor (h : b.IsWhole) (name : Option Text) : (b.anchor name).1.IsWhole := by
  cases name with
  | none => exact h
  | some name => exact ⟨h.root, h.opened, h.anchored⟩

theorem opened_anchor (b : TreeBuilder) (name : Option Text) : (b.anchor name).1.opened = b.opened := by
  cases name <;> rfl

/-- A tree whose open collections are those inside which something is due, with nothing cut off. -/
structure Keeps (b : TreeBuilder) (due : List Due) : Prop where
  aligned : Aligned 0 due b.opened
  whole : b.IsWhole

theorem keeps_openNode {due : Due} {after : List Due} {isMapping : Bool} {s : Slot} (hdue : due.slot? = some s)
    (hfits : s.Fits isMapping 0) (haligned : Aligned 1 after b.opened) (hwhole : b.IsWhole) (props : Properties) :
    (b.openNode isMapping props).Keeps (due :: after) := by
  obtain ⟨hroot, hopened, hanchored⟩ := hwhole.anchor props.anchor
  have haligned' : Aligned 1 after (b.anchor props.anchor).1.opened := by rwa [opened_anchor]
  constructor
  · rw [Aligned, hdue]
    exact ⟨_, _, rfl, hfits, haligned'⟩
  · exact ⟨hroot, List.forall_mem_cons.mpr ⟨List.forall_mem_nil _, hopened⟩, hanchored⟩

theorem keeps_of_starts {after due : List Due} {event : Event} (hstarts : Starts after event due)
    (haligned : Aligned 1 after b.opened) (hwhole : b.IsWhole) (h : b.feed? event = some b') : b'.Keeps due := by
  cases hstarts with
  | «alias» name =>
    obtain ⟨n, -, rfl⟩ := Option.map_eq_some_iff.mp h
    exact ⟨aligned_add haligned none _, hwhole.add rfl (.inl rfl)⟩
  | scalar props isPlain t =>
    cases h
    have haligned' : Aligned 1 after (b.anchor props.anchor).1.opened := by rwa [opened_anchor]
    exact ⟨aligned_add haligned' _ _, (hwhole.anchor _).add rfl (.inr nofun)⟩
  | sequence props hdue =>
    cases h
    exact keeps_openNode hdue rfl haligned hwhole props
  | mapping props hdue =>
    cases h
    exact keeps_openNode hdue ⟨rfl, rfl⟩ haligned hwhole props

/-- A collection that is closed is whole: a mapping has a value for every key then. -/
theorem keeps_close {due : Due} {outer : List Due} {s : Slot} (hdue : due.slot? = some s) (hs : s ≠ .value)
    (h : b.Keeps (due :: outer)) : b.close.Keeps outer := by
  obtain ⟨haligned, hroot, hopened, hanchored⟩ := h
  rw [Aligned, hdue] at haligned
  obtain ⟨o, rest, hb, hfits, houter⟩ := haligned
  obtain ⟨ho, hrest⟩ := List.forall_mem_cons.mp (hb ▸ hopened)
  have hbefore : ∀ node ∈ o.before.reverse, node.isWhole = true := fun node hnode => ho node (List.mem_reverse.mp hnode)
  have hwhole : ({ b with opened := rest } : TreeBuilder).IsWhole := ⟨hroot, hrest, hanchored⟩
  have hnode : (if o.isMapping then Node.mapping (pairUp o.before.reverse) else .sequence o.before.reverse).isWhole = true := by
    cases s with
    | item =>
      have hsequence : o.isMapping = false := hfits
      rw [hsequence]
      exact (areWhole_iff _).mpr hbefore
    | key =>
      obtain ⟨hmapping, hcount⟩ := hfits
      rw [hmapping]
      exact areWholeEntries_pairUp hbefore (by rwa [List.length_reverse])
    | value => exact absurd rfl hs
  have halias : ∀ n, (if o.isMapping then Node.mapping (pairUp o.before.reverse) else .sequence o.before.reverse) ≠ .«alias» n := by
    intro n
    split <;> exact nofun
  rw [close, hb]
  exact ⟨aligned_add houter _ _, hwhole.add hnode (.inr halias)⟩

/-- Reader and tree keep in step. -/
theorem keeps_feed? {due due' : List Due} {event : Event} (hmoves : Moves due event due') (hkeeps : b.Keeps due)
    (h : b.feed? event = some b') : b'.Keeps due' := by
  cases hmoves with
  | root hdue hstarts =>
    have haligned := hkeeps.aligned
    rw [Aligned, hdue] at haligned
    exact keeps_of_starts hstarts (haligned.1 ▸ haligned.2) hkeeps.whole h
  | @child due next outer due' event s hdue hnext hstarts =>
    have haligned := hkeeps.aligned
    rw [Aligned, hdue] at haligned
    obtain ⟨o, rest, hb, hfits, houter⟩ := haligned
    have hnextAligned : Aligned 1 (next :: outer) b.opened := by
      rw [Aligned, hnext]
      exact ⟨o, rest, hb, hfits.next, houter⟩
    exact keeps_of_starts hstarts hnextAligned hkeeps.whole h
  | sequenceEnd hdue =>
    cases h
    exact keeps_close hdue nofun hkeeps
  | mappingEnd hdue =>
    cases h
    exact keeps_close hdue nofun hkeeps
  | documentStart _ => cases h
  | documentEnd => cases h
  | streamEnd => cases h

theorem keeps_start {content : Due} (h : content.slot? = none) : ({} : TreeBuilder).Keeps [content, .documentClose] := by
  constructor
  · rw [Aligned, h]
    exact ⟨rfl, rfl, rfl⟩
  · exact ⟨nofun, List.forall_mem_nil _, List.forall_mem_nil _⟩

theorem IsWhole.settled (h : b.IsWhole) (complete : Bool) : (b.toDocument complete).Settled := by
  intro target htarget
  obtain ⟨⟨number, n⟩, -, hmap⟩ := List.mem_filterMap.mp htarget
  obtain ⟨node, hlookup, rfl⟩ := Option.map_eq_some_iff.mp hmap
  exact h.anchored (n, node) (mem_of_lookup_eq_some hlookup)

theorem IsWhole.areWholeEntries_root (h : b.IsWhole) {complete : Bool} {entries : List (Node × Node)}
    (hroot : (b.toDocument complete).root = .mapping entries) : areWholeEntries entries = true := by
  rw [toDocument] at hroot
  cases hb : b.root with
  | none => rw [hb] at hroot; cases hroot
  | some node =>
    have hnode : node = .mapping entries := by rwa [hb] at hroot
    exact h.root _ (hnode ▸ hb)

end TreeBuilder

/-! ## Documents -/

namespace Document

/-- A document in which nothing is cut off. -/
structure IsWhole (d : Document) : Prop where
  settled : d.Settled
  root : ∀ entries, d.root = .mapping entries → areWholeEntries entries = true

theorem readFrom_cons {event : Event} (h : event ≠ .documentEnd) (b : TreeBuilder) (events : List Event) :
    readFrom b (event :: events) =
      match b.feed? event with
      | none => b.breakOff
      | some b => readFrom b events := by
  cases event <;> first | rfl | exact absurd rfl h

theorem isWhole_readFrom {r : EventReader} {events : List Event} (hemits : r.Emits events) {b : TreeBuilder}
    (hkeeps : b.Keeps r.due) (hcomplete : (readFrom b events).complete = true) : (readFrom b events).IsWhole := by
  induction hemits generalizing b with
  | stop r => cases hcomplete
  | @event r r' event events hnext _ ih =>
    by_cases hend : event = .documentEnd
    · subst hend
      exact ⟨hkeeps.whole.settled _, fun _ hroot => hkeeps.whole.areWholeEntries_root hroot⟩
    · rw [readFrom_cons hend] at hcomplete ⊢
      cases hfeed : b.feed? event with
      | none => rw [hfeed] at hcomplete; cases hcomplete
      | some b' =>
        rw [hfeed] at hcomplete
        exact ih (TreeBuilder.keeps_feed? (EventReader.moves_of_next? hnext) hkeeps hfeed) hcomplete

/-- **Complete documents.** Nothing is cut off in a text that is well-formed to its end. -/
theorem isWhole_ofText {t : Text} (h : (ofText t).complete = true) : (ofText t).IsWhole := by
  rw [ofText, Event.ofTokens] at h ⊢
  obtain ⟨events, hrun, hemits⟩ := EventReader.exists_emits_run (4 * (Token.ofText t).length + 4)
    { tokens := Token.ofText t, due := [.firstDocument], handles := [] } []
  rw [hrun, List.reverse_nil, List.nil_append] at h ⊢
  cases hemits with
  | stop r => cases h
  | @event r r' event events hnext hrest =>
    cases event with
    | documentStart =>
      obtain ⟨content, hcontent, hdue⟩ := exists_of_moves_documentStart (EventReader.moves_of_next? hnext)
      exact isWhole_readFrom hrest (hdue ▸ TreeBuilder.keeps_start hcontent) h
    | streamEnd => exact ⟨List.forall_mem_nil _, nofun⟩
    | _ => cases h

end Document
end BlockHarness.Yaml
