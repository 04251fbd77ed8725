import BlockHarness.Proofs.Extraction
import BlockHarness.Text.Utf8

/-! Markers as separators. Two occurrences of markers never share a letter, be the markers written in characters or in
octets. So the first closing marker of a block never begins inside the first opening one, and a text that is cut at some
of its markers holds those and the ones in its pieces, and no other marker. -/
namespace BlockHarness
set_option autoImplicit false

/-! ## Places -/

section Places
variable {α : Type}

/-- A word stands at a position of a list whose first element stands at position `n`. -/
def StandsFrom (w : List α) (n : Nat) (t : List α) (p : Nat) : Prop := ∃ u v, t = u ++ w ++ v ∧ p = n + u.length

/-- A word stands at a position of a list. -/
def Stands (w t : List α) (p : Nat) : Prop := StandsFrom w 0 t p

theorem stands_iff_exists (w t : List α) (p : Nat) : Stands w t p ↔ ∃ u v, t = u ++ w ++ v ∧ p = u.length := by
  simp only [Stands, StandsFrom, Nat.zero_add]

theorem standsFrom_iff_prefix_drop (w : List α) (n : Nat) (t : List α) (p : Nat) :
    StandsFrom w n t p ↔ n ≤ p ∧ p ≤ n + t.length ∧ w <+: t.drop (p - n) := by
  constructor
  · rintro ⟨u, v, rfl, rfl⟩
    have hdrop : (u ++ w ++ v).drop (n + u.length - n) = w ++ v := by
      rw [Nat.add_sub_cancel_left, List.append_assoc, List.drop_left]
    exact ⟨Nat.le_add_right n _, by simp only [List.length_append]; omega, hdrop ▸ List.prefix_append w v⟩
  · rintro ⟨hn, hp, v, hv⟩
    refine ⟨t.take (p - n), v, ?_, ?_⟩
    · rw [List.append_assoc, hv, List.take_append_drop]
    · rw [List.length_take_of_le (by omega)]
      omega

instance [DecidableEq α] (w : List α) (n : Nat) (t : List α) (p : Nat) : Decidable (StandsFrom w n t p) :=
  decidable_of_iff _ (standsFrom_iff_prefix_drop w n t p).symm

instance [DecidableEq α] (w t : List α) (p : Nat) : Decidable (Stands w t p) :=
  inferInstanceAs (Decidable (StandsFrom w 0 t p))

theorem stands_of_firstIndex?_eq_some [DecidableEq α] {w t : List α} {p : Nat} (h : firstIndex? w t = some p) :
    Stands w t p := by
  obtain ⟨u, v, ht, hp, -⟩ := (firstIndex?_eq_some_iff w t p).mp h
  exact (stands_iff_exists w t p).mpr ⟨u, v, ht, hp.symm⟩

end Places

/-! ## Named words -/

/-- Words with names, each ended by one letter and none ending in another. -/
structure Separators {ι α : Type} (stop : α) (write : ι → List α) : Prop where
  ended : ∀ m, EndedBy stop (write m)
  apart : ∀ m m', m ≠ m' → Apart (write m) (write m')

namespace Separators
variable {ι α : Type} {stop : α} {write : ι → List α} (hs : Separators stop write)
include hs

theorem injective : Function.Injective write := by
  intro m m' h
  exact Classical.byContradiction fun hne => (hs.apart m m' hne).ne h

theorem eq_or_apart (m m' : ι) : write m = write m' ∨ Apart (write m) (write m') := by
  by_cases h : m = m'
  · exact .inl (congrArg write h)
  · exact .inr (hs.apart m m' h)

theorem brackets {m m' : ι} (h : m ≠ m') : Brackets stop (write m) (write m') :=
  ⟨hs.ended m, hs.ended m', hs.apart m m' h⟩

/-- Two occurrences that differ in their places or in their words share no letter. -/
theorem disjoint {t : List α} {m m' : ι} {i j : Nat} (h : Stands (write m) t i) (h' : Stands (write m') t j)
    (hne : m ≠ m' ∨ i ≠ j) : i + (write m).length ≤ j ∨ j + (write m').length ≤ i := by
  obtain ⟨u, v, ht, rfl⟩ := (stands_iff_exists _ _ _).mp h
  obtain ⟨x, y, ht', rfl⟩ := (stands_iff_exists _ _ _).mp h'
  rcases (hs.ended m).split (hs.ended m') (hs.eq_or_apart m m') (ht.symm.trans ht')
    with ⟨z, hu, -⟩ | ⟨z, hx, -⟩ | ⟨hux, hw, -⟩
  · have hlength : u.length = x.length + (write m').length + z.length := by rw [hu]; simp only [List.length_append]
    omega
  · have hlength : x.length = u.length + (write m).length + z.length := by rw [hx]; simp only [List.length_append]
    omega
  · rcases hne with hm | hi
    · exact absurd (hs.injective hw) hm
    · exact absurd (congrArg List.length hux) hi

theorem not_inside_firstIndex? [DecidableEq α] {t : List α} {m m' : ι} (hne : m ≠ m') {i j : Nat}
    (hi : firstIndex? (write m) t = some i) (hj : firstIndex? (write m') t = some j) :
    ¬ (i ≤ j ∧ j < i + (write m).length) := by
  have hpos : 0 < (write m').length := List.length_pos_iff.mpr (hs.ended m').ne_nil
  have hdisjoint := hs.disjoint (stands_of_firstIndex?_eq_some hi) (stands_of_firstIndex?_eq_some hj) (.inl hne)
  omega

theorem lt_end_iff [DecidableEq α] {t : List α} {m m' : ι} (hne : m ≠ m') {i j : Nat}
    (hi : firstIndex? (write m) t = some i) (hj : firstIndex? (write m') t = some j) :
    j < i + (write m).length ↔ j < i := by
  have hoff := hs.not_inside_firstIndex? hne hi hj
  omega

/-- What stands in a list around a word stands in front of the word, or behind it, or is the word. -/
theorem standsFrom_append_iff (m m' : ι) (u v : List α) (n p : Nat) :
    StandsFrom (write m') n (u ++ write m ++ v) p ↔
      StandsFrom (write m') n u p ∨ (m' = m ∧ p = n + u.length) ∨
        StandsFrom (write m') (n + u.length + (write m).length) v p := by
  constructor
  · rintro ⟨x, y, h, rfl⟩
    rcases (hs.ended m).split (hs.ended m') (hs.eq_or_apart m m') h with ⟨z, hu, -⟩ | ⟨z, hx, hv⟩ | ⟨hux, hw, -⟩
    · exact .inl ⟨x, z, hu, rfl⟩
    · have hlength : x.length = u.length + (write m).length + z.length := by rw [hx]; simp only [List.length_append]
      exact .inr (.inr ⟨z, y, hv, by omega⟩)
    · exact .inr (.inl ⟨hs.injective hw.symm, by rw [hux]⟩)
  · rintro (⟨x, y, rfl, rfl⟩ | ⟨rfl, rfl⟩ | ⟨x, y, rfl, rfl⟩)
    · exact ⟨x, y ++ write m ++ v, by simp, rfl⟩
    · exact ⟨u, v, rfl, rfl⟩
    · have hlength : (u ++ write m ++ x).length = u.length + (write m).length + x.length := by
        simp only [List.length_append]
      exact ⟨u ++ write m ++ x, y, by simp, by omega⟩

end Separators

/-! ## Divisions -/

/-- A list in pieces, with a named word in front of each one but the first. -/
structure Division (ι α : Type) where
  lead : List α
  parts : List (ι × List α)

section Divisions
variable {ι α : Type} (write : ι → List α)

/-- Where the words stand between some pieces, the first of which begins at position `n`. -/
def separatorsFrom (n : Nat) (lead : List α) : List (ι × List α) → List (ι × Nat)
  | [] => []
  | (m, piece) :: parts =>
    (m, n + lead.length) :: separatorsFrom (n + lead.length + (write m).length) piece parts

/-- Where the pieces begin, the first one at position `n`. -/
def piecesFrom (n : Nat) (lead : List α) : List (ι × List α) → List (List α × Nat)
  | [] => [(lead, n)]
  | (m, piece) :: parts => (lead, n) :: piecesFrom (n + lead.length + (write m).length) piece parts

namespace Division

def text (d : Division ι α) : List α := joined d.lead (d.parts.map fun part => (write part.1, part.2))

def separators (d : Division ι α) : List (ι × Nat) := separatorsFrom write 0 d.lead d.parts

def pieces (d : Division ι α) : List (List α × Nat) := piecesFrom write 0 d.lead d.parts

end Division

variable {write} {stop : α} (hs : Separators stop write)
include hs

theorem Separators.standsFrom_joined_iff (m : ι) (n : Nat) (lead : List α) (parts : List (ι × List α)) (p : Nat) :
    StandsFrom (write m) n (joined lead (parts.map fun part => (write part.1, part.2))) p ↔
      (m, p) ∈ separatorsFrom write n lead parts ∨
        ∃ place ∈ piecesFrom write n lead parts, StandsFrom (write m) place.2 place.1 p := by
  -- piece by piece from the front: the pieces that follow begin where the word in front of them ends
  induction parts generalizing n lead with
  | nil => simp [joined, separatorsFrom, piecesFrom]
  | cons part parts ih =>
    obtain ⟨m', piece⟩ := part
    rw [List.map_cons, joined_cons, hs.standsFrom_append_iff, ih]
    simp only [separatorsFrom, piecesFrom, List.mem_cons, Prod.mk.injEq, or_and_right, exists_or, exists_eq_left]
    constructor
    · rintro (hlead | hword | hsep | hpiece)
      · exact .inr (.inl hlead)
      · exact .inl (.inl hword)
      · exact .inl (.inr hsep)
      · exact .inr (.inr hpiece)
    · rintro ((hword | hsep) | hlead | hpiece)
      · exact .inr (.inl hword)
      · exact .inr (.inr (.inl hsep))
      · exact .inl hlead
      · exact .inr (.inr (.inr hpiece))

theorem Separators.stands_text_iff (d : Division ι α) (m : ι) (p : Nat) :
    Stands (write m) (d.text write) p ↔
      (m, p) ∈ d.separators write ∨ ∃ place ∈ d.pieces write, StandsFrom (write m) place.2 place.1 p :=
  hs.standsFrom_joined_iff m 0 d.lead d.parts p

end Divisions

/-! ## Markers -/

/-- One of the eight markers. -/
inductive Marker where
  | opening (block : BlockName)
  | closing (block : BlockName)
  deriving DecidableEq, Repr

namespace Marker

def all : List Marker := BlockName.all.flatMap fun b => [.opening b, .closing b]

theorem mem_all (m : Marker) : m ∈ all := by
  cases m with
  | opening b => exact List.mem_flatMap.mpr ⟨b, b.mem_all, List.mem_cons_self⟩
  | closing b => exact List.mem_flatMap.mpr ⟨b, b.mem_all, List.mem_cons_of_mem _ List.mem_cons_self⟩

def literal : Marker → Text
  | .opening b => b.opening
  | .closing b => b.closing

def octets (m : Marker) : Octets := Utf8.encode m.literal

theorem map_literal_all : all.map literal = BlockName.markers := rfl

theorem literal_mem_markers (m : Marker) : m.literal ∈ BlockName.markers := by
  rw [← map_literal_all]
  exact List.mem_map_of_mem m.mem_all

theorem literal_injective : Function.Injective literal := by
  intro m m' h
  cases m with
  | opening b =>
    cases m' with
    | opening b' => exact congrArg opening (BlockName.opening_injective h)
    | closing b' => exact absurd h (b.opening_ne_closing b')
  | closing b =>
    cases m' with
    | opening b' => exact absurd h.symm (b'.opening_ne_closing b)
    | closing b' => exact congrArg closing (BlockName.closing_injective h)

theorem separators_literal : Separators '\n' literal where
  ended m := BlockName.endedBy_of_mem_markers m.literal_mem_markers
  apart m m' h :=
    (BlockName.markers_apart m.literal_mem_markers m'.literal_mem_markers).resolve_left (literal_injective.ne h)

theorem separators_octets : Separators 0x0A octets where
  ended m := by
    have hended : ∀ m ∈ all, m.octets = m.octets.dropLast ++ [0x0A] ∧ 0x0A ∉ m.octets.dropLast := by decide
    exact ⟨_, hended m m.mem_all⟩
  apart m m' h := by
    have hapart : ∀ m ∈ all, ∀ m' ∈ all, m ≠ m' → ¬ m.octets <:+ m'.octets := by decide +kernel
    exact ⟨hapart m m.mem_all m' m'.mem_all h, hapart m' m'.mem_all m m.mem_all (Ne.symm h)⟩

/-- No two markers overlap in a list. Their places are disjoint. The first closing marker of a block does not begin
inside the first opening one, so it begins before that has ended exactly if it begins before it, and exactly then the
two are out of order. And where the list is divided by markers, these and the markers in its pieces are all it holds. -/
structure NonOverlapping {α : Type} [DecidableEq α] (write : Marker → List α) (t : List α) : Prop where
  disjoint : ∀ m m' i j, Stands (write m) t i → Stands (write m') t j → m ≠ m' ∨ i ≠ j →
    i + (write m).length ≤ j ∨ j + (write m').length ≤ i
  outside : ∀ b i j, firstIndex? (write (opening b)) t = some i → firstIndex? (write (closing b)) t = some j →
    ¬ (i ≤ j ∧ j < i + (write (opening b)).length)
  lt_end_iff : ∀ b i j, firstIndex? (write (opening b)) t = some i → firstIndex? (write (closing b)) t = some j →
    (j < i + (write (opening b)).length ↔ j < i)
  outOfOrder_iff : ∀ b i j, firstIndex? (write (opening b)) t = some i → firstIndex? (write (closing b)) t = some j →
    (between (write (opening b)) (write (closing b)) t = .error .outOfOrder ↔ j < i)
  divided : ∀ d : Division Marker α, d.text write = t → ∀ m p, Stands (write m) t p ↔
    (m, p) ∈ d.separators write ∨ ∃ place ∈ d.pieces write, StandsFrom (write m) place.2 place.1 p

theorem nonOverlapping_of_separators {α : Type} [DecidableEq α] {stop : α} {write : Marker → List α}
    (hs : Separators stop write) (t : List α) : NonOverlapping write t := by
  have hne (b : BlockName) : opening b ≠ closing b := nofun
  constructor
  case disjoint => exact fun m m' i j => hs.disjoint
  case outside => exact fun b i j => hs.not_inside_firstIndex? (hne b)
  case lt_end_iff => exact fun b i j => hs.lt_end_iff (hne b)
  case outOfOrder_iff =>
    intro b i j hi hj
    simp [between_eq_outOfOrder_iff_lt (hs.brackets (hne b)), hi, hj]
  case divided =>
    rintro d rfl m p
    exact hs.stands_text_iff d m p

/-- **Markers never overlap**, neither in a text nor in octets, and a block of a text is refused for markers out of
order exactly if the first closing one begins before the first opening one does. -/
theorem never_overlap :
    (∀ t : Text, NonOverlapping literal t) ∧ (∀ s : Octets, NonOverlapping octets s) ∧
    ∀ (b : BlockName) (t : Text) (i j : Nat),
      firstIndex? b.opening t = some i → firstIndex? b.closing t = some j →
      (b.find t = .error ⟨.outOfOrder, b⟩ ↔ j < i) := by
  have htext (t : Text) : NonOverlapping literal t := nonOverlapping_of_separators separators_literal t
  refine ⟨htext, nonOverlapping_of_separators separators_octets, ?_⟩
  intro b t i j hi hj
  rw [BlockName.find_eq_fault_iff]
  exact (htext t).outOfOrder_iff b i j hi hj

/-- Halves of markers around whole ones, and a whole one in a piece. -/
def crowded : Division Marker Char where
  lead := "é BEGIN read buf"
  parts := [(closing .assembly, "BEGIN assem"), (closing .readBuffer, "bly\nBEGIN machine code\nEND "),
    (opening .assembly, "fer\n")]

theorem never_overlap_crowded :
    firstIndex? BlockName.assembly.opening (crowded.text literal) = some 83 ∧
      firstIndex? BlockName.assembly.closing (crowded.text literal) = some 16 ∧
      BlockName.assembly.find (crowded.text literal) = .error ⟨.outOfOrder, .assembly⟩ ∧
      Stands (literal (closing .readBuffer)) (crowded.text literal) 40 ∧
      Stands (literal (opening .machineCode)) (crowded.text literal) 60 ∧
      (40 + (literal (closing .readBuffer)).length ≤ 60 ∨ 60 + (literal (opening .machineCode)).length ≤ 40) ∧
      ¬ Stands (literal (opening .assembly)) (crowded.text literal) 29 := by
  obtain ⟨htext, -, hfind⟩ := never_overlap
  have hopening : firstIndex? BlockName.assembly.opening (crowded.text literal) = some 83 := by decide +kernel
  have hclosing : firstIndex? BlockName.assembly.closing (crowded.text literal) = some 16 := by decide +kernel
  have hdivided := (htext _).divided crowded rfl
  have hseparator : (closing .readBuffer, 40) ∈ crowded.separators literal := by decide +kernel
  have hpiece : ∃ place ∈ crowded.pieces literal, StandsFrom (literal (opening .machineCode)) place.2 place.1 60 := by
    decide +kernel
  have hbroken : ¬ ((opening .assembly, 29) ∈ crowded.separators literal ∨
      ∃ place ∈ crowded.pieces literal, StandsFrom (literal (opening .assembly)) place.2 place.1 29) := by
    decide +kernel
  have hclosed := (hdivided _ _).mpr (.inl hseparator)
  have hopened := (hdivided _ _).mpr (.inr hpiece)
  exact ⟨hopening, hclosing, (hfind .assembly _ 83 16 hopening hclosing).mpr (by decide), hclosed, hopened,
    (htext _).disjoint _ _ 40 60 hclosed hopened (.inl nofun), mt (hdivided _ _).mp hbroken⟩

end Marker
end BlockHarness
