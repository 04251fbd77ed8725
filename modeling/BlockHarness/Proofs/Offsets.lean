import BlockHarness.Proofs.RawExtraction

/-! Positions counted in octets. Every character begins with an octet that goes on with no other one, so a word is
found in the octets of a text only where it stands in the text. Looking for markers in octets and looking for them in
characters therefore find the same places, all of them between two characters, and what is cut out there is the content. -/
namespace BlockHarness
set_option autoImplicit false

namespace Utf8

/-! ## Octets of characters -/

/-- Whether an octet goes on with a character. -/
def isContinuation (x : UInt8) : Bool := 0x80 ≤ x.toNat && x.toNat < 0xC0

theorem isContinuation_lead {n : Nat} (h : n < 0x80 ∨ 0xC0 ≤ n) (hn : n < 0x100) :
    isContinuation n.toUInt8 = false := by
  rw [isContinuation, toNat_toUInt8 hn, Bool.and_eq_false_iff, decide_eq_false_iff_not, decide_eq_false_iff_not]
  omega

theorem isContinuation_low (n : Nat) : isContinuation (0x80 + n % 64).toUInt8 = true := by
  rw [isContinuation, toNat_toUInt8 (by omega), Bool.and_eq_true, decide_eq_true_eq, decide_eq_true_eq]
  omega

/-- The first octet of a character does not go on with one, and all others do. -/
theorem exists_encodeChar_eq (c : Char) :
    ∃ x rest, encodeChar c = x :: rest ∧ isContinuation x = false ∧ ∀ y ∈ rest, isContinuation y = true := by
  have hvalid : c.toNat < 0x110000 := by
    rcases c.valid with h | ⟨-, h⟩
    · exact Nat.lt_trans h (by decide)
    · exact h
  have hlast : ∀ y ∈ [(0x80 + c.toNat % 64).toUInt8], isContinuation y = true :=
    List.forall_mem_singleton.mpr (isContinuation_low _)
  have hlastTwo : ∀ y ∈ [(0x80 + c.toNat / 64 % 64).toUInt8, (0x80 + c.toNat % 64).toUInt8],
      isContinuation y = true := List.forall_mem_cons.mpr ⟨isContinuation_low _, hlast⟩
  rw [encodeChar]
  split
  · exact ⟨_, _, rfl, isContinuation_lead (by omega) (by omega), List.forall_mem_nil _⟩
  split
  · exact ⟨_, _, rfl, isContinuation_lead (by omega) (by omega), hlast⟩
  split
  · exact ⟨_, _, rfl, isContinuation_lead (by omega) (by omega), hlastTwo⟩
  · exact ⟨_, _, rfl, isContinuation_lead (by omega) (by omega),
      List.forall_mem_cons.mpr ⟨isContinuation_low _, hlastTwo⟩⟩

theorem encode_cons (c : Char) (t : Text) : encode (c :: t) = encodeChar c ++ encode t := List.flatMap_cons

theorem encode_ne_nil {t : Text} (h : t ≠ []) : encode t ≠ [] := by
  obtain ⟨c, t, rfl⟩ := List.exists_cons_of_ne_nil h
  obtain ⟨x, rest, hc, -, -⟩ := exists_encodeChar_eq c
  rw [encode_cons, hc]
  exact List.cons_ne_nil _ _

theorem encode_prefix_iff (w t : Text) : encode w <+: encode t ↔ w <+: t := by
  constructor
  · rintro ⟨rest, h⟩
    have hread := decodeLossy_encode_append w rest
    rw [h, decodeLossy_encode] at hread
    exact ⟨decodeLossy rest, hread.symm⟩
  · rintro ⟨u, rfl⟩
    exact ⟨encode u, (encode_append w u).symm⟩

/-- The octets of a word do not begin in the middle of a character. -/
theorem not_prefix_of_isContinuation {w : Text} (hw : w ≠ []) {x : UInt8} (hx : isContinuation x = true)
    (octets : Octets) : ¬ encode w <+: x :: octets := by
  obtain ⟨c, w, rfl⟩ := List.exists_cons_of_ne_nil hw
  obtain ⟨y, rest, hc, hy, -⟩ := exists_encodeChar_eq c
  rintro ⟨v, h⟩
  rw [encode_cons, hc] at h
  obtain ⟨rfl, -⟩ := List.cons.inj h
  rw [hy] at hx
  cases hx

/-! ## Offsets -/

theorem size_eq (t : Text) : size t = (encode t).length := by
  have hfold (n : Nat) : t.foldl (fun n c => n + (encodeChar c).length) n = n + (encode t).length := by
    induction t generalizing n with
    | nil => rfl
    | cons c t ih => rw [List.foldl_cons, ih, encode_cons, List.length_append, Nat.add_assoc]
  rw [size, hfold, Nat.zero_add]

theorem size_append (t u : Text) : size (t ++ u) = size t + size u := by
  simp only [size_eq, encode_append, List.length_append]

theorem size_pos {t : Text} (h : t ≠ []) : 0 < size t := by
  rw [size_eq]
  exact List.length_pos_iff.mpr (encode_ne_nil h)

/-- The number of octets in front of the character at a position. -/
def offset (t : Text) (i : Nat) : Nat := size (t.take i)

theorem offset_append_left (t u : Text) : offset (t ++ u) t.length = size t := by rw [offset, List.take_left]

theorem offset_add (t : Text) (i n : Nat) : offset t (i + n) = offset t i + size ((t.drop i).take n) := by
  rw [offset, offset, List.take_add, size_append]

theorem offset_le (t : Text) (i : Nat) : offset t i ≤ size t := by
  have h := size_append (t.take i) (t.drop i)
  rw [List.take_append_drop] at h
  rw [offset]
  omega

theorem offset_mono (t : Text) {i j : Nat} (h : i ≤ j) : offset t i ≤ offset t j := by
  obtain ⟨n, rfl⟩ := Nat.exists_eq_add_of_le h
  rw [offset_add]
  exact Nat.le_add_right _ _

/-- Within a text, later positions have greater offsets. -/
theorem offset_lt_iff {t : Text} {i j : Nat} (hj : j ≤ t.length) : offset t i < offset t j ↔ i < j := by
  constructor
  · intro h
    refine Nat.lt_of_not_le fun hle => ?_
    have hmono := offset_mono t hle
    omega
  · intro h
    obtain ⟨n, rfl⟩ := Nat.exists_eq_add_of_lt h
    have hne : (t.drop i).take (n + 1) ≠ [] := by
      rw [← List.length_pos_iff, List.length_take, List.length_drop]
      omega
    have hpos := size_pos hne
    rw [Nat.add_assoc, offset_add]
    omega

/-! ## Searching octets -/

theorem firstIndexFrom?_skip {w : Text} (hw : w ≠ []) {skipped : Octets} (h : ∀ x ∈ skipped, isContinuation x = true)
    (n : Nat) (octets : Octets) :
    firstIndexFrom? (encode w) n (skipped ++ octets) = firstIndexFrom? (encode w) (n + skipped.length) octets := by
  induction skipped generalizing n with
  | nil => rfl
  | cons x skipped ih =>
    obtain ⟨hx, hskipped⟩ := List.forall_mem_cons.mp h
    have hprefix : ¬ (encode w).isPrefixOf (x :: (skipped ++ octets)) = true :=
      fun hp => not_prefix_of_isContinuation hw hx _ (List.isPrefixOf_iff_prefix.mp hp)
    rw [List.cons_append, firstIndexFrom?, if_neg hprefix, ih hskipped, List.length_cons, Nat.add_assoc,
      Nat.add_comm 1]

/-- A search behind some characters that have been passed, in octets and in characters. -/
theorem firstIndexFrom?_encode (w before t : Text) :
    firstIndexFrom? (encode w) (encode before).length (encode t) =
      (firstIndexFrom? w before.length t).map (offset (before ++ t)) := by
  induction t generalizing before with
  | nil =>
    have hempty : encode w = [] ↔ w = [] :=
      ⟨fun h => Decidable.byContradiction fun hw => encode_ne_nil hw h, fun h => h ▸ rfl⟩
    have hnil : encode [] = [] := rfl
    simp only [hnil, firstIndexFrom?, hempty]
    split
    · rw [Option.map_some, offset_append_left, size_eq]
    · rfl
  | cons c t ih =>
    obtain ⟨x, rest, hc, -, hrest⟩ := exists_encodeChar_eq c
    have hcons : encode (c :: t) = x :: (rest ++ encode t) := by rw [encode_cons, hc, List.cons_append]
    by_cases hp : w <+: c :: t
    · have hp' : encode w <+: x :: (rest ++ encode t) := hcons ▸ (encode_prefix_iff w (c :: t)).mpr hp
      rw [hcons, firstIndexFrom?, firstIndexFrom?, if_pos (List.isPrefixOf_iff_prefix.mpr hp'),
        if_pos (List.isPrefixOf_iff_prefix.mpr hp), Option.map_some, offset_append_left, size_eq]
    · have hw : w ≠ [] := fun h => hp (h ▸ List.nil_prefix)
      have hp' : ¬ encode w <+: x :: (rest ++ encode t) := by rwa [← hcons, encode_prefix_iff]
      have hbefore : (encode (before ++ [c])).length = (encode before).length + 1 + rest.length := by
        have hsingle : encode [c] = x :: rest := by rw [encode_cons, hc]; exact List.append_nil _
        rw [encode_append, hsingle, List.length_append, List.length_cons]
        omega
      have hlater := ih (before ++ [c])
      rw [hbefore, List.length_append, List.append_assoc, List.singleton_append] at hlater
      rw [hcons, firstIndexFrom?, firstIndexFrom?, if_neg (mt List.isPrefixOf_iff_prefix.mp hp'),
        if_neg (mt List.isPrefixOf_iff_prefix.mp hp), firstIndexFrom?_skip hw hrest, hlater]
      rfl

/-- Looking for octets and looking for characters find the same place, or neither finds one. -/
theorem firstIndex?_encode (w t : Text) : firstIndex? (encode w) (encode t) = (firstIndex? w t).map (offset t) :=
  firstIndexFrom?_encode w [] t

theorem between_encode (opening closing t : Text) :
    between (encode opening) (encode closing) (encode t) =
      (between opening closing t).map fun range => (offset t range.1, offset t range.2) := by
  rw [between, between, firstIndex?_encode, firstIndex?_encode]
  cases hi : firstIndex? opening t with
  | none => rfl
  | some i =>
    cases hj : firstIndex? closing t with
    | none => rfl
    | some j =>
      obtain ⟨u, v, ht, rfl, -⟩ := (firstIndex?_eq_some_iff opening t i).mp hi
      have hle : u.length + opening.length ≤ t.length := by
        rw [ht, List.length_append, List.length_append]
        exact Nat.le_add_right _ _
      have hstart : offset t u.length + (encode opening).length = offset t (u.length + opening.length) := by
        have hopening : (t.drop u.length).take opening.length = opening := by
          rw [ht, List.append_assoc, List.drop_left, List.take_left]
        rw [offset_add, hopening, size_eq opening]
      simp only [Option.map_some, hstart, offset_lt_iff hle]
      split <;> rfl

/-! ## Cutting octets -/

/-- Whether no character of a text reaches over a position in its octets. -/
def isBoundary (octets : Octets) (i : Nat) : Bool :=
  i == 0 || match octets[i]? with
    | some x => !isContinuation x
    | none => i == octets.length

/-- Cuts a stretch out of the octets of a text, which must begin and end between two characters. -/
def cut? (octets : Octets) (start stop : Nat) : Option Octets :=
  if start ≤ stop ∧ isBoundary octets start = true ∧ isBoundary octets stop = true then some (slice octets start stop)
  else none

theorem encode_eq_append (t : Text) (i : Nat) : encode t = encode (t.take i) ++ encode (t.drop i) := by
  rw [← encode_append, List.take_append_drop]

theorem isBoundary_offset (t : Text) (i : Nat) : isBoundary (encode t) (offset t i) = true := by
  have hsplit := encode_eq_append t i
  have hlength : offset t i = (encode (t.take i)).length := size_eq _
  rw [isBoundary, hsplit, hlength, List.getElem?_append_right (Nat.le_refl _), Nat.sub_self]
  cases hrest : t.drop i with
  | nil => simp [encode]
  | cons c rest =>
    obtain ⟨x, more, hc, hx, -⟩ := exists_encodeChar_eq c
    simp [encode_cons, hc, hx]

theorem slice_encode (t : Text) {i j : Nat} (h : i ≤ j) :
    slice (encode t) (offset t i) (offset t j) = encode (slice t i j) := by
  obtain ⟨n, rfl⟩ := Nat.exists_eq_add_of_le h
  have hdrop : (encode t).drop (offset t i) = encode (t.drop i) := by
    rw [encode_eq_append t i, offset, size_eq, List.drop_left]
  have htake : (encode (t.drop i)).take (size ((t.drop i).take n)) = encode ((t.drop i).take n) := by
    rw [encode_eq_append (t.drop i) n, size_eq, List.take_left]
  rw [slice, slice, hdrop, offset_add, Nat.add_sub_cancel_left, Nat.add_sub_cancel_left, htake]

theorem cut?_encode (t : Text) {i j : Nat} (h : i ≤ j) :
    cut? (encode t) (offset t i) (offset t j) = some (encode (slice t i j)) := by
  have hbounds : offset t i ≤ offset t j := offset_mono t h
  rw [cut?, if_pos ⟨hbounds, isBoundary_offset t i, isBoundary_offset t j⟩, slice_encode t h]

end Utf8

/-! ## Blocks -/

namespace BlockName
open Utf8

/-- Where the content of a block starts and ends in octets, counted in octets. -/
def locateOctets (b : BlockName) (octets : Octets) : Except MarkerFault (Nat × Nat) :=
  between (encode b.opening) (encode b.closing) octets

theorem find_eq (b : BlockName) (t : Text) :
    b.find t = ((between b.opening b.closing t).mapError (⟨·, b⟩)).map fun range => slice t range.1 range.2 := by
  rw [find, locate]
  cases between b.opening b.closing t <;> rfl

theorem le_of_between {b : BlockName} {t : Text} {range : Nat × Nat}
    (h : between b.opening b.closing t = .ok range) : range.1 ≤ range.2 := by
  obtain ⟨u, c, v, -, hstart, hstop⟩ := (between_eq_ok_iff b.brackets _ _).mp h
  rw [hstop]
  exact Nat.le_add_right _ _

/-- **Looking for a block in octets.** Every marker is found where the octets of what stands in front of it end; a
block is missing in octets if and only if it is missing in the text, for the same reason; and where it is found, both
ends lie in order between two characters, and the octets cut out there are those of the content. -/
theorem find_octets (b : BlockName) (t : Text) :
    (∀ m ∈ markers, firstIndex? (encode m) (encode t) = (firstIndex? m t).map (offset t)) ∧
    (∀ fault, b.locateOctets (encode t) = .error fault ↔ b.find t = .error ⟨fault, b⟩) ∧
    (∀ start stop, b.locateOctets (encode t) = .ok (start, stop) →
      start ≤ stop ∧ stop ≤ (encode t).length ∧
      isBoundary (encode t) start = true ∧ isBoundary (encode t) stop = true) ∧
    ∀ c, b.find t = .ok c ↔
      ∃ start stop, b.locateOctets (encode t) = .ok (start, stop) ∧ cut? (encode t) start stop = some (encode c) := by
  have hmarkers : ∀ m ∈ markers, firstIndex? (encode m) (encode t) = (firstIndex? m t).map (offset t) :=
    fun m _ => firstIndex?_encode m t
  refine ⟨hmarkers, ?_⟩
  cases hb : between b.opening b.closing t with
  | error fault =>
    have hlocate : b.locateOctets (encode t) = .error fault := by
      rw [locateOctets, between_encode, hb]
      rfl
    have hfind : b.find t = .error ⟨fault, b⟩ := by
      rw [find_eq, hb]
      rfl
    rw [hlocate, hfind]
    simp
  | ok range =>
    have hlocate : b.locateOctets (encode t) = .ok (offset t range.1, offset t range.2) := by
      rw [locateOctets, between_encode, hb]
      rfl
    have hfind : b.find t = .ok (slice t range.1 range.2) := by
      rw [find_eq, hb]
      rfl
    have hle : range.1 ≤ range.2 := le_of_between hb
    have hcut := cut?_encode t hle
    rw [hlocate, hfind]
    refine ⟨fun fault => by simp, fun start stop h => ?_, fun c => ?_⟩
    · cases h
      have hlength : offset t range.2 ≤ (encode t).length := size_eq t ▸ offset_le t range.2
      exact ⟨offset_mono t hle, hlength, isBoundary_offset t _, isBoundary_offset t _⟩
    · constructor
      · intro h
        cases h
        exact ⟨_, _, rfl, hcut⟩
      · rintro ⟨start, stop, h, hc⟩
        cases h
        rw [hcut, Option.some.injEq] at hc
        have hslice : slice t range.1 range.2 = c := by
          rw [← decodeLossy_encode c, ← hc, decodeLossy_encode]
        exact congrArg Except.ok hslice

/-- A block among characters of two, three and four octets. -/
def foreign : Text := "é→𝄞\nBEGIN read buffer\nü€😀\nEND read buffer\n→"

theorem find_octets_foreign :
    firstIndex? (encode readBuffer.opening) (encode foreign) = some 10 ∧
      readBuffer.find foreign = .ok "ü€😀\n" ∧ readBuffer.locateOctets (encode foreign) = .ok (28, 38) ∧
      isBoundary (encode foreign) 28 = true ∧ isBoundary (encode foreign) 38 = true ∧
      cut? (encode foreign) 28 38 = some (encode "ü€😀\n") := by
  obtain ⟨hmarkers, -, hbounds, hfind⟩ := find_octets readBuffer foreign
  have hopening := hmarkers readBuffer.opening (opening_mem_markers _)
  have hcharacters : (firstIndex? readBuffer.opening foreign).map (offset foreign) = some 10 := by decide +kernel
  have hrange : readBuffer.locateOctets (encode foreign) = .ok (28, 38) := by decide +kernel
  have hcut : cut? (encode foreign) 28 38 = some (encode "ü€😀\n") := by decide +kernel
  obtain ⟨-, -, hstart, hstop⟩ := hbounds 28 38 hrange
  exact ⟨hopening.trans hcharacters, (hfind _).mpr ⟨28, 38, hrange, hcut⟩, hrange, hstart, hstop, hcut⟩

end BlockName
end BlockHarness
