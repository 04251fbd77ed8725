import Mathlib.Algebra.Group.Nat.Defs
import BlockHarness.Text.Utf8

/-! What reading makes of octets. A reader cuts them into the octets of characters and into gaps without an octet
below `0x80`; so it falls apart at every such octet, and a text read without a gap is written with the octets read. -/
namespace BlockHarness.Utf8
set_option autoImplicit false

/-! ## Writing one character -/

theorem encodeChar_ascii {c : Char} (h : c.toNat < 0x80) : encodeChar c = [c.toNat.toUInt8] := by
  simp [encodeChar, h]

theorem toNat_ofNat {n : Nat} (h : n.isValidChar) : (Char.ofNat n).toNat = n := by
  rw [Char.ofNat, dif_pos h]
  rfl

theorem encodeChar_two {n : Nat} (hlo : 0x80 ≤ n) (hhi : n < 0x800) :
    encodeChar (Char.ofNat n) = [(0xC0 + n / 64).toUInt8, (0x80 + n % 64).toUInt8] := by
  rw [encodeChar, toNat_ofNat (.inl (by omega))]
  rw [if_neg (by omega), if_pos hhi]

theorem encodeChar_three {n : Nat} (hlo : 0x800 ≤ n) (hhi : n < 0x10000) (hv : n.isValidChar) :
    encodeChar (Char.ofNat n) = [(0xE0 + n / 4096).toUInt8, (0x80 + n / 64 % 64).toUInt8, (0x80 + n % 64).toUInt8] := by
  rw [encodeChar, toNat_ofNat hv]
  rw [if_neg (by omega), if_neg (by omega), if_pos hhi]

theorem encodeChar_four {n : Nat} (hlo : 0x10000 ≤ n) (hv : n.isValidChar) :
    encodeChar (Char.ofNat n) = [(0xF0 + n / 262144).toUInt8, (0x80 + n / 4096 % 64).toUInt8,
      (0x80 + n / 64 % 64).toUInt8, (0x80 + n % 64).toUInt8] := by
  rw [encodeChar, toNat_ofNat hv]
  rw [if_neg (by omega), if_neg (by omega), if_neg (by omega)]

/-! ## What a reader owes -/

/-- The octets that carry the `k` lowest groups of six bits of `n`. -/
def continuation : Nat → Nat → Octets
  | 0, _ => []
  | k + 1, n => (0x80 + n / 64 ^ k % 64).toUInt8 :: continuation k n

/-- What is owed after some octets of a character: every number that goes on as owed is a character, and its octets
begin with those. -/
structure Owed.After (o : Owed) (begun : Octets) : Prop where
  lo_ge : 0x80 ≤ o.lo
  hi_le : o.hi ≤ 0xBF
  begun_ne : begun ≠ []
  begun_high : ∀ x ∈ begun, 0x80 ≤ x.toNat
  completes : ∀ n, n / 64 ^ (o.later + 1) = o.bits → o.lo ≤ 0x80 + n / 64 ^ o.later % 64 →
    0x80 + n / 64 ^ o.later % 64 ≤ o.hi → encodeChar (Char.ofNat n) = begun ++ continuation (o.later + 1) n

/-- An octet as owed is either the last one of a character or leaves the rest of it owed. -/
theorem Owed.After.next {o : Owed} {begun : Octets} (h : o.After begun) {x : UInt8} (hlo : o.lo ≤ x.toNat)
    (hhi : x.toNat ≤ o.hi) :
    match o.later with
    | 0 => encodeChar (Char.ofNat (o.bits * 64 + (x.toNat - 0x80))) = begun ++ [x]
    | later + 1 => Owed.After ⟨0x80, 0xBF, later, o.bits * 64 + (x.toNat - 0x80)⟩ (begun ++ [x]) := by
  have hge := h.lo_ge
  have hle := h.hi_le
  have hx : (0x80 + (x.toNat - 0x80)).toUInt8 = x := by
    rw [show 0x80 + (x.toNat - 0x80) = x.toNat by omega]
    exact UInt8.ofNat_toNat
  cases hl : o.later with
  | zero =>
    have hc := h.completes (o.bits * 64 + (x.toNat - 0x80))
    rw [hl] at hc
    simp only [Nat.pow_zero, Nat.div_one, Nat.zero_add, Nat.pow_one] at hc
    rw [show (o.bits * 64 + (x.toNat - 0x80)) % 64 = x.toNat - 0x80 by omega] at hc
    rw [hc (by omega) (by omega) (by omega)]
    simp only [continuation, Nat.pow_zero, Nat.div_one]
    rw [show (o.bits * 64 + (x.toNat - 0x80)) % 64 = x.toNat - 0x80 by omega, hx]
  | succ later =>
    refine ⟨Nat.le_refl _, Nat.le_refl _, by simp, ?_, ?_⟩
    · intro y hy
      rcases List.mem_append.mp hy with hy | hy
      · exact h.begun_high y hy
      · rw [List.mem_singleton.mp hy]
        omega
    · intro n hn _ _
      simp only at hn
      have hq : n / 64 ^ (later + 1 + 1) = o.bits := by
        rw [Nat.pow_succ, ← Nat.div_div_eq_div_mul, hn]
        omega
      have hr : n / 64 ^ (later + 1) % 64 = x.toNat - 0x80 := by
        rw [hn]
        omega
      have hc := h.completes n
      rw [hl, hr] at hc
      rw [hc hq (by omega) (by omega), continuation, hr, hx]
      simp

theorem toUInt8_eq {x : UInt8} {n : Nat} (h : x.toNat = n) : n.toUInt8 = x := by
  rw [← h]
  exact UInt8.ofNat_toNat

/-! ## The first octet of a character -/

theorem after_two {x : UInt8} {bits : Nat} (hx : x.toNat = 0xC0 + bits) (hlo : 2 ≤ bits) (hhi : bits < 0x20) :
    Owed.After ⟨0x80, 0xBF, 0, bits⟩ [x] := by
  refine ⟨Nat.le_refl _, Nat.le_refl _, by simp, by simp; omega, ?_⟩
  intro n hn _ _
  simp only [Nat.zero_add, Nat.pow_one] at hn
  rw [encodeChar_two (by omega) (by omega), toUInt8_eq (x := x) (by omega)]
  simp only [continuation, Nat.pow_zero, Nat.div_one, List.singleton_append]

theorem after_three {x : UInt8} {lo hi bits : Nat} (hx : x.toNat = 0xE0 + bits) (hb : bits < 0x10) (hlo : 0x80 ≤ lo)
    (hhi : hi ≤ 0xBF) (hshort : bits = 0 → 0xA0 ≤ lo) (hsurrogate : bits = 0xD → hi ≤ 0x9F) :
    Owed.After ⟨lo, hi, 1, bits⟩ [x] := by
  refine ⟨hlo, hhi, by simp, by simp; omega, ?_⟩
  intro n hn hl hh
  simp only [Nat.reduceAdd, Nat.reducePow, Nat.pow_one] at hn hl hh
  have hv : n.isValidChar := by unfold Nat.isValidChar; omega
  rw [encodeChar_three (by omega) (by omega) hv, toUInt8_eq (x := x) (by omega)]
  simp only [continuation, Nat.pow_zero, Nat.pow_one, Nat.div_one, List.singleton_append]

theorem after_four {x : UInt8} {lo hi bits : Nat} (hx : x.toNat = 0xF0 + bits) (hb : bits ≤ 4) (hlo : 0x80 ≤ lo)
    (hhi : hi ≤ 0xBF) (hshort : bits = 0 → 0x90 ≤ lo) (hlast : bits = 4 → hi ≤ 0x8F) :
    Owed.After ⟨lo, hi, 2, bits⟩ [x] := by
  refine ⟨hlo, hhi, by simp, by simp; omega, ?_⟩
  intro n hn hl hh
  simp only [Nat.reduceAdd, Nat.reducePow] at hn hl hh
  have hv : n.isValidChar := by unfold Nat.isValidChar; omega
  rw [encodeChar_four (by omega) hv, toUInt8_eq (x := x) (by omega)]
  simp only [continuation, Nat.reducePow, Nat.pow_zero, Nat.pow_one, Nat.div_one, List.singleton_append]

theorem Reader.lead_ascii (read : List (Option Char)) {b : Nat} (h : b < 0x80) :
    lead read b = ⟨none, some (Char.ofNat b) :: read⟩ := by rw [lead, if_pos h]

/-- A reader has made a gap of an octet, or more is owed after it. -/
def Reader.Opened (read : List (Option Char)) (x : UInt8) (r : Reader) : Prop :=
  r = ⟨none, none :: read⟩ ∨ ∃ o, r = ⟨some o, read⟩ ∧ o.After [x]

theorem Owed.After.opened {o : Owed} {x : UInt8} (h : o.After [x]) (read : List (Option Char)) :
    Reader.Opened read x ⟨some o, read⟩ := .inr ⟨o, rfl, h⟩

/-- An octet that is no character by itself is a gap or begins a character, whichever range it is in. -/
theorem Reader.lead_high (read : List (Option Char)) {x : UInt8} (h : 0x80 ≤ x.toNat) :
    Opened read x (lead read x.toNat) := by
  have hlt := x.toNat_lt
  have hgap : Opened read x ⟨none, none :: read⟩ := .inl rfl
  unfold lead
  -- overlong forms and surrogates narrow the range after some first octets
  refine
    iteInduction (fun _ => ?ascii) fun _ => iteInduction (fun _ => hgap) fun _ =>
    iteInduction (fun _ => ?two) fun _ => iteInduction (fun _ => ?three_first) fun _ =>
    iteInduction (fun _ => ?three_surrogates) fun _ => iteInduction (fun _ => ?three) fun _ =>
    iteInduction (fun _ => ?four_first) fun _ => iteInduction (fun _ => ?four) fun _ =>
    iteInduction (fun _ => ?four_last) fun _ => hgap
  case ascii => omega
  case two => exact (after_two (by omega) (by omega) (by omega)).opened read
  case three_first | three_surrogates | three =>
    exact (after_three (by omega) (by omega) (by omega) (by omega) (by omega) (by omega)).opened read
  case four_first | four | four_last =>
    exact (after_four (by omega) (by omega) (by omega) (by omega) (by omega) (by omega)).opened read

/-! ## What has been read -/

/-- Characters and gaps, last one first, and octets that they are read from: those of each character, and for every
gap some octets none of which is a character by itself. -/
inductive Covered : List (Option Char) → Octets → Prop where
  | start : Covered [] []
  | char {read : List (Option Char)} {s : Octets} (c : Char) :
      Covered read s → Covered (some c :: read) (s ++ encodeChar c)
  | gap {read : List (Option Char)} {s g : Octets} :
      Covered read s → g ≠ [] → (∀ x ∈ g, 0x80 ≤ x.toNat) → Covered (none :: read) (s ++ g)

/-- A reader has read some octets, and those that it has not yet made anything of begin a character. -/
def Reader.Has (r : Reader) (octets : Octets) : Prop :=
  ∃ s begun, octets = s ++ begun ∧ Covered r.read s ∧
    match r.owed with
    | none => begun = []
    | some o => o.After begun

theorem Reader.start_has : Reader.start.Has [] := ⟨[], [], rfl, .start, rfl⟩

theorem Reader.lead_has {read : List (Option Char)} {s : Octets} (h : Covered read s) (x : UInt8) :
    (lead read x.toNat).Has (s ++ [x]) := by
  by_cases hx : x.toNat < 0x80
  · rw [lead_ascii read hx]
    have hv : x.toNat.isValidChar := .inl (by omega)
    have hc : encodeChar (Char.ofNat x.toNat) = [x] := by
      rw [encodeChar_ascii (by rw [toNat_ofNat hv]; exact hx), toNat_ofNat hv, toUInt8_eq rfl]
    exact ⟨s ++ [x], [], by simp, hc ▸ h.char (Char.ofNat x.toNat), rfl⟩
  · have hhigh : 0x80 ≤ x.toNat := by omega
    rcases lead_high read hhigh with he | ⟨o, he, ho⟩
    · rw [he]
      exact ⟨s ++ [x], [], by simp, h.gap (by simp) (by simpa using hhigh), rfl⟩
    · rw [he]
      exact ⟨s, [x], rfl, h, ho⟩

theorem Reader.Has.feed {r : Reader} {octets : Octets} (h : r.Has octets) (x : UInt8) :
    (r.feed x).Has (octets ++ [x]) := by
  obtain ⟨owed, read⟩ := r
  obtain ⟨s, begun, rfl, hs, ho⟩ := h
  cases owed with
  | none =>
    obtain rfl : begun = [] := ho
    rw [List.append_nil]
    exact lead_has hs x
  | some o =>
    have ho : o.After begun := ho
    unfold Reader.feed
    simp only
    split
    next hx =>
      have hn := ho.next hx.1 hx.2
      split
      next hl =>
        rw [hl] at hn
        exact ⟨s ++ (begun ++ [x]), [], by simp, hn ▸ hs.char _, rfl⟩
      next later hl =>
        rw [hl] at hn
        exact ⟨s, begun ++ [x], by simp, hs, hn⟩
    next => exact lead_has (hs.gap ho.begun_ne ho.begun_high) x

theorem Reader.Has.foldl_feed {r : Reader} {before : Octets} (h : r.Has before) (octets : Octets) :
    (octets.foldl Reader.feed r).Has (before ++ octets) := by
  induction octets generalizing r before with
  | nil => simpa using h
  | cons x octets ih =>
    have := ih (h.feed x)
    rwa [List.append_assoc, List.singleton_append] at this

theorem covered_pieces (octets : Octets) : Covered (pieces octets).reverse octets := by
  have h := Reader.start_has.foldl_feed octets
  rw [List.nil_append] at h
  rw [pieces]
  generalize octets.foldl Reader.feed Reader.start = r at h ⊢
  obtain ⟨owed, read⟩ := r
  obtain ⟨s, begun, rfl, hs, ho⟩ := h
  cases owed with
  | none =>
    obtain rfl : begun = [] := ho
    simpa [Reader.finish] using hs
  | some o =>
    have ho : o.After begun := ho
    simpa [Reader.finish] using hs.gap ho.begun_ne ho.begun_high

/-! ## Reading in two parts -/

/-- A reader that had read something else before. -/
def Reader.behind (r : Reader) (base : List (Option Char)) : Reader := ⟨r.owed, r.read ++ base⟩

theorem Reader.lead_behind (read base : List (Option Char)) (b : Nat) :
    lead (read ++ base) b = (lead read b).behind base := by
  simp only [lead, apply_ite fun r : Reader => r.behind base]
  rfl

theorem Reader.feed_behind (r : Reader) (base : List (Option Char)) (x : UInt8) :
    (r.behind base).feed x = (r.feed x).behind base := by
  obtain ⟨owed, read⟩ := r
  cases owed with
  | none => exact lead_behind read base x.toNat
  | some o =>
    simp only [feed, behind]
    split
    · split <;> rfl
    · exact lead_behind (none :: read) base x.toNat

theorem Reader.foldl_feed_behind (r : Reader) (base : List (Option Char)) (octets : Octets) :
    octets.foldl feed (r.behind base) = (octets.foldl feed r).behind base := by
  induction octets generalizing r with
  | nil => rfl
  | cons x octets ih => rw [List.foldl_cons, feed_behind, ih, List.foldl_cons]

theorem Reader.finish_behind (r : Reader) (base : List (Option Char)) :
    (r.behind base).finish = base.reverse ++ r.finish := by
  obtain ⟨owed, read⟩ := r
  cases owed <;> simp [finish, behind]

/-- An octet that is a character by itself ends whatever was read before it. -/
theorem Reader.Has.feed_ascii {r : Reader} {octets : Octets} (h : r.Has octets) {x : UInt8} (hx : x.toNat < 0x80) :
    r.feed x = Reader.start.behind (some (Char.ofNat x.toNat) :: r.finish.reverse) := by
  obtain ⟨owed, read⟩ := r
  obtain ⟨s, begun, -, -, ho⟩ := h
  cases owed with
  | none => simp [Reader.feed, lead_ascii read hx, Reader.finish, behind, start]
  | some o =>
    have hlo : 0x80 ≤ o.lo := Owed.After.lo_ge ho
    have hout : ¬ (o.lo ≤ x.toNat ∧ x.toNat ≤ o.hi) := by omega
    simp [Reader.feed, hout, lead_ascii (none :: read) hx, Reader.finish, behind, start]

theorem pieces_append_ascii (a b : Octets) {x : UInt8} (hx : x.toNat < 0x80) :
    pieces (a ++ x :: b) = pieces a ++ some (Char.ofNat x.toNat) :: pieces b := by
  have ha := Reader.start_has.foldl_feed a
  rw [pieces, List.foldl_append, List.foldl_cons, ha.feed_ascii hx, Reader.foldl_feed_behind, Reader.finish_behind]
  simp [pieces]

/-! ## Lossy reading -/

theorem decodeLossy_append_ascii (a b : Octets) {x : UInt8} (hx : x.toNat < 0x80) :
    decodeLossy (a ++ x :: b) = decodeLossy a ++ Char.ofNat x.toNat :: decodeLossy b := by
  simp [decodeLossy, pieces_append_ascii a b hx]

theorem Covered.octets_eq_nil {octets : Octets} (h : Covered [] octets) : octets = [] := by
  cases h
  rfl

theorem decodeLossy_eq_nil_iff (octets : Octets) : decodeLossy octets = [] ↔ octets = [] := by
  constructor
  · intro h
    have hp : pieces octets = [] := List.map_eq_nil_iff.mp h
    have hc := covered_pieces octets
    rw [hp] at hc
    exact hc.octets_eq_nil
  · rintro rfl
    rfl

theorem encodeChar_head_ascii {c : Char} (h : ∀ x ∈ encodeChar c, 0x80 ≤ x.toNat) : 0x80 ≤ c.toNat := by
  by_cases hc : c.toNat < 0x80
  · rw [encodeChar_ascii hc] at h
    have := h _ List.mem_cons_self
    simp at this
    omega
  · omega

theorem Covered.high_of_high {read : List (Option Char)} {octets : Octets} (h : Covered read octets)
    (hx : ∀ x ∈ octets, 0x80 ≤ x.toNat) : ∀ c, some c ∈ read → 0x80 ≤ c.toNat := by
  induction h with
  | start => simp
  | char c _ ih =>
    simp only [List.mem_append] at hx
    intro d hd
    rcases List.mem_cons.mp hd with hd | hd
    · rw [Option.some.inj hd]
      exact encodeChar_head_ascii fun x hm => hx x (.inr hm)
    · exact ih (fun x hm => hx x (.inl hm)) d hd
  | gap _ _ _ ih =>
    simp only [List.mem_append] at hx
    intro d hd
    rcases List.mem_cons.mp hd with hd | hd
    · cases hd
    · exact ih (fun x hm => hx x (.inl hm)) d hd

theorem high_of_mem_decodeLossy {octets : Octets} (h : ∀ x ∈ octets, 0x80 ≤ x.toNat) {c : Char}
    (hc : c ∈ decodeLossy octets) : 0x80 ≤ c.toNat := by
  obtain ⟨piece, hp, rfl⟩ := List.mem_map.mp hc
  cases piece with
  | none => decide
  | some c => exact (covered_pieces octets).high_of_high h c (List.mem_reverse.mpr hp)

theorem encode_append (t u : Text) : encode (t ++ u) = encode t ++ encode u := List.flatMap_append

theorem Covered.encode_eq {read : List (Option Char)} {octets : Octets} (h : Covered read octets)
    (hr : none ∉ read) : encode (read.reverse.map (·.getD replacement)) = octets := by
  induction h with
  | start => rfl
  | char c _ ih =>
    rw [List.reverse_cons, List.map_append, encode_append, ih fun hm => hr (List.mem_cons_of_mem _ hm)]
    simp [encode]
  | gap _ _ _ _ => exact absurd List.mem_cons_self hr

/-- A text in which nothing was replaced is written with the octets that it was read from. -/
theorem encode_decodeLossy {octets : Octets} (h : replacement ∉ decodeLossy octets) :
    encode (decodeLossy octets) = octets := by
  have hr : none ∉ (pieces octets).reverse := by
    intro hn
    exact h (List.mem_map.mpr ⟨none, List.mem_reverse.mp hn, rfl⟩)
  have he := (covered_pieces octets).encode_eq hr
  rwa [List.reverse_reverse] at he

/-! ## Reading back what was written -/

theorem toNat_toUInt8 {n : Nat} (h : n < 0x100) : n.toUInt8.toNat = n := by
  simp
  omega

namespace Reader
variable (read : List (Option Char)) {bits k : Nat}

theorem feed_first {b : Nat} (h : b < 0x100) : feed ⟨none, read⟩ b.toUInt8 = lead read b := by
  rw [← toNat_toUInt8 h]
  simp [feed]

section
variable {lo hi : Nat} (hk : k < 64) (hlo : lo ≤ 0x80 + k) (hhi : 0x80 + k ≤ hi)
include hk hlo hhi

theorem feed_last :
    feed ⟨some ⟨lo, hi, 0, bits⟩, read⟩ (0x80 + k).toUInt8 = ⟨none, some (Char.ofNat (bits * 64 + k)) :: read⟩ := by
  simp only [feed, toNat_toUInt8 (n := 0x80 + k) (by omega), hlo, hhi, and_self, if_true, Nat.add_sub_cancel_left]

theorem feed_later (later : Nat) :
    feed ⟨some ⟨lo, hi, later + 1, bits⟩, read⟩ (0x80 + k).toUInt8 =
      ⟨some ⟨0x80, 0xBF, later, bits * 64 + k⟩, read⟩ := by
  simp only [feed, toNat_toUInt8 (n := 0x80 + k) (by omega), hlo, hhi, and_self, if_true, Nat.add_sub_cancel_left]

end

theorem lead_two (hlo : 2 ≤ bits) (hhi : bits < 0x20) :
    lead read (0xC0 + bits) = ⟨some ⟨0x80, 0xBF, 0, bits⟩, read⟩ := by
  rw [lead, if_neg (by omega), if_neg (by omega), if_pos (by omega), Nat.add_sub_cancel_left]

/-- The range after the first of three octets holds every number that is neither overlong nor a surrogate. -/
theorem exists_lead_three (hb : bits < 0x10) (hk : k < 64) (hshort : bits = 0 → 0x20 ≤ k)
    (hsurrogate : bits = 0xD → k < 0x20) :
    ∃ lo hi, lead read (0xE0 + bits) = ⟨some ⟨lo, hi, 1, bits⟩, read⟩ ∧ lo ≤ 0x80 + k ∧ 0x80 + k ≤ hi := by
  rw [lead, if_neg (by omega), if_neg (by omega), if_neg (by omega)]
  split
  next => exact ⟨0xA0, 0xBF, by rw [show bits = 0 by omega], by omega, by omega⟩
  next =>
    split
    next => exact ⟨0x80, 0x9F, by rw [show bits = 0xD by omega], by omega, by omega⟩
    next =>
      rw [if_pos (by omega), Nat.add_sub_cancel_left]
      exact ⟨0x80, 0xBF, rfl, by omega, by omega⟩

theorem exists_lead_four (hb : bits ≤ 4) (hk : k < 64) (hshort : bits = 0 → 0x10 ≤ k) (hlast : bits = 4 → k < 0x10) :
    ∃ lo hi, lead read (0xF0 + bits) = ⟨some ⟨lo, hi, 2, bits⟩, read⟩ ∧ lo ≤ 0x80 + k ∧ 0x80 + k ≤ hi := by
  rw [lead, if_neg (by omega), if_neg (by omega), if_neg (by omega), if_neg (by omega), if_neg (by omega),
    if_neg (by omega)]
  split
  next => exact ⟨0x90, 0xBF, by rw [show bits = 0 by omega], by omega, by omega⟩
  next =>
    split
    next =>
      rw [Nat.add_sub_cancel_left]
      exact ⟨0x80, 0xBF, rfl, by omega, by omega⟩
    next =>
      rw [if_pos (by omega)]
      exact ⟨0x80, 0x8F, by rw [show bits = 4 by omega], by omega, by omega⟩

theorem foldl_feed_encodeChar (c : Char) : (encodeChar c).foldl feed ⟨none, read⟩ = ⟨none, some c :: read⟩ := by
  have hv : c.toNat.isValidChar := c.valid
  obtain ⟨n, hn⟩ : ∃ n, n = c.toNat := ⟨_, rfl⟩
  have hc : Char.ofNat n = c := by rw [hn, Char.ofNat_toNat]
  rw [← hn] at hv
  unfold Nat.isValidChar at hv
  rw [← hc]
  by_cases h1 : n < 0x80
  · rw [encodeChar_ascii (by rw [hc, ← hn]; exact h1), toNat_ofNat hv, List.foldl_cons, feed_first read (by omega),
      lead_ascii read h1]
    rfl
  by_cases h2 : n < 0x800
  · rw [encodeChar_two (by omega) h2, List.foldl_cons, feed_first read (by omega),
      lead_two read (by omega) (by omega), List.foldl_cons, feed_last read (by omega) (by omega) (by omega)]
    rw [show n / 64 * 64 + n % 64 = n by omega]
    rfl
  by_cases h3 : n < 0x10000
  · obtain ⟨lo, hi, hl, hlo, hhi⟩ := exists_lead_three read
      (show n / 4096 < 0x10 by omega) (show n / 64 % 64 < 64 by omega) (by omega) (by omega)
    rw [encodeChar_three (by omega) h3 hv, List.foldl_cons, feed_first read (by omega), hl, List.foldl_cons,
      feed_later read (by omega) hlo hhi, List.foldl_cons, feed_last read (by omega) (by omega) (by omega)]
    rw [show (n / 4096 * 64 + n / 64 % 64) * 64 + n % 64 = n by omega]
    rfl
  · obtain ⟨lo, hi, hl, hlo, hhi⟩ := exists_lead_four read
      (show n / 262144 ≤ 4 by omega) (show n / 4096 % 64 < 64 by omega) (by omega) (by omega)
    rw [encodeChar_four (by omega) hv, List.foldl_cons, feed_first read (by omega), hl, List.foldl_cons,
      feed_later read (by omega) hlo hhi, List.foldl_cons, feed_later read (by omega) (by omega) (by omega),
      List.foldl_cons, feed_last read (by omega) (by omega) (by omega)]
    rw [show ((n / 262144 * 64 + n / 4096 % 64) * 64 + n / 64 % 64) * 64 + n % 64 = n by omega]
    rfl

theorem foldl_feed_encode (t : Text) :
    (encode t).foldl feed start = start.behind (t.map some).reverse := by
  suffices h : ∀ read, (encode t).foldl feed ⟨none, read⟩ = ⟨none, (t.map some).reverse ++ read⟩ by
    simpa [start, behind] using h []
  induction t with
  | nil => exact fun _ => rfl
  | cons c t ih =>
    intro read
    rw [encode, List.flatMap_cons, List.foldl_append, foldl_feed_encodeChar]
    exact (ih (some c :: read)).trans (by simp)

end Reader

theorem decodeLossy_encode_append (t : Text) (octets : Octets) :
    decodeLossy (encode t ++ octets) = t ++ decodeLossy octets := by
  rw [decodeLossy, pieces, List.foldl_append, Reader.foldl_feed_encode, Reader.foldl_feed_behind, Reader.finish_behind]
  simp [decodeLossy, pieces, Function.comp_def]

theorem decodeLossy_encode (t : Text) : decodeLossy (encode t) = t := by
  have h := decodeLossy_encode_append t []
  rw [List.append_nil] at h
  rw [h]
  exact List.append_nil t

end BlockHarness.Utf8
