import Mathlib.Data.List.DropRight
import Mathlib.Data.List.Forall2
import BlockHarness.Json.Reader

/-! Printed JSON documents are read back, whatever stands behind them. Strings are read back character by character;
a list or an object is read back if its parts are, with white space around them and commas between them. -/
namespace BlockHarness.Json
set_option autoImplicit false

/-! ## Strings -/

theorem skipGap_append {gap : Text} (h : gap.all isGap = true) (t : Text) : skipGap (gap ++ t) = skipGap t := by
  rw [skipGap, skipGap, List.dropWhile_append_of_pos (List.all_eq_true.mp h)]

theorem skipGap_cons {c : Char} (h : isGap c = false) (t : Text) : skipGap (c :: t) = c :: t := by
  rw [skipGap, List.dropWhile_cons_of_neg (by simp [h])]

theorem skipGap_skipGap (t : Text) : skipGap (skipGap t) = skipGap t := List.dropWhile_idempotent isGap t

theorem numbered?_control (n : Fin 32) :
    numbered? ['0', '0', Text.digit (n / 16), Text.digit (n % 16)] = some (Char.ofNat n) := by
  revert n
  decide

/-- A text stands for one character of a string. -/
def ReadsChar (c : Char) (t : Text) : Prop := ∀ rest, readString (t ++ rest) = (readString rest).map (consRead c)

theorem readsChar_letter {letter c : Char} (h : unescape? letter = some c) (hu : letter ≠ 'u') :
    ReadsChar c ['\\', letter] := by
  intro rest
  rw [List.cons_append, List.singleton_append, readString.eq_def]
  simp [hu, h]

theorem readsChar_number {a b c d char : Char} (h : numbered? [a, b, c, d] = some char) :
    ReadsChar char ['\\', 'u', a, b, c, d] := by
  intro rest
  simp [readString, h]

theorem readsChar_plain {c : Char} (hq : c ≠ '"') (hb : c ≠ '\\') (hc : ¬ c < ' ') : ReadsChar c [c] := by
  intro rest
  rw [List.singleton_append, readString.eq_def]
  simp [hb, hc]

theorem readsChar_escapeChar (c : Char) : ReadsChar c (escapeChar c) := by
  unfold escapeChar
  refine
    iteInduction (fun h => ?quote) fun hq => iteInduction (fun h => ?backslash) fun hb =>
    iteInduction (fun h => ?b) fun _ => iteInduction (fun h => ?f) fun _ =>
    iteInduction (fun h => ?n) fun _ => iteInduction (fun h => ?r) fun _ =>
    iteInduction (fun h => ?t) fun _ => iteInduction (fun h => ?control) fun hc => readsChar_plain hq hb hc
  case quote | backslash | b | f | n | r | t => exact h ▸ readsChar_letter rfl (by decide)
  case control =>
    have hc := numbered?_control ⟨c.toNat, h⟩
    rw [Char.ofNat_toNat] at hc
    exact readsChar_number hc

theorem readString_flatMap (s rest : Text) : readString (s.flatMap escapeChar ++ '"' :: rest) = some (s, rest) := by
  induction s with
  | nil => simp [readString]
  | cons c s ih =>
    rw [List.flatMap_cons, List.append_assoc, readsChar_escapeChar, ih]
    rfl

/-! ## Elements between commas -/

/-- A reader of what stands in front of a closing bracket: white space makes no difference to it, and there is nothing
to be read at the bracket itself. -/
structure ReadsBefore {α : Type} (closing : Char) (one : Text → Option (α × Text)) : Prop where
  closing_token : isGap closing = false ∧ closing ≠ ','
  skipGap_eq : ∀ t, one (skipGap t) = one t
  nil_eq_none : one [] = none
  closing_eq_none : ∀ rest, one (closing :: rest) = none

section
variable {α : Type} {closing : Char} {one : Text → Option (α × Text)}

/-- A text is read as an element, whatever stands behind it. -/
def ReadsAs (one : Text → Option (α × Text)) (piece : Text) (a : α) : Prop :=
  ∀ rest, one (piece ++ rest) = some (a, rest)

theorem ReadsBefore.append_gap (h : ReadsBefore closing one) {gap : Text} (hgap : gap.all isGap = true) (t : Text) :
    one (gap ++ t) = one t := by
  rw [← h.skipGap_eq, skipGap_append hgap, h.skipGap_eq]

theorem ReadsBefore.readElements_append_gap (h : ReadsBefore closing one) {gap : Text} (hgap : gap.all isGap = true)
    (fuel : Nat) (t : Text) : readElements one closing fuel (gap ++ t) = readElements one closing fuel t := by
  cases fuel with
  | zero => rfl
  | succ fuel => simp only [readElements, h.append_gap hgap]

theorem length_le_joinWith (sep piece : Text) (hs : sep ≠ []) (pieces : List Text) :
    pieces.length ≤ (Text.joinWith sep (piece :: pieces)).length := by
  have := List.length_pos_iff.mpr hs
  induction pieces generalizing piece with
  | nil => exact Nat.zero_le _
  | cons piece' pieces ih =>
    have := ih piece'
    simp only [Text.joinWith, List.length_cons, List.length_append] at this ⊢
    omega

theorem exists_joinWith_eq (sep piece : Text) (pieces : List Text) :
    ∃ t, Text.joinWith sep (piece :: pieces) = piece ++ t := by
  cases pieces with
  | nil => exact ⟨[], by simp [Text.joinWith]⟩
  | cons piece' pieces => exact ⟨_, by rw [Text.joinWith, List.append_assoc]⟩

/-- Where an element is read no bracket closes. -/
theorem ReadsBefore.readSeries_eq (hone : ReadsBefore closing one) {t : Text} {r : α × Text} (h : one t = some r) :
    readSeries one closing t = readElements one closing t.length t := by
  have hs : one (skipGap t) = some r := by rw [hone.skipGap_eq, h]
  rw [readSeries]
  -- a bracket or nothing at all behind the white space would leave nothing to be read
  split
  next he =>
    rw [he, hone.nil_eq_none] at hs
    cases hs
  next c rest he =>
    have hc : c ≠ closing := by
      rintro rfl
      rw [he, hone.closing_eq_none] at hs
      cases hs
    rw [if_neg hc]

section
variable (hone : ReadsBefore closing one) {gap last : Text} (hgap : gap.all isGap = true)
  (hlast : last.all isGap = true)
include hone hgap hlast

/-- Pieces with commas and white space between them are read back in order, one for each unit of fuel. -/
theorem readElements_joinWith {piece : Text} {a : α} {pieces : List Text} {as : List α} (ha : ReadsAs one piece a)
    (has : List.Forall₂ (ReadsAs one) pieces as) (rest : Text) {fuel : Nat} (hfuel : pieces.length < fuel) :
    readElements one closing fuel (Text.joinWith (',' :: gap) (piece :: pieces) ++ (last ++ closing :: rest)) =
      some (a :: as, rest) := by
  induction has generalizing piece a fuel with
  | nil =>
    obtain ⟨fuel, rfl⟩ := Nat.exists_eq_add_one_of_ne_zero (Nat.ne_zero_of_lt hfuel)
    rw [Text.joinWith, readElements, ha]
    simp [skipGap_append hlast, skipGap_cons hone.closing_token.1]
  | @cons piece' a' pieces as ha' has ih =>
    have hcomma : ¬ ',' = closing := fun e => hone.closing_token.2 e.symm
    obtain ⟨fuel, rfl⟩ := Nat.exists_eq_add_one_of_ne_zero (Nat.ne_zero_of_lt hfuel)
    rw [Text.joinWith, readElements, List.append_assoc, List.append_assoc, ha]
    simp only [List.cons_append]
    rw [skipGap_cons (by decide)]
    simp only [if_neg hcomma, if_true]
    rw [hone.readElements_append_gap hgap, ih ha' (Nat.lt_of_succ_lt_succ hfuel)]
    rfl

theorem readSeries_joinWith {first piece : Text} (hfirst : first.all isGap = true) {a : α} {pieces : List Text}
    {as : List α} (ha : ReadsAs one piece a) (has : List.Forall₂ (ReadsAs one) pieces as) (rest : Text) :
    readSeries one closing (first ++ (Text.joinWith (',' :: gap) (piece :: pieces) ++ (last ++ closing :: rest))) =
      some (a :: as, rest) := by
  obtain ⟨t, ht⟩ := exists_joinWith_eq (',' :: gap) piece pieces
  have hlength := length_le_joinWith (',' :: gap) piece (List.cons_ne_nil _ _) pieces
  have helement :
      one (first ++ (piece ++ t ++ (last ++ closing :: rest))) = some (a, t ++ (last ++ closing :: rest)) := by
    rw [hone.append_gap hfirst, List.append_assoc, ha]
  rw [← ht] at helement
  rw [hone.readSeries_eq helement, hone.readElements_append_gap hfirst]
  apply readElements_joinWith hone hgap hlast ha has
  simp only [List.length_append, List.length_cons]
  omega

end
end

/-! ## Documents -/

theorem all_isGap_newline (level : Nat) : (newline level).all isGap = true := by
  simp [newline, isGap]

/-- A text is a series of elements between brackets, whatever stands behind it. -/
def Encloses {α : Type} (one : Text → Option (α × Text)) (opening closing : Char) (t : Text) (as : List α) : Prop :=
  ∀ rest, ∃ inner, t ++ rest = opening :: inner ∧ readSeries one closing inner = some (as, rest)

section
variable {α : Type} {closing : Char} {one : Text → Option (α × Text)} (hone : ReadsBefore closing one)
  {pieces : List Text} {as : List α} (h : List.Forall₂ (ReadsAs one) pieces as)
include hone h

/-- What is laid out between brackets is read back. -/
theorem encloses_layout (level : Nat) (opening : Char) :
    Encloses one opening closing (layout level [opening] [closing] pieces) as := by
  intro rest
  cases h with
  | nil =>
    refine ⟨closing :: rest, rfl, ?_⟩
    rw [readSeries, skipGap_cons hone.closing_token.1]
    simp
  | @cons piece a pieces as ha has =>
    refine ⟨newline (level + 1) ++ (Text.joinWith (',' :: newline (level + 1)) (piece :: pieces) ++
      (newline level ++ closing :: rest)), ?_, ?_⟩
    · simp [layout]
    · exact readSeries_joinWith hone (all_isGap_newline _) (all_isGap_newline _) (all_isGap_newline _) ha has rest

/-- What stands between brackets on one line is read back. -/
theorem encloses_joinWith (opening : Char) :
    Encloses one opening closing ([opening] ++ Text.joinWith [','] pieces ++ [closing]) as := by
  intro rest
  refine ⟨Text.joinWith [','] pieces ++ closing :: rest, by simp, ?_⟩
  cases h with
  | nil =>
    rw [readSeries, Text.joinWith, List.nil_append, skipGap_cons hone.closing_token.1]
    simp
  | @cons piece a pieces as ha has =>
    have hnone : ([] : Text).all isGap = true := rfl
    exact readSeries_joinWith hone hnone hnone hnone ha has rest

end

theorem readsBefore_readValue {closing : Char} (h : closing = ']' ∨ closing = '\x7d') (depth : Nat) :
    ReadsBefore closing (readValue depth) where
  closing_token := by rcases h with rfl | rfl <;> decide
  skipGap_eq t := by
    cases depth with
    | zero => rfl
    | succ depth => rw [readValue, readValue, skipGap_skipGap]
  nil_eq_none := by cases depth <;> rfl
  closing_eq_none rest := by
    cases depth with
    | zero => rfl
    | succ depth =>
      rw [readValue]
      rcases h with rfl | rfl <;> rw [skipGap_cons (by decide)] <;> rfl

theorem readsBefore_readMember (value : Text → Option (Json × Text)) : ReadsBefore '\x7d' (readMember value) where
  closing_token := by decide
  skipGap_eq t := by rw [readMember, readMember, skipGap_skipGap]
  nil_eq_none := rfl
  closing_eq_none rest := by
    rw [readMember, skipGap_cons (by decide)]
    rfl

theorem readsAs_string (s : Text) (depth : Nat) : ReadsAs (readValue (depth + 1)) (string s) (.text s) := by
  intro rest
  rw [readValue, string, List.cons_append, skipGap_cons (by decide), List.append_assoc, List.singleton_append]
  simp only [readString_flatMap, Option.map_some]

theorem readsAs_word {word : Text} {c : Char} {letters : Text} {j : Json} (hc : word = c :: letters)
    (hgap : isGap c = false) (hq : c ≠ '"' ∧ c ≠ '[' ∧ c ≠ '\x7b')
    (h : ∀ rest, readWord (word ++ rest) = some (j, rest)) (depth : Nat) : ReadsAs (readValue (depth + 1)) word j := by
  intro rest
  have := h rest
  rw [hc, List.cons_append] at this ⊢
  rw [readValue, skipGap_cons hgap]
  split <;> simp_all

theorem readsAs_member {key piece gap : Text} {j : Json} {value : Text → Option (Json × Text)}
    (hvalue : ReadsBefore '\x7d' value) (hgap : gap.all isGap = true) (h : ReadsAs value piece j) :
    ReadsAs (readMember value) (string key ++ (':' :: gap) ++ piece) (key, j) := by
  intro rest
  have hpiece : value (gap ++ (piece ++ rest)) = some (j, rest) := by rw [hvalue.append_gap hgap, h]
  have hmember : string key ++ (':' :: gap) ++ piece ++ rest =
      '"' :: (key.flatMap escapeChar ++ '"' :: ':' :: (gap ++ (piece ++ rest))) := by simp [string]
  rw [hmember, readMember, skipGap_cons (by decide)]
  simp only [readString_flatMap, Option.bind_some]
  rw [skipGap_cons (by decide)]
  simp only [hpiece, Option.map_some]

theorem readsAs_list {t : Text} {items : List Json} {depth : Nat} (h : Encloses (readValue depth) '[' ']' t items) :
    ReadsAs (readValue (depth + 1)) t (.list items) := by
  intro rest
  obtain ⟨inner, ht, hread⟩ := h rest
  rw [ht, readValue, skipGap_cons (by decide)]
  simp only [hread, Option.map_some]

theorem readsAs_object {t : Text} {members : List (Text × Json)} {depth : Nat}
    (h : Encloses (readMember (readValue depth)) '\x7b' '\x7d' t members) :
    ReadsAs (readValue (depth + 1)) t (.object members) := by
  intro rest
  obtain ⟨inner, ht, hread⟩ := h rest
  rw [ht, readValue, skipGap_cons (by decide)]
  simp only [hread, Option.map_some]

theorem length_le_joinWith_of_mem (sep : Text) {piece : Text} {pieces : List Text} (h : piece ∈ pieces) :
    piece.length ≤ (Text.joinWith sep pieces).length := by
  induction pieces using Text.joinWith.induct with
  | case1 => cases h
  | case2 t => simp_all [Text.joinWith]
  | case3 t u rest ih =>
    simp only [Text.joinWith, List.length_append]
    rcases List.mem_cons.mp h with rfl | h
    · omega
    · have := ih h
      omega

theorem length_lt_layout {level : Nat} {opening closing piece : Text} {pieces : List Text} (h : piece ∈ pieces)
    (ho : opening ≠ []) : piece.length < (layout level opening closing pieces).length := by
  have hlength := length_le_joinWith_of_mem ("," ++ newline (level + 1)) h
  have := List.length_pos_iff.mpr ho
  rw [layout, if_neg (List.ne_nil_of_mem h)]
  simp only [List.length_append] at hlength ⊢
  omega

mutual

/-- A document is read back by every reader that goes as deep as its printed form is long. -/
theorem reads_prettyAt (level : Nat) : ∀ (j : Json) (depth : Nat), (prettyAt level j).length < depth →
    ReadsAs (readValue depth) (prettyAt level j) j
  | .null, depth + 1, _ => readsAs_word rfl (by decide) (by decide) (fun _ => rfl) depth
  | .boolean true, depth + 1, _ => readsAs_word rfl (by decide) (by decide) (fun _ => rfl) depth
  | .boolean false, depth + 1, _ => readsAs_word rfl (by decide) (by decide) (fun _ => rfl) depth
  | .text s, depth + 1, _ => readsAs_string s depth
  | .list items, depth + 1, h => by
    -- an item is shorter than the list at least by its brackets, so one level less is enough for it
    rw [prettyAt] at h ⊢
    refine readsAs_list (encloses_layout (readsBefore_readValue (.inl rfl) depth)
      (reads_prettyItems (level + 1) items depth fun piece hp => ?_) level '[')
    exact Nat.lt_of_lt_of_le (length_lt_layout hp (by decide)) (Nat.le_of_lt_succ h)
  | .object members, depth + 1, h => by
    rw [prettyAt] at h ⊢
    refine readsAs_object (encloses_layout (readsBefore_readMember (readValue depth))
      (reads_prettyMembers (level + 1) members depth fun piece hp => ?_) level '\x7b')
    exact Nat.lt_of_lt_of_le (length_lt_layout hp (by decide)) (Nat.le_of_lt_succ h)

theorem reads_prettyItems (level : Nat) : ∀ (items : List Json) (depth : Nat),
    (∀ piece ∈ prettyItems level items, piece.length < depth) →
    List.Forall₂ (ReadsAs (readValue depth)) (prettyItems level items) items
  | [], _, _ => .nil
  | item :: items, depth, h => by
    rw [prettyItems, List.forall_mem_cons] at h
    rw [prettyItems]
    exact .cons (reads_prettyAt level item depth h.1) (reads_prettyItems level items depth h.2)

theorem reads_prettyMembers (level : Nat) : ∀ (members : List (Text × Json)) (depth : Nat),
    (∀ piece ∈ prettyMembers level members, piece.length < depth) →
    List.Forall₂ (ReadsAs (readMember (readValue depth))) (prettyMembers level members) members
  | [], _, _ => .nil
  | (key, value) :: members, depth, h => by
    rw [prettyMembers, List.forall_mem_cons] at h
    rw [prettyMembers]
    refine .cons ?_ (reads_prettyMembers level members depth h.2)
    have hgap : ([' '] : Text).all isGap = true := rfl
    refine readsAs_member (readsBefore_readValue (.inr rfl) depth) hgap (reads_prettyAt level value depth ?_)
    simp only [List.length_append] at h
    omega

end

theorem length_lt_enclosed {opening closing piece : Text} {pieces : List Text} (h : piece ∈ pieces)
    (ho : opening ≠ []) : piece.length < (opening ++ Text.joinWith "," pieces ++ closing).length := by
  have hlength := length_le_joinWith_of_mem "," h
  have := List.length_pos_iff.mpr ho
  simp only [List.length_append]
  omega

mutual

/-- A document on one line is read back in the same way. -/
theorem reads_compact : ∀ (j : Json) (depth : Nat), (compact j).length < depth →
    ReadsAs (readValue depth) (compact j) j
  | .null, depth + 1, _ => readsAs_word rfl (by decide) (by decide) (fun _ => rfl) depth
  | .boolean true, depth + 1, _ => readsAs_word rfl (by decide) (by decide) (fun _ => rfl) depth
  | .boolean false, depth + 1, _ => readsAs_word rfl (by decide) (by decide) (fun _ => rfl) depth
  | .text s, depth + 1, _ => readsAs_string s depth
  | .list items, depth + 1, h => by
    rw [compact] at h ⊢
    refine readsAs_list (encloses_joinWith (readsBefore_readValue (.inl rfl) depth)
      (reads_compactItems items depth fun piece hp => ?_) '[')
    exact Nat.lt_of_lt_of_le (length_lt_enclosed hp (by decide)) (Nat.le_of_lt_succ h)
  | .object members, depth + 1, h => by
    rw [compact] at h ⊢
    refine readsAs_object (encloses_joinWith (readsBefore_readMember (readValue depth))
      (reads_compactMembers members depth fun piece hp => ?_) '\x7b')
    exact Nat.lt_of_lt_of_le (length_lt_enclosed hp (by decide)) (Nat.le_of_lt_succ h)

theorem reads_compactItems : ∀ (items : List Json) (depth : Nat),
    (∀ piece ∈ compactItems items, piece.length < depth) →
    List.Forall₂ (ReadsAs (readValue depth)) (compactItems items) items
  | [], _, _ => .nil
  | item :: items, depth, h => by
    rw [compactItems, List.forall_mem_cons] at h
    rw [compactItems]
    exact .cons (reads_compact item depth h.1) (reads_compactItems items depth h.2)

theorem reads_compactMembers : ∀ (members : List (Text × Json)) (depth : Nat),
    (∀ piece ∈ compactMembers members, piece.length < depth) →
    List.Forall₂ (ReadsAs (readMember (readValue depth))) (compactMembers members) members
  | [], _, _ => .nil
  | (key, value) :: members, depth, h => by
    rw [compactMembers, List.forall_mem_cons] at h
    rw [compactMembers]
    refine .cons ?_ (reads_compactMembers members depth h.2)
    have hgap : ([] : Text).all isGap = true := rfl
    refine readsAs_member (readsBefore_readValue (.inr rfl) depth) hgap (reads_compact value depth ?_)
    simp only [List.length_append] at h
    omega

end

/-- **A printed document is read back**, and what stands behind it is left. -/
theorem read?_pretty (j : Json) (rest : Text) : read? (j.pretty ++ rest) = some (j, rest) :=
  reads_prettyAt 0 j _ (by simp only [pretty, List.length_append]; omega) rest

theorem read?_compact (j : Json) (rest : Text) : read? (j.compact ++ rest) = some (j, rest) :=
  reads_compact j _ (by simp only [List.length_append]; omega) rest

end BlockHarness.Json
