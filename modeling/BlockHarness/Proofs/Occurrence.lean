import BlockHarness.Text.Search

/-! Where a word stands in a list. The first occurrence is a way of cutting the list; words that one letter ends
never overlap unless one of them ends in the other, so looking for an opening and for a closing word, each on its
own, comes to cutting the list in front of the first of either. -/
namespace BlockHarness
set_option autoImplicit false
variable {α : Type}

/-! ## First occurrence -/

section Search
variable [DecidableEq α]

theorem firstIndexFrom?_eq_none_iff (w t : List α) (n : Nat) : firstIndexFrom? w n t = none ↔ ¬ w <:+: t := by
  induction t generalizing n with
  | nil => simp [firstIndexFrom?, List.infix_nil]
  | cons c t ih =>
    rw [List.infix_cons_iff, firstIndexFrom?]
    split
    next h => simp [List.isPrefixOf_iff_prefix.mp h]
    next h =>
      have hc : ¬ w <+: c :: t := fun hp => h (List.isPrefixOf_iff_prefix.mpr hp)
      simp [hc, ih]

theorem firstIndex?_eq_none_iff (w t : List α) : firstIndex? w t = none ↔ ¬ w <:+: t :=
  firstIndexFrom?_eq_none_iff w t 0

/-- A word that is found is there, and nowhere further to the front. -/
theorem exists_of_firstIndexFrom?_eq_some {w t : List α} {n k : Nat} (h : firstIndexFrom? w n t = some k) :
    ∃ u v, t = u ++ w ++ v ∧ k = n + u.length ∧ ∀ x y, t = x ++ w ++ y → u.length ≤ x.length := by
  induction t generalizing n with
  | nil =>
    rw [firstIndexFrom?] at h
    split at h
    next hw => exact ⟨[], [], by simp [hw], by simpa using h.symm, by simp⟩
    next => cases h
  | cons c t ih =>
    rw [firstIndexFrom?] at h
    split at h
    next hp =>
      obtain ⟨v, hv⟩ := List.isPrefixOf_iff_prefix.mp hp
      exact ⟨[], v, by simp [hv], by simpa using h.symm, by simp⟩
    next hp =>
      obtain ⟨u, v, rfl, hk, hmin⟩ := ih h
      refine ⟨c :: u, v, rfl, by rw [hk, List.length_cons]; omega, ?_⟩
      intro x y hxy
      cases x with
      | nil =>
        have hw : w <+: c :: (u ++ w ++ v) := ⟨y, by rw [hxy]; rfl⟩
        exact absurd (List.isPrefixOf_iff_prefix.mpr hw) hp
      | cons d x =>
        have hxy' : u ++ w ++ v = x ++ w ++ y := (List.cons.inj hxy).2
        exact Nat.succ_le_succ (hmin x y hxy')

theorem firstIndex?_eq_some_iff (w t : List α) (k : Nat) :
    firstIndex? w t = some k ↔
      ∃ u v, t = u ++ w ++ v ∧ u.length = k ∧ ∀ x y, t = x ++ w ++ y → u.length ≤ x.length := by
  constructor
  · intro h
    obtain ⟨u, v, ht, hk, hmin⟩ := exists_of_firstIndexFrom?_eq_some h
    exact ⟨u, v, ht, by omega, hmin⟩
  · rintro ⟨u, v, rfl, rfl, hmin⟩
    cases hf : firstIndex? w (u ++ w ++ v) with
    | none => exact absurd ⟨u, v, rfl⟩ ((firstIndex?_eq_none_iff w _).mp hf)
    | some j =>
      obtain ⟨x, y, hxy, hj, hmin'⟩ := exists_of_firstIndexFrom?_eq_some hf
      have h1 := hmin x y hxy
      have h2 := hmin' u v rfl
      rw [show j = u.length by omega]

theorem infix_of_firstIndex?_eq_some {w t : List α} {k : Nat} (h : firstIndex? w t = some k) : w <:+: t := by
  obtain ⟨u, v, ht, -, -⟩ := (firstIndex?_eq_some_iff w t k).mp h
  exact ⟨u, v, ht.symm⟩

end Search

/-! ## Words that one letter ends -/

/-- A word that ends in a letter which stands nowhere else in it. -/
def EndedBy (stop : α) (w : List α) : Prop := ∃ body, w = body ++ [stop] ∧ stop ∉ body

/-- Two words neither of which ends in the other. -/
def Apart (w w' : List α) : Prop := ¬ w <:+ w' ∧ ¬ w' <:+ w

theorem Apart.symm {w w' : List α} (h : Apart w w') : Apart w' w := ⟨h.2, h.1⟩

theorem Apart.ne {w w' : List α} (h : Apart w w') : w ≠ w' := fun e => h.1 (e ▸ List.suffix_refl w)

theorem EndedBy.ne_nil {stop : α} {w : List α} (h : EndedBy stop w) : w ≠ [] := by
  obtain ⟨body, rfl, -⟩ := h
  simp

theorem append_cons_eq_append_cons {a b : α} {u v x y : List α} (e : u ++ a :: v = x ++ b :: y) :
    (∃ z, u = x ++ b :: z ∧ y = z ++ a :: v) ∨ (∃ z, x = u ++ a :: z ∧ v = z ++ b :: y) ∨
      (u = x ∧ a = b ∧ v = y) := by
  rcases List.append_eq_append_iff.mp e with ⟨d, hx, hv⟩ | ⟨d, hu, hy⟩
  · cases d with
    | nil =>
      obtain ⟨ha, hv'⟩ := List.cons.inj hv
      exact .inr (.inr ⟨by simpa using hx.symm, ha, hv'⟩)
    | cons c d =>
      obtain ⟨rfl, hv'⟩ : a = c ∧ v = d ++ b :: y := List.cons.inj hv
      exact .inr (.inl ⟨d, hx, hv'⟩)
  · cases d with
    | nil =>
      obtain ⟨hb, hy'⟩ := List.cons.inj hy
      exact .inr (.inr ⟨by simpa using hu, hb.symm, hy'.symm⟩)
    | cons c d =>
      obtain ⟨rfl, hy'⟩ : b = c ∧ y = d ++ a :: v := List.cons.inj hy
      exact .inl ⟨d, hu, hy'⟩

/-- A stretch without a letter at the end of a list lies behind every place where the letter stands. -/
theorem behind_of_not_mem {stop : α} {b p q x : List α} (hb : stop ∉ b) (h : x ++ b = p ++ stop :: q) :
    ∃ z, x = p ++ stop :: z ∧ q = z ++ b := by
  rcases List.append_eq_append_iff.mp h with ⟨z, -, hz⟩ | ⟨z, hx, hz⟩
  · exact absurd (by simp [hz]) hb
  · cases z with
    | nil => exact absurd (by simp [← show stop :: q = b from hz]) hb
    | cons c z =>
      obtain ⟨rfl, hq⟩ := List.cons.inj hz
      exact ⟨z, hx, hq⟩

theorem eq_of_append_eq {w w' u x : List α} (ha : w = w' ∨ Apart w w') (h : u ++ w = x ++ w') : u = x ∧ w = w' := by
  rcases ha with rfl | ha
  · exact ⟨List.append_cancel_right h, rfl⟩
  · rcases List.append_eq_append_iff.mp h with ⟨f, -, hf⟩ | ⟨f, -, hf⟩
    · exact absurd ⟨f, hf.symm⟩ ha.2
    · exact absurd ⟨f, hf.symm⟩ ha.1

/-- Two occurrences of such words lie one behind the other, or they are the same occurrence of the same word. -/
theorem EndedBy.split {stop : α} {w w' u v x y : List α} (hw : EndedBy stop w) (hw' : EndedBy stop w')
    (ha : w = w' ∨ Apart w w') (e : u ++ w ++ v = x ++ w' ++ y) :
    (∃ z, u = x ++ w' ++ z ∧ y = z ++ w ++ v) ∨ (∃ z, x = u ++ w ++ z ∧ v = z ++ w' ++ y) ∨
      (u = x ∧ w = w' ∧ v = y) := by
  obtain ⟨b, rfl, hb⟩ := hw
  obtain ⟨b', rfl, hb'⟩ := hw'
  have e' : (u ++ b) ++ stop :: v = (x ++ b') ++ stop :: y := by simpa using e
  -- the two final letters decide, since neither body holds one
  rcases append_cons_eq_append_cons e' with ⟨d, hd, hy⟩ | ⟨d, hd, hv⟩ | ⟨hd, -, hv⟩
  · obtain ⟨z, hu, hz⟩ := behind_of_not_mem hb hd
    exact .inl ⟨z, by simpa using hu, by simp [hy, hz]⟩
  · obtain ⟨z, hx, hz⟩ := behind_of_not_mem hb' hd
    exact .inr (.inl ⟨z, by simpa using hx, by simp [hv, hz]⟩)
  · have hs : u ++ (b ++ [stop]) = x ++ (b' ++ [stop]) := by simp [← List.append_assoc, hd]
    obtain ⟨hu, hb⟩ := eq_of_append_eq ha hs
    exact .inr (.inr ⟨hu, hb, hv⟩)

theorem EndedBy.infix_append_iff {stop : α} {w w' : List α} (hw : EndedBy stop w) (hw' : EndedBy stop w')
    (ha : w = w' ∨ Apart w w') (u v : List α) : w' <:+: u ++ w ++ v ↔ w' <:+: u ∨ w = w' ∨ w' <:+: v := by
  constructor
  · rintro ⟨x, y, h⟩
    rcases hw.split hw' ha h.symm with ⟨z, hu, -⟩ | ⟨z, -, hv⟩ | ⟨-, he, -⟩
    · exact .inl ⟨x, z, hu.symm⟩
    · exact .inr (.inr ⟨z, y, hv.symm⟩)
    · exact .inr (.inl he)
  · rintro (h | rfl | h)
    · exact h.trans ⟨[], w ++ v, by simp⟩
    · exact ⟨u, v, rfl⟩
    · exact h.trans ⟨u ++ w, [], by simp⟩

/-- What stands in front of the first occurrence of such a word, and what stands behind it. -/
theorem EndedBy.append_inj {stop : α} {w u v x y : List α} (hw : EndedBy stop w) (hu : ¬ w <:+: u) (hx : ¬ w <:+: x)
    (h : u ++ w ++ v = x ++ w ++ y) : u = x ∧ v = y := by
  rcases hw.split hw (.inl rfl) h with ⟨z, he, -⟩ | ⟨z, he, -⟩ | ⟨he, -, hv⟩
  · exact absurd ⟨x, z, he.symm⟩ hu
  · exact absurd ⟨u, z, he.symm⟩ hx
  · exact ⟨he, hv⟩

/-- A piece, and more pieces behind it, each after a word. -/
def joined (lead : List α) (parts : List (List α × List α)) : List α :=
  lead ++ parts.flatMap fun part => part.1 ++ part.2

theorem joined_cons (lead w piece : List α) (parts : List (List α × List α)) :
    joined lead ((w, piece) :: parts) = lead ++ w ++ joined piece parts := by
  simp [joined]

theorem EndedBy.infix_joined_iff {stop : α} {w : List α} (hw : EndedBy stop w) (lead : List α)
    (parts : List (List α × List α)) (hp : ∀ part ∈ parts, EndedBy stop part.1 ∧ (part.1 = w ∨ Apart part.1 w)) :
    w <:+: joined lead parts ↔ w <:+: lead ∨ ∃ part ∈ parts, part.1 = w ∨ w <:+: part.2 := by
  induction parts generalizing lead with
  | nil => simp [joined]
  | cons part parts ih =>
    obtain ⟨he, ha⟩ := hp part List.mem_cons_self
    have ih' := ih part.2 fun q hq => hp q (List.mem_cons_of_mem part hq)
    rw [joined_cons, he.infix_append_iff hw ha, ih']
    simp [or_assoc]

/-- The first occurrence is the one that has no other in front of it. -/
theorem EndedBy.firstIndex?_eq_some_iff [DecidableEq α] {stop : α} {w : List α} (hw : EndedBy stop w) (t : List α)
    (k : Nat) : firstIndex? w t = some k ↔ ∃ u v, t = u ++ w ++ v ∧ u.length = k ∧ ¬ w <:+: u := by
  rw [BlockHarness.firstIndex?_eq_some_iff]
  constructor
  · rintro ⟨u, v, ht, hk, hmin⟩
    refine ⟨u, v, ht, hk, ?_⟩
    rintro ⟨x, y, rfl⟩
    have hle := hmin x (y ++ w ++ v) (by simp [ht])
    have hpos := List.length_pos_iff.mpr hw.ne_nil
    simp only [List.length_append] at hle
    omega
  · rintro ⟨u, v, rfl, hk, hfree⟩
    refine ⟨u, v, rfl, hk, ?_⟩
    intro x y hxy
    rcases hw.split hw (.inl rfl) hxy with ⟨z, hu, -⟩ | ⟨z, hx, -⟩ | ⟨hux, -, -⟩
    · exact absurd ⟨x, z, hu.symm⟩ hfree
    · rw [hx]
      simp only [List.length_append]
      omega
    · exact Nat.le_of_eq (congrArg List.length hux)

/-! ## Between an opening and a closing word -/

/-- An opening and a closing word, both ended by one letter, neither of which ends in the other. -/
structure Brackets (stop : α) (opening closing : List α) : Prop where
  opening_ended : EndedBy stop opening
  closing_ended : EndedBy stop closing
  apart : Apart opening closing

/-- A list cut at its first opening word and at its first closing word, which comes later. -/
structure Cut (opening closing t front content back : List α) : Prop where
  eq_append : t = front ++ opening ++ content ++ closing ++ back
  front_opening : ¬ opening <:+: front
  front_closing : ¬ closing <:+: front
  content_closing : ¬ closing <:+: content

/-- A list cut at its first closing word, with every opening word behind it. -/
structure Crossed (opening closing t front back : List α) : Prop where
  eq_append : t = front ++ closing ++ back
  front_opening : ¬ opening <:+: front
  front_closing : ¬ closing <:+: front
  back_opening : opening <:+: back

section Between
variable [DecidableEq α] {stop : α} {opening closing t : List α} (hb : Brackets stop opening closing)
include hb

theorem Cut.firstIndex?_opening {u c v : List α} (h : Cut opening closing t u c v) :
    firstIndex? opening t = some u.length :=
  (hb.opening_ended.firstIndex?_eq_some_iff t _).mpr
    ⟨u, c ++ closing ++ v, by simp [h.eq_append], rfl, h.front_opening⟩

theorem Cut.firstIndex?_closing {u c v : List α} (h : Cut opening closing t u c v) :
    firstIndex? closing t = some (u.length + opening.length + c.length) := by
  refine (hb.closing_ended.firstIndex?_eq_some_iff t _).mpr ⟨u ++ opening ++ c, v, h.eq_append, ?_, ?_⟩
  · simp only [List.length_append]
  · rw [hb.opening_ended.infix_append_iff hb.closing_ended (.inr hb.apart)]
    simp only [h.front_closing, h.content_closing, hb.apart.ne, or_self, not_false_iff]

theorem Crossed.firstIndex?_closing {u v : List α} (h : Crossed opening closing t u v) :
    firstIndex? closing t = some u.length :=
  (hb.closing_ended.firstIndex?_eq_some_iff t _).mpr ⟨u, v, h.eq_append, rfl, h.front_closing⟩

theorem Crossed.firstIndex?_opening {u v : List α} (h : Crossed opening closing t u v) :
    ∃ i, firstIndex? opening t = some i ∧ u.length < i := by
  have hmem : opening <:+: t := h.back_opening.trans ⟨u ++ closing, [], by simp [h.eq_append]⟩
  cases hi : firstIndex? opening t with
  | none => exact absurd hmem ((firstIndex?_eq_none_iff opening t).mp hi)
  | some i =>
    obtain ⟨x, y, ht, hx, -⟩ := (hb.opening_ended.firstIndex?_eq_some_iff t i).mp hi
    have hpos := List.length_pos_iff.mpr hb.closing_ended.ne_nil
    refine ⟨i, rfl, ?_⟩
    rcases hb.closing_ended.split hb.opening_ended (.inr hb.apart.symm) (h.eq_append.symm.trans ht)
      with ⟨z, hu, -⟩ | ⟨z, hz, -⟩ | ⟨-, he, -⟩
    · exact absurd ⟨x, z, hu.symm⟩ h.front_opening
    · rw [← hx, hz]
      simp only [List.length_append]
      omega
    · exact absurd he.symm hb.apart.ne

/-- The two first occurrences are in order, and then a stretch lies between them, or they are the wrong way round;
a closing word never begins inside an opening one. -/
theorem Brackets.cut_or_crossed {i j : Nat} (hi : firstIndex? opening t = some i)
    (hj : firstIndex? closing t = some j) :
    (∃ u c v, Cut opening closing t u c v ∧ i = u.length ∧ j = u.length + opening.length + c.length) ∨
      (∃ u v, Crossed opening closing t u v ∧ j = u.length ∧ j < i) := by
  obtain ⟨u, v, ht, rfl, hu⟩ := (hb.opening_ended.firstIndex?_eq_some_iff t i).mp hi
  obtain ⟨x, y, ht', rfl, hx⟩ := (hb.closing_ended.firstIndex?_eq_some_iff t j).mp hj
  rcases hb.opening_ended.split hb.closing_ended (.inr hb.apart) (ht.symm.trans ht')
    with ⟨z, hz, hy⟩ | ⟨z, hz, hv⟩ | ⟨-, he, -⟩
  · have hpos := List.length_pos_iff.mpr hb.closing_ended.ne_nil
    refine .inr ⟨x, y, ⟨ht', fun ho => hu ?_, hx, ⟨z, v, hy.symm⟩⟩, rfl, ?_⟩
    · exact ho.trans ⟨[], closing ++ z, by simp [hz]⟩
    · rw [hz]
      simp only [List.length_append]
      omega
  · refine .inl ⟨u, z, y, ⟨by simp [ht, hv], hu, fun hc => hx ?_, fun hc => hx ?_⟩, rfl, ?_⟩
    · exact hc.trans ⟨[], opening ++ z, by simp [hz]⟩
    · exact hc.trans ⟨u ++ opening, [], by simp [hz]⟩
    · rw [hz, List.length_append, List.length_append]
  · exact absurd he hb.apart.ne

theorem between_eq_ok_iff (start finish : Nat) :
    between opening closing t = .ok (start, finish) ↔
      ∃ u c v, Cut opening closing t u c v ∧ start = u.length + opening.length ∧ finish = start + c.length := by
  constructor
  · intro h
    unfold between at h
    split at h
    next => cases h
    next i hi =>
      split at h
      next => cases h
      next j hj =>
        split at h
        next => cases h
        next hij =>
          obtain ⟨rfl, rfl⟩ := Prod.mk.inj (Except.ok.inj h)
          rcases hb.cut_or_crossed hi hj with ⟨u, c, v, hcut, hi', hj'⟩ | ⟨-, -, -, -, hlt⟩
          · exact ⟨u, c, v, hcut, by rw [hi'], by rw [hi', hj']⟩
          · omega
  · rintro ⟨u, c, v, h, rfl, rfl⟩
    rw [between, h.firstIndex?_opening hb, h.firstIndex?_closing hb]
    simp only
    rw [if_neg (by omega)]

theorem between_eq_outOfOrder_iff_lt :
    between opening closing t = .error .outOfOrder ↔
      ∃ i j, firstIndex? opening t = some i ∧ firstIndex? closing t = some j ∧ j < i := by
  constructor
  · intro h
    unfold between at h
    split at h
    next => cases h
    next i hi =>
      split at h
      next => cases h
      next j hj =>
        split at h
        next hij =>
          refine ⟨i, j, hi, hj, ?_⟩
          rcases hb.cut_or_crossed hi hj with ⟨u, c, v, -, hi', hj'⟩ | ⟨-, -, -, -, hlt⟩
          · omega
          · exact hlt
        next => cases h
  · rintro ⟨i, j, hi, hj, hlt⟩
    rw [between, hi, hj]
    simp only
    rw [if_pos (by omega)]

theorem between_eq_outOfOrder_iff :
    between opening closing t = .error .outOfOrder ↔ ∃ u v, Crossed opening closing t u v := by
  rw [between_eq_outOfOrder_iff_lt hb]
  constructor
  · rintro ⟨i, j, hi, hj, hlt⟩
    rcases hb.cut_or_crossed hi hj with ⟨u, c, v, -, hi', hj'⟩ | ⟨u, v, h, -, -⟩
    · omega
    · exact ⟨u, v, h⟩
  · rintro ⟨u, v, h⟩
    obtain ⟨i, hi, hlt⟩ := h.firstIndex?_opening hb
    exact ⟨i, u.length, hi, h.firstIndex?_closing hb, hlt⟩

omit hb in
theorem between_eq_missingBegin_iff : between opening closing t = .error .missingBegin ↔ ¬ opening <:+: t := by
  rw [between]
  cases hi : firstIndex? opening t with
  | none => simp [(firstIndex?_eq_none_iff opening t).mp hi]
  | some i =>
    have ho := infix_of_firstIndex?_eq_some hi
    cases firstIndex? closing t with
    | none => simp [ho]
    | some j =>
      simp only [ho, not_true, iff_false]
      split <;> simp

omit hb in
theorem between_eq_missingEnd_iff :
    between opening closing t = .error .missingEnd ↔ opening <:+: t ∧ ¬ closing <:+: t := by
  rw [between]
  cases hi : firstIndex? opening t with
  | none => simp [(firstIndex?_eq_none_iff opening t).mp hi]
  | some i =>
    have ho := infix_of_firstIndex?_eq_some hi
    cases hj : firstIndex? closing t with
    | none => simp [ho, (firstIndex?_eq_none_iff closing t).mp hj]
    | some j =>
      simp only [infix_of_firstIndex?_eq_some hj, not_true, and_false, iff_false]
      split <;> simp

theorem Cut.unique {u c v u' c' v' : List α} (h : Cut opening closing t u c v) (h' : Cut opening closing t u' c' v') :
    u = u' ∧ c = c' ∧ v = v' := by
  have hu : u.length = u'.length :=
    Option.some.inj ((h.firstIndex?_opening hb).symm.trans (h'.firstIndex?_opening hb))
  have hc : u.length + opening.length + c.length = u'.length + opening.length + c'.length :=
    Option.some.inj ((h.firstIndex?_closing hb).symm.trans (h'.firstIndex?_closing hb))
  have e := h.eq_append.symm.trans h'.eq_append
  simp only [List.append_assoc] at e
  obtain ⟨rfl, e₁⟩ := List.append_inj e hu
  obtain ⟨rfl, e₂⟩ := List.append_inj (List.append_cancel_left e₁) (by omega)
  exact ⟨rfl, rfl, List.append_cancel_left e₂⟩

omit hb [DecidableEq α] in
theorem Cut.slice_eq {u c v : List α} (h : Cut opening closing t u c v) :
    slice t (u.length + opening.length) (u.length + opening.length + c.length) = c := by
  have hd : t.drop (u.length + opening.length) = c ++ (closing ++ v) := by
    rw [h.eq_append, ← List.length_append]
    simp only [List.append_assoc]
    rw [← List.append_assoc u, List.drop_left]
  rw [slice, hd, Nat.add_sub_cancel_left, List.take_left]

end Between

end BlockHarness
