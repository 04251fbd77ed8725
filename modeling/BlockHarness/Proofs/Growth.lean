import BlockHarness.Proofs.Extraction

/-! Texts that grow. More text behind a text leaves every block that was found as it was, and markers that were out
of order stay so; only a marker that was missing may still come. So the front of a text that can be read either reads
the same or misses a marker. -/
namespace BlockHarness
set_option autoImplicit false

/-! ## Two words in a growing list -/

section Between
variable {α : Type} {opening closing t : List α}

theorem Cut.append {u c v : List α} (h : Cut opening closing t u c v) (s : List α) :
    Cut opening closing (t ++ s) u c (v ++ s) where
  eq_append := by simp [h.eq_append]
  front_opening := h.front_opening
  front_closing := h.front_closing
  content_closing := h.content_closing

theorem Crossed.append {u v : List α} (h : Crossed opening closing t u v) (s : List α) :
    Crossed opening closing (t ++ s) u (v ++ s) where
  eq_append := by simp [h.eq_append]
  front_opening := h.front_opening
  front_closing := h.front_closing
  back_opening := h.back_opening.trans ⟨[], s, rfl⟩

/-- Where an opening word stands and no closing one does, a closing word can only come behind it. -/
theorem Brackets.not_crossed_append [DecidableEq α] {stop : α} (hb : Brackets stop opening closing) {u v : List α}
    (ho : opening <:+: t) (hc : ¬ closing <:+: t) (s : List α) : ¬ Crossed opening closing (t ++ s) u v := by
  intro h
  obtain ⟨x, y, ht⟩ := ho
  have e : x ++ opening ++ (y ++ s) = u ++ closing ++ v := by
    rw [← h.eq_append, ← ht]
    simp only [List.append_assoc]
  rcases hb.opening_ended.split hb.closing_ended (.inr hb.apart) e with ⟨z, hx, -⟩ | ⟨z, hu, -⟩ | ⟨-, he, -⟩
  · exact hc ⟨u, z ++ opening ++ y, by simp [← ht, hx]⟩
  · exact h.front_opening ⟨x, z, hu.symm⟩
  · exact hb.apart.ne he

end Between

/-! ## One block -/

namespace BlockName
variable {b : BlockName} {t : Text}

theorem find_append_of_ok {c : Text} (h : b.find t = .ok c) (s : Text) : b.find (t ++ s) = .ok c := by
  obtain ⟨u, v, hcut⟩ := (find_eq_ok_iff b t c).mp h
  exact (find_eq_ok_iff b (t ++ s) c).mpr ⟨u, v ++ s, hcut.append s⟩

theorem find_append_of_outOfOrder (h : b.find t = .error ⟨.outOfOrder, b⟩) (s : Text) :
    b.find (t ++ s) = .error ⟨.outOfOrder, b⟩ := by
  rw [find_eq_fault_iff, between_eq_outOfOrder_iff b.brackets] at h ⊢
  obtain ⟨u, v, hx⟩ := h
  exact ⟨u, v ++ s, hx.append s⟩

theorem find_append_of_missingEnd (h : b.find t = .error ⟨.missingEnd, b⟩) (s : Text) :
    b.find (t ++ s) = .error ⟨.missingEnd, b⟩ ∨ ∃ c, b.find (t ++ s) = .ok c := by
  obtain ⟨ho, hc⟩ := between_eq_missingEnd_iff.mp ((find_eq_fault_iff b t _).mp h)
  cases hf : b.find (t ++ s) with
  | ok c => exact .inr ⟨c, rfl⟩
  | error f =>
    obtain ⟨hblock, hbetween⟩ := (find_eq_error_iff b (t ++ s) f).mp hf
    obtain ⟨fault, block⟩ := f
    obtain rfl : block = b := hblock
    cases fault with
    | missingBegin => exact absurd (ho.trans ⟨[], s, rfl⟩) (between_eq_missingBegin_iff.mp hbetween)
    | missingEnd => exact .inl rfl
    | outOfOrder =>
      obtain ⟨u, v, hx⟩ := (between_eq_outOfOrder_iff block.brackets).mp hbetween
      exact absurd hx (block.brackets.not_crossed_append ho hc s)

theorem idxOf_all (b : BlockName) : all.idxOf b = b.index := by cases b <;> decide

theorem index_injective {b b' : BlockName} (h : b.index = b'.index) : b = b' := by
  revert h
  cases b <;> cases b' <;> decide

end BlockName

/-! ## All blocks -/

namespace Blocks
variable {t : Text} {f f' : BlockFault}

theorem first_of_find_eq_error {b : BlockName} (h : b.find t = .error f)
    (hbefore : ∀ b' : BlockName, b'.index < b.index → ∃ c, b'.find t = .ok c) :
    f.block.find t = .error f ∧ ∀ b' : BlockName, b'.index < f.block.index → ∃ c, b'.find t = .ok c := by
  rw [((BlockName.find_eq_error_iff b t f).mp h).1]
  exact ⟨h, hbefore⟩

theorem find_of_read_eq_error (h : read t = .error f) :
    f.block.find t = .error f ∧ ∀ b : BlockName, b.index < f.block.index → ∃ c, b.find t = .ok c := by
  simp only [read, bind_eq_error_iff] at h
  rcases h with h | ⟨a, ha, h | ⟨m, hm, h | ⟨o, ho, h | ⟨r, -, h⟩⟩⟩⟩
  · refine first_of_find_eq_error h fun b hlt => ?_
    cases b <;> exact absurd hlt (by decide)
  · refine first_of_find_eq_error h fun b hlt => ?_
    cases b with
    | assembly => exact ⟨a, ha⟩
    | _ => exact absurd hlt (by decide)
  · refine first_of_find_eq_error h fun b hlt => ?_
    cases b with
    | assembly => exact ⟨a, ha⟩
    | machineCode => exact ⟨m, hm⟩
    | _ => exact absurd hlt (by decide)
  · refine first_of_find_eq_error h fun b hlt => ?_
    cases b with
    | assembly => exact ⟨a, ha⟩
    | machineCode => exact ⟨m, hm⟩
    | programOutput => exact ⟨o, ho⟩
    | readBuffer => exact absurd hlt (by decide)
  · cases h

theorem le_index_of_find_eq_error {n : Nat} (hbefore : ∀ b : BlockName, b.index < n → ∃ c, b.find t = .ok c)
    {b : BlockName} (h : b.find t = .error f) : n ≤ b.index := by
  apply Nat.le_of_not_lt
  intro hlt
  obtain ⟨c, hc⟩ := hbefore b hlt
  rw [h] at hc
  cases hc

/-- The fault that is reported is that of the first block that cannot be found. -/
theorem read_eq_error_iff (t : Text) (f : BlockFault) :
    read t = .error f ↔
      f.block.find t = .error f ∧ ∀ b : BlockName, b.index < f.block.index → ∃ c, b.find t = .ok c := by
  constructor
  · exact find_of_read_eq_error
  · rintro ⟨hf, hbefore⟩
    obtain ⟨f', hr⟩ := (exists_read_eq_error_iff t).mpr ⟨f.block, f, hf⟩
    obtain ⟨hf', hbefore'⟩ := find_of_read_eq_error hr
    -- neither block is in front of the other one, since both fail
    have hle : f'.block.index ≤ f.block.index := le_index_of_find_eq_error hbefore' hf
    have hge : f.block.index ≤ f'.block.index := le_index_of_find_eq_error hbefore hf'
    rw [BlockName.index_injective (Nat.le_antisymm hle hge), hf] at hf'
    rw [hr, Except.error.inj hf']

theorem found_append {n : Nat} (h : ∀ b : BlockName, b.index < n → ∃ c, b.find t = .ok c) (s : Text) (b : BlockName)
    (hb : b.index < n) : ∃ c, b.find (t ++ s) = .ok c := by
  obtain ⟨c, hc⟩ := h b hb
  exact ⟨c, BlockName.find_append_of_ok hc s⟩

theorem read_append_of_ok {p : Blocks} (h : read t = .ok p) (s : Text) : read (t ++ s) = .ok p :=
  (read_eq_ok_iff _ p).mpr fun b => BlockName.find_append_of_ok ((read_eq_ok_iff t p).mp h b) s

theorem read_append_of_outOfOrder (h : read t = .error f) (hf : f.fault = .outOfOrder) (s : Text) :
    read (t ++ s) = .error f := by
  obtain ⟨fault, block⟩ := f
  obtain rfl : fault = .outOfOrder := hf
  obtain ⟨hfind, hbefore⟩ := (read_eq_error_iff t _).mp h
  exact (read_eq_error_iff _ _).mpr ⟨BlockName.find_append_of_outOfOrder hfind s, found_append hbefore s⟩

/-- The first block that cannot be found never comes to stand further to the front. -/
theorem index_le_of_read_append {s : Text} (h : read t = .error f) (h' : read (t ++ s) = .error f') :
    f.block.index ≤ f'.block.index :=
  le_index_of_find_eq_error (found_append (find_of_read_eq_error h).2 s) (find_of_read_eq_error h').1

theorem read_of_read_append {s : Text} {p : Blocks} (h : read (t ++ s) = .ok p) :
    read t = .ok p ∨ ∃ b, read t = .error ⟨.missingBegin, b⟩ ∨ read t = .error ⟨.missingEnd, b⟩ := by
  cases hr : read t with
  | ok q =>
    rw [read_append_of_ok hr s] at h
    exact .inl h
  | error f =>
    obtain ⟨fault, block⟩ := f
    cases fault with
    | missingBegin => exact .inr ⟨block, .inl rfl⟩
    | missingEnd => exact .inr ⟨block, .inr rfl⟩
    | outOfOrder =>
      rw [read_append_of_outOfOrder hr rfl s] at h
      cases h

/-- **Answers under growth.** More text behind a text changes no block that was found in it and no markers out of
order, and where only the closing marker was missing, nothing but that marker can come. All blocks read stay as they
are, so does a fault of markers out of order, and a fault that is reported moves to a later block if it moves. So the
front of a text that can be read reads the same, or misses a marker. -/
theorem read_append (t s : Text) :
    (∀ b : BlockName,
      (∀ c, b.find t = .ok c → b.find (t ++ s) = .ok c) ∧
      (b.find t = .error ⟨.outOfOrder, b⟩ → b.find (t ++ s) = .error ⟨.outOfOrder, b⟩) ∧
      (b.find t = .error ⟨.missingEnd, b⟩ →
        b.find (t ++ s) = .error ⟨.missingEnd, b⟩ ∨ ∃ c, b.find (t ++ s) = .ok c)) ∧
    (∀ p, read t = .ok p → read (t ++ s) = .ok p) ∧
    (∀ b, read t = .error ⟨.outOfOrder, b⟩ → read (t ++ s) = .error ⟨.outOfOrder, b⟩) ∧
    (∀ f f', read t = .error f → read (t ++ s) = .error f' →
      BlockName.all.idxOf f.block ≤ BlockName.all.idxOf f'.block) ∧
    (∀ p, read (t ++ s) = .ok p →
      read t = .ok p ∨ ∃ b, read t = .error ⟨.missingBegin, b⟩ ∨ read t = .error ⟨.missingEnd, b⟩) := by
  refine ⟨fun b => ⟨?_, ?_, ?_⟩, ?_, ?_, ?_, ?_⟩
  · intro c h
    exact BlockName.find_append_of_ok h s
  · intro h
    exact BlockName.find_append_of_outOfOrder h s
  · intro h
    exact BlockName.find_append_of_missingEnd h s
  · intro p h
    exact read_append_of_ok h s
  · intro b h
    exact read_append_of_outOfOrder h rfl s
  · intro f f' h h'
    rw [BlockName.idxOf_all, BlockName.idxOf_all]
    exact index_le_of_read_append h h'
  · intro p h
    exact read_of_read_append h

/-- The front of some output, cut inside a marker: two blocks stand in it, one is open and one has its markers out of
order. -/
def cutShort : Text :=
  "BEGIN assembly\nret\nEND assembly\nBEGIN program output\n1\nEND program output\n" ++
    "END read buffer\nBEGIN read buffer\nBEGIN machine code\nc3 END mach"

/-- All of some output but the end of the last marker. -/
def almostWhole : Text :=
  "BEGIN read buffer\nyankeeEND read buffer\nBEGIN program output\n1\nEND program output\n" ++
    "BEGIN assembly\nret\nEND assembly\nBEGIN machine code\nc3 END mach"

theorem read_append_cutShort :
    BlockName.assembly.find (cutShort ++ "ine code\n") = .ok "ret\n" ∧
      BlockName.readBuffer.find (cutShort ++ "ine code\n") = .error ⟨.outOfOrder, .readBuffer⟩ ∧
      (BlockName.machineCode.find (cutShort ++ "ine code\n") = .error ⟨.missingEnd, .machineCode⟩ ∨
        ∃ c, BlockName.machineCode.find (cutShort ++ "ine code\n") = .ok c) ∧
      BlockName.all.idxOf .machineCode ≤ BlockName.all.idxOf .readBuffer ∧
      read (cutShort ++ "ine code\n" ++ almostWhole) = .error ⟨.outOfOrder, .readBuffer⟩ ∧
      read (almostWhole ++ "ine code\n" ++ cutShort) = .ok ⟨"ret\n", "c3 ", "1\n", "yankee"⟩ ∧
      (read almostWhole = .ok ⟨"ret\n", "c3 ", "1\n", "yankee"⟩ ∨
        ∃ b, read almostWhole = .error ⟨.missingBegin, b⟩ ∨ read almostWhole = .error ⟨.missingEnd, b⟩) := by
  have hopen : read cutShort = .error ⟨.missingEnd, .machineCode⟩ := by decide +kernel
  have hclosed : read (cutShort ++ "ine code\n") = .error ⟨.outOfOrder, .readBuffer⟩ := by decide +kernel
  have hwhole : read (almostWhole ++ "ine code\n") = .ok ⟨"ret\n", "c3 ", "1\n", "yankee"⟩ := by decide +kernel
  obtain ⟨hfind, -, -, hfault, -⟩ := read_append cutShort "ine code\n"
  obtain ⟨-, -, horder, -⟩ := read_append (cutShort ++ "ine code\n") almostWhole
  obtain ⟨-, hok, -⟩ := read_append (almostWhole ++ "ine code\n") cutShort
  obtain ⟨-, -, -, -, hfront⟩ := read_append almostWhole "ine code\n"
  exact ⟨(hfind .assembly).1 _ (by decide +kernel), (hfind .readBuffer).2.1 (by decide +kernel),
    (hfind .machineCode).2.2 (by decide +kernel), hfault _ _ hopen hclosed, horder _ hclosed, hok _ hwhole,
    hfront _ hwhole⟩

end Blocks
end BlockHarness
