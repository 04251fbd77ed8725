import BlockHarness.Block.Capture
import BlockHarness.Proofs.Occurrence

/-! What is extracted from a text. All eight markers end in their only line feed and none ends in another, so they
never overlap; a block is found exactly in the texts that its markers cut, and all blocks are read exactly when each
of them is found. -/
namespace BlockHarness
set_option autoImplicit false

/-! ## Markers -/

namespace BlockName

def markers : List Text := all.flatMap fun b => [b.opening, b.closing]

theorem mem_all (b : BlockName) : b ∈ all := by cases b <;> decide

/-- The names in front of a name. -/
def earlier (b : BlockName) : List BlockName := all.takeWhile (· ≠ b)

theorem mem_earlier_iff (a b : BlockName) : a ∈ b.earlier ↔ a.index < b.index := by cases a <;> cases b <;> decide

theorem opening_mem_markers (b : BlockName) : b.opening ∈ markers := by
  simp only [markers, List.mem_flatMap]
  exact ⟨b, mem_all b, List.mem_cons_self⟩

theorem closing_mem_markers (b : BlockName) : b.closing ∈ markers := by
  simp only [markers, List.mem_flatMap]
  exact ⟨b, mem_all b, List.mem_cons_of_mem _ List.mem_cons_self⟩

theorem endedBy_of_mem_markers {m : Text} (h : m ∈ markers) : EndedBy '\n' m := by
  have hall : ∀ m ∈ markers, m = m.dropLast ++ ['\n'] ∧ '\n' ∉ m.dropLast := by decide
  exact ⟨m.dropLast, hall m h⟩

theorem markers_apart {m m' : Text} (h : m ∈ markers) (h' : m' ∈ markers) : m = m' ∨ Apart m m' := by
  have hall : ∀ m ∈ markers, ∀ m' ∈ markers, m = m' ∨ (¬ m <:+ m' ∧ ¬ m' <:+ m) := by decide
  exact hall m h m' h'

theorem opening_ne_closing (b b' : BlockName) : b.opening ≠ b'.closing := by cases b <;> cases b' <;> decide

theorem opening_injective {b b' : BlockName} (h : b.opening = b'.opening) : b = b' := by
  revert h
  cases b <;> cases b' <;> decide

theorem closing_injective {b b' : BlockName} (h : b.closing = b'.closing) : b = b' := by
  revert h
  cases b <;> cases b' <;> decide

theorem brackets (b : BlockName) : Brackets '\n' b.opening b.closing where
  opening_ended := endedBy_of_mem_markers b.opening_mem_markers
  closing_ended := endedBy_of_mem_markers b.closing_mem_markers
  apart := (markers_apart b.opening_mem_markers b.closing_mem_markers).resolve_left (b.opening_ne_closing b)

/-! ## One block -/

theorem locate_eq_ok_iff (b : BlockName) (t : Text) (range : Nat × Nat) :
    b.locate t = .ok range ↔ between b.opening b.closing t = .ok range := by
  rw [locate]
  cases between b.opening b.closing t <;> simp

theorem find_eq_error_iff (b : BlockName) (t : Text) (f : BlockFault) :
    b.find t = .error f ↔ f.block = b ∧ between b.opening b.closing t = .error f.fault := by
  obtain ⟨fault, block⟩ := f
  rw [find, locate]
  cases between b.opening b.closing t with
  | error e => simp [Except.map, eq_comm, and_comm]
  | ok range => simp [Except.map]

theorem find_eq_fault_iff (b : BlockName) (t : Text) (fault : MarkerFault) :
    b.find t = .error ⟨fault, b⟩ ↔ between b.opening b.closing t = .error fault := by
  simp [find_eq_error_iff]

theorem find_eq_ok_iff (b : BlockName) (t c : Text) :
    b.find t = .ok c ↔ ∃ u v, Cut b.opening b.closing t u c v := by
  constructor
  · intro h
    rw [find] at h
    cases hl : b.locate t with
    | error f => rw [hl] at h; cases h
    | ok range =>
      obtain ⟨u, c', v, hcut, hs, hf⟩ := (between_eq_ok_iff b.brackets _ _).mp ((locate_eq_ok_iff b t range).mp hl)
      have hc : slice t range.1 range.2 = c := by rw [hl] at h; exact Except.ok.inj h
      rw [hf, hs, hcut.slice_eq] at hc
      exact ⟨u, v, hc ▸ hcut⟩
  · rintro ⟨u, v, hcut⟩
    have hl : b.locate t = .ok (u.length + b.opening.length, u.length + b.opening.length + c.length) :=
      (locate_eq_ok_iff b t _).mpr ((between_eq_ok_iff b.brackets _ _).mpr ⟨u, c, v, hcut, rfl, rfl⟩)
    rw [find, hl]
    exact congrArg Except.ok hcut.slice_eq

/-- **What `find` accepts and what it refuses.** A block is found exactly where its markers cut the text, and the
cut is unique; each fault has its own reason, and markers are out of order exactly if the first closing one begins
before the first opening one does. -/
theorem find_grammar (b : BlockName) (t : Text) :
    (∀ c, b.find t = .ok c ↔ ∃ u v, Cut b.opening b.closing t u c v) ∧
    (∀ u c v u' c' v', Cut b.opening b.closing t u c v → Cut b.opening b.closing t u' c' v' →
      u = u' ∧ c = c' ∧ v = v') ∧
    (b.find t = .error ⟨.missingBegin, b⟩ ↔ ¬ b.opening <:+: t) ∧
    (b.find t = .error ⟨.missingEnd, b⟩ ↔ b.opening <:+: t ∧ ¬ b.closing <:+: t) ∧
    (b.find t = .error ⟨.outOfOrder, b⟩ ↔ ∃ u v, Crossed b.opening b.closing t u v) ∧
    (b.find t = .error ⟨.outOfOrder, b⟩ ↔
      ∃ i j, firstIndex? b.opening t = some i ∧ firstIndex? b.closing t = some j ∧ j < i) ∧
    (∀ f, b.find t = .error f → f.block = b) := by
  simp only [find_eq_fault_iff]
  refine ⟨find_eq_ok_iff b t, ?_, between_eq_missingBegin_iff, between_eq_missingEnd_iff,
    between_eq_outOfOrder_iff b.brackets, between_eq_outOfOrder_iff_lt b.brackets, ?_⟩
  · intro u c v u' c' v' h h'
    exact h.unique b.brackets h'
  · intro f hf
    exact ((find_eq_error_iff b t f).mp hf).1

/-- Two blocks of one name, the one inside the other. -/
def doubled : Text := "BEGIN assembly\nBEGIN assembly\nEND assembly\nEND assembly\n"

theorem find_grammar_doubled :
    assembly.find doubled = .ok "BEGIN assembly\n" ∧
      ∀ u c v, Cut assembly.opening assembly.closing doubled u c v →
        u = [] ∧ c = "BEGIN assembly\n" ∧ v = "END assembly\n" := by
  have hcut : Cut assembly.opening assembly.closing doubled [] "BEGIN assembly\n" "END assembly\n" :=
    ⟨by decide +kernel, by decide +kernel, by decide +kernel, by decide +kernel⟩
  obtain ⟨hok, hunique, -⟩ := find_grammar assembly doubled
  refine ⟨(hok _).mpr ⟨_, _, hcut⟩, ?_⟩
  intro u c v h
  exact hunique u c v _ _ _ h hcut

end BlockName

/-! ## All blocks -/

instance decidableEqOk {ε α : Type} [DecidableEq α] (a : α) : (x : Except ε α) → Decidable (x = .ok a)
  | .error _ => isFalse nofun
  | .ok b => decidable_of_iff (b = a) ⟨congrArg Except.ok, Except.ok.inj⟩

instance decidableEqError {ε α : Type} [DecidableEq ε] (e : ε) : (x : Except ε α) → Decidable (x = .error e)
  | .error e' => decidable_of_iff (e' = e) ⟨congrArg Except.error, Except.error.inj⟩
  | .ok _ => isFalse nofun

theorem bind_eq_ok_iff {ε α β : Type} (x : Except ε α) (f : α → Except ε β) (r : β) :
    (x >>= f) = .ok r ↔ ∃ a, x = .ok a ∧ f a = .ok r := by
  cases x with
  | error e => simp [bind, Except.bind]
  | ok a => simp [bind, Except.bind]

theorem bind_eq_error_iff {ε α β : Type} (x : Except ε α) (f : α → Except ε β) (e : ε) :
    (x >>= f) = .error e ↔ x = .error e ∨ ∃ a, x = .ok a ∧ f a = .error e := by
  cases x with
  | error e' => simp [bind, Except.bind]
  | ok a => simp [bind, Except.bind]

theorem mapError_eq_ok_iff {ε ε' α : Type} {x : Except ε α} {f : ε → ε'} {a : α} :
    x.mapError f = .ok a ↔ x = .ok a := by
  cases x with
  | error e => constructor <;> intro h <;> cases h
  | ok b =>
    have hmap : (Except.ok b : Except ε α).mapError f = .ok b := rfl
    rw [hmap, Except.ok.injEq, Except.ok.injEq]

theorem map_eq_ok_iff {ε α β : Type} {x : Except ε α} {f : α → β} {b : β} :
    x.map f = .ok b ↔ ∃ a, x = .ok a ∧ f a = b := by
  cases x with
  | error e => simp [Except.map]
  | ok a => simp [Except.map]

theorem toOption_eq_some_iff {ε α : Type} {x : Except ε α} {a : α} : x.toOption = some a ↔ x = .ok a := by
  cases x <;> simp [Except.toOption]

theorem mem_of_lookup_eq_some {κ α : Type} [BEq κ] [LawfulBEq κ] {k : κ} {pairs : List (κ × α)} {a : α}
    (h : pairs.lookup k = some a) : (k, a) ∈ pairs := by
  obtain ⟨before, after, rfl, -⟩ := List.lookup_eq_some_iff.mp h
  exact List.mem_append_right before List.mem_cons_self

theorem Blocks.read_eq_ok_iff (t : Text) (p : Blocks) :
    Blocks.read t = .ok p ↔ ∀ b : BlockName, b.find t = .ok (p.get b) := by
  simp only [Blocks.read, bind_eq_ok_iff]
  constructor
  · rintro ⟨a, ha, m, hm, o, ho, r, hr, h⟩ b
    have hp : { assembly := a, machineCode := m, programOutput := o, readBuffer := r } = p := Except.ok.inj h
    subst hp
    cases b with
    | assembly => exact ha
    | machineCode => exact hm
    | programOutput => exact ho
    | readBuffer => exact hr
  · intro h
    exact ⟨_, h .assembly, _, h .machineCode, _, h .programOutput, _, h .readBuffer, rfl⟩

/-- A block that was read does not hold its own closing marker. -/
theorem Blocks.closing_not_infix_get {t : Text} {p : Blocks} (h : Blocks.read t = .ok p) (b : BlockName) :
    ¬ b.closing <:+: p.get b := by
  obtain ⟨u, v, hcut⟩ := (b.find_eq_ok_iff t _).mp ((Blocks.read_eq_ok_iff t p).mp h b)
  exact hcut.content_closing

theorem Blocks.exists_read_eq_error_iff (t : Text) :
    (∃ f, Blocks.read t = .error f) ↔ ∃ b : BlockName, ∃ f, b.find t = .error f := by
  constructor
  · rintro ⟨f, h⟩
    simp only [Blocks.read, bind_eq_error_iff] at h
    rcases h with h | ⟨a, -, h | ⟨m, -, h | ⟨o, -, h | ⟨r, -, h⟩⟩⟩⟩
    · exact ⟨.assembly, f, h⟩
    · exact ⟨.machineCode, f, h⟩
    · exact ⟨.programOutput, f, h⟩
    · exact ⟨.readBuffer, f, h⟩
    · cases h
  · rintro ⟨b, f, hf⟩
    cases hr : Blocks.read t with
    | error f' => exact ⟨f', rfl⟩
    | ok p =>
      rw [(Blocks.read_eq_ok_iff t p).mp hr b] at hf
      cases hf

end BlockHarness
