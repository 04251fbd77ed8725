import BlockHarness.Process.Piping

/-! One step of a process or of the harness at the pipes between them: what it moves, what it keeps, and that there is
always one to take. This is proved for each kind of pipe and then for all of them together. -/
namespace BlockHarness.Piping
set_option autoImplicit false

/-! ## The pipe of the input -/

/-- How many steps of the harness are left at the pipe of the input, at most. -/
def Inlet.left (p : Inlet) : Nat := p.pending.length + if p.feeding = none then 1 else 0

/-- What is always true of the pipe of the input. -/
structure Inlet.Valid (capacity : Nat) (p : Inlet) : Prop where
  content_le : p.content.length ≤ capacity
  pending_eq : p.feeding = some .complete → p.pending = []
  broken : p.feeding = some .brokenPipe → p.isHeld = false ∧ p.pending ≠ []
  feeding_eq {feeding : Feeding} : p.feeding = some feeding → feeding = .complete ∨ feeding = .brokenPipe

namespace Inlet
variable {capacity : Nat} {e : InletEvent} {p p' : Inlet}

/-- A step moves octets on: what is read is what was next. -/
theorem Step.conserves (h : Step capacity e p p') :
    e.octetsRead ++ (p'.content ++ p'.pending) = p.content ++ p.pending := by
  cases h with
  | fed _ _ _ next => simp [InletEvent.octetsRead, next]
  | read _ _ next => simp [InletEvent.octetsRead, next]
  | completed | broken | sawEnd | closed => rfl

theorem Step.valid (h : Step capacity e p p') (hp : p.Valid capacity) : p'.Valid capacity := by
  cases h with
  | fed unended held nonempty next fits =>
    exact ⟨by simpa using fits, by simp [unended], by simp [unended], by simp [unended]⟩
  | completed unended written =>
    exact ⟨hp.content_le, fun _ => written, by simp, fun hf => .inl (Option.some.inj hf).symm⟩
  | broken unended unwritten unheld =>
    exact ⟨hp.content_le, by simp, fun _ => ⟨unheld, unwritten⟩, fun hf => .inr (Option.some.inj hf).symm⟩
  | read held nonempty next =>
    have hle := hp.content_le
    rw [next, List.length_append] at hle
    exact ⟨by simp only; omega, hp.pending_eq, hp.broken, hp.feeding_eq⟩
  | sawEnd => exact hp
  | closed => exact ⟨hp.content_le, hp.pending_eq, fun hf => ⟨rfl, (hp.broken hf).2⟩, hp.feeding_eq⟩

theorem Step.isHeld_eq (h : Step capacity e p p') (he : e.isOurs = false) : p.isHeld = true := by
  cases h with
  | fed | completed | broken => cases he
  | read held | sawEnd held | closed held => exact held

theorem Step.unheld (h : Step capacity e p p') (hp : p.isHeld = false) : p'.isHeld = false := by
  cases h with
  | closed => rfl
  | fed | completed | broken | read | sawEnd => exact hp

theorem Step.feeding_eq {feeding : Feeding} (h : Step capacity e p p') (hp : p.feeding = some feeding) :
    p'.feeding = some feeding := by
  cases h with
  | completed unended | broken unended => rw [hp] at unended; cases unended
  | fed | read | sawEnd | closed => exact hp

theorem Step.feeding_ended {feeding : Feeding} (h : Step capacity (.feedingEnded feeding) p p') :
    p'.feeding = some feeding := by
  cases h with
  | completed | broken => rfl

theorem Step.left_lt (h : Step capacity e p p') (he : e.isOurs = true) : p'.left < p.left := by
  cases h with
  | fed unended held nonempty next =>
    have hpos := List.length_pos_iff.mpr nonempty
    simp only [left, next, List.length_append]
    omega
  | completed unended | broken unended => simp [left, unended]
  | read | sawEnd | closed => cases he

/-- Nobody waits in vain at the pipe of the input: the harness can write to it while there is room or nobody to read. -/
theorem exists_step (hc : 0 < capacity) (hp : p.feeding = none) (hroom : p.isHeld = true → p.content = []) :
    ∃ e p', e.isOurs = true ∧ Step capacity e p p' := by
  cases hn : p.pending with
  | nil => exact ⟨_, _, rfl, .completed hp hn⟩
  | cons octet rest =>
    cases hh : p.isHeld with
    | false => exact ⟨_, _, rfl, .broken hp (by simp [hn]) hh⟩
    | true =>
      refine ⟨.fed [octet], _, rfl, .fed hp hh (by simp) hn ?_⟩
      rw [hroom hh]
      exact hc

/-- A process that sees the end of its input has read all of it. -/
theorem Step.eq_nil_of_sawEnd (h : Step capacity .sawEnd p p') (hp : p.Valid capacity) : p.content ++ p.pending = [] := by
  cases h with
  | sawEnd held empty ended =>
    cases hf : p.feeding with
    | none => exact absurd hf ended
    | some feeding =>
      rcases hp.feeding_eq hf with rfl | rfl
      · rw [empty, hp.pending_eq hf, List.append_nil]
      · exact absurd (hp.broken hf).1 (by simp [held])

theorem Step.ne_nil_or_ended (h : Step capacity e p p') (he : e.isOurs = true) :
    p'.content ≠ [] ∨ p'.feeding ≠ none := by
  cases h with
  | fed unended held nonempty => exact .inl (by simp [nonempty])
  | completed | broken => exact .inr nofun
  | read | sawEnd | closed => cases he

end Inlet

/-! ## The pipes of the outputs -/

/-- How many steps of the harness are left at the pipe of an output, at most, if nothing more is written to it. -/
def Outlet.left (p : Outlet) : Nat := p.content.length + if p.isDrained then 0 else 1

/-- What is always true of the pipe of an output. -/
structure Outlet.Valid (capacity : Nat) (p : Outlet) : Prop where
  content_le : p.content.length ≤ capacity
  drained : p.isDrained = true → p.isHeld = false ∧ p.content = []

namespace Outlet
variable {capacity : Nat} {e : OutletEvent} {p p' : Outlet}

/-- A step moves octets on: what is written comes after all that was written before. -/
theorem Step.conserves (h : Step capacity e p p') :
    p'.captured ++ p'.content = p.captured ++ p.content ++ e.octetsWritten := by
  cases h with
  | wrote => simp [OutletEvent.octetsWritten]
  | drained _ _ next => simp [OutletEvent.octetsWritten, next]
  | closed | drainEnded => simp [OutletEvent.octetsWritten]

theorem Step.valid (h : Step capacity e p p') (hp : p.Valid capacity) : p'.Valid capacity := by
  cases h with
  | wrote held nonempty fits =>
    refine ⟨by simpa using fits, fun hd => ?_⟩
    exact absurd (hp.drained hd).1 (by simp [held])
  | closed => exact ⟨hp.content_le, fun hd => ⟨rfl, (hp.drained hd).2⟩⟩
  | drained undrained nonempty next =>
    have hle := hp.content_le
    rw [next, List.length_append] at hle
    exact ⟨by simp only; omega, by simp [undrained]⟩
  | drainEnded undrained unheld empty => exact ⟨hp.content_le, fun _ => ⟨unheld, empty⟩⟩

theorem Step.isHeld_eq (h : Step capacity e p p') (he : e.isOurs = false) : p.isHeld = true := by
  cases h with
  | wrote held | closed held => exact held
  | drained | drainEnded => cases he

theorem Step.unheld (h : Step capacity e p p') (hp : p.isHeld = false) : p'.isHeld = false := by
  cases h with
  | closed => rfl
  | wrote | drained | drainEnded => exact hp

/-- Once the end of a pipe has been seen, nothing more is taken from it. -/
theorem Step.captured_eq (h : Step capacity e p p') (hp : p.isDrained = true) :
    p'.isDrained = true ∧ p'.captured = p.captured := by
  cases h with
  | drained undrained | drainEnded undrained => rw [hp] at undrained; cases undrained
  | wrote | closed => exact ⟨hp, rfl⟩

theorem Step.left_lt (h : Step capacity e p p') (he : e.isOurs = true) : p'.left < p.left := by
  cases h with
  | wrote | closed => cases he
  | drained undrained nonempty next =>
    have hpos := List.length_pos_iff.mpr nonempty
    simp only [left, next, List.length_append]
    omega
  | drainEnded undrained => simp [left, undrained]

/-- The harness can take all that is in a pipe. -/
theorem exists_drained (hp : p.Valid capacity) (hn : p.content ≠ []) : ∃ p', Step capacity (.drained p.content) p p' := by
  have hd : p.isDrained = false := by
    by_contra hd
    exact hn (hp.drained (by simpa using hd)).2
  exact ⟨_, .drained hd hn (List.append_nil _).symm⟩

theorem exists_step (hp : p.Valid capacity) (hh : p.isHeld = false) (hd : p.isDrained = false) :
    ∃ e p', e.isOurs = true ∧ Step capacity e p p' := by
  by_cases hn : p.content = []
  · exact ⟨_, _, rfl, .drainEnded hd hh hn⟩
  · obtain ⟨p', h⟩ := exists_drained hp hn
    exact ⟨_, p', rfl, h⟩

theorem Step.length_lt {chunk : Octets} (h : Step capacity (.drained chunk) p p') :
    p'.content.length < p.content.length := by
  cases h with
  | drained undrained nonempty next =>
    have hpos := List.length_pos_iff.mpr nonempty
    rw [next, List.length_append]
    simp only
    omega

end Outlet

/-! ## All pipes together -/

/-- What is always true of a process and the harness. -/
structure State.Valid (c : Capacity) (s : State) : Prop where
  inlet : s.inlet.Valid c.input
  outlet (o : Output) : (s.outlet o).Valid (c.output o)
  unheld : s.status ≠ none → s.inlet.isHeld = false ∧ ∀ o, (s.outlet o).isHeld = false
  returned (ended : Ended) : s.returned = some ended →
    s.status = some ended.status ∧ s.inlet.feeding = some ended.feeding ∧
      ∀ o, (s.outlet o).isDrained = true ∧ o.of ended = (s.outlet o).captured

/-- How many steps of the harness are left, at most, if nothing more is written to an output. -/
def State.left (s : State) : Nat :=
  s.inlet.left + (s.outlet .stdout).left + (s.outlet .stderr).left + if s.returned = none then 1 else 0

section
variable {c : Capacity} {e : Event} {s s' : State}

theorem State.start_valid (c : Capacity) (input : Octets) : (State.start input).Valid c :=
  ⟨⟨Nat.zero_le _, nofun, nofun, nofun⟩, fun _ => ⟨Nat.zero_le _, nofun⟩, fun h => absurd rfl h, nofun⟩

theorem Step.valid (h : Step c e s s') (hs : s.Valid c) : s'.Valid c := by
  cases h with
  | atInlet step =>
    refine ⟨step.valid hs.inlet, hs.outlet, fun hx => ⟨step.unheld (hs.unheld hx).1, (hs.unheld hx).2⟩, ?_⟩
    intro ended hr
    obtain ⟨hstatus, hfeeding, houtputs⟩ := hs.returned ended hr
    exact ⟨hstatus, step.feeding_eq hfeeding, houtputs⟩
  | atOutlet o step =>
    refine ⟨hs.inlet, ?_, fun hx => ⟨(hs.unheld hx).1, ?_⟩, fun ended hr => ?_⟩
    · exact (Function.forall_update_iff _ fun o (p : Outlet) => p.Valid (c.output o)).mpr
        ⟨step.valid (hs.outlet o), fun o' _ => hs.outlet o'⟩
    · exact (Function.forall_update_iff _ fun _ (p : Outlet) => p.isHeld = false).mpr
        ⟨step.unheld ((hs.unheld hx).2 o), fun o' _ => (hs.unheld hx).2 o'⟩
    · -- Nothing more is taken from an output whose end has been seen, so what was returned is still all of it.
      obtain ⟨hstatus, hfeeding, houtputs⟩ := hs.returned ended hr
      obtain ⟨hdrained, hcaptured⟩ := step.captured_eq (houtputs o).1
      refine ⟨hstatus, hfeeding, ?_⟩
      exact (Function.forall_update_iff _ fun o (p : Outlet) => p.isDrained = true ∧ o.of ended = p.captured).mpr
        ⟨⟨hdrained, (houtputs o).2.trans hcaptured.symm⟩, fun o' _ => houtputs o'⟩
  | exited status running =>
    refine ⟨?_, fun o => ⟨(hs.outlet o).content_le, fun hd => ⟨rfl, ((hs.outlet o).drained hd).2⟩⟩,
      fun _ => ⟨rfl, fun _ => rfl⟩, fun ended hr => ?_⟩
    · exact ⟨hs.inlet.content_le, hs.inlet.pending_eq, fun hf => ⟨rfl, (hs.inlet.broken hf).2⟩, hs.inlet.feeding_eq⟩
    · rw [(hs.returned ended hr).1] at running
      cases running
  | returned unreturned exited fed drained =>
    refine ⟨hs.inlet, hs.outlet, hs.unheld, fun ended hr => ?_⟩
    obtain rfl := Option.some.inj hr
    exact ⟨exited, fed, fun o => ⟨drained o, by cases o <;> rfl⟩⟩

theorem Step.conserves_input (h : Step c e s s') :
    e.octetsRead ++ (s'.inlet.content ++ s'.inlet.pending) = s.inlet.content ++ s.inlet.pending := by
  cases h with
  | atInlet step => exact step.conserves
  | atOutlet | exited | returned => rfl

theorem Step.conserves_output (h : Step c e s s') (o : Output) :
    (s'.outlet o).captured ++ (s'.outlet o).content =
      (s.outlet o).captured ++ (s.outlet o).content ++ e.octetsWritten o := by
  cases h with
  | atOutlet o' step =>
    by_cases ho : o' = o
    · subst ho
      simpa [Event.octetsWritten] using step.conserves
    · simp [Event.octetsWritten, ho, Function.update_of_ne (Ne.symm ho)]
  | atInlet | exited | returned => simp [Event.octetsWritten, State.exit]

/-- A process that has exited takes no more steps. -/
theorem Step.isOurs_of_exited (h : Step c e s s') (hs : s.Valid c) (hx : s.status ≠ none) : e.isOurs = true := by
  obtain ⟨hin, hout⟩ := hs.unheld hx
  cases h with
  | atInlet step =>
    by_contra he
    exact absurd (step.isHeld_eq (by simpa [Event.isOurs] using he)) (by simp [hin])
  | atOutlet o step =>
    by_contra he
    exact absurd (step.isHeld_eq (by simpa [Event.isOurs] using he)) (by simp [hout o])
  | exited status running => exact absurd running hx
  | returned => rfl

theorem Step.status_ne_none (h : Step c e s s') (hx : s.status ≠ none) : s'.status ≠ none := by
  cases h with
  | exited => exact nofun
  | atInlet | atOutlet | returned => exact hx

/-- Every step of the harness brings it nearer to returning. -/
theorem Step.left_lt (h : Step c e s s') (he : e.isOurs = true) : s'.left < s.left := by
  cases h with
  | atInlet step =>
    have hlt := step.left_lt he
    simp only [State.left]
    omega
  | atOutlet o step =>
    have hlt := step.left_lt he
    cases o <;> simp [State.left, Function.update_of_ne] <;> omega
  | exited => cases he
  | returned unreturned => simp [State.left, unreturned]

end

end BlockHarness.Piping
