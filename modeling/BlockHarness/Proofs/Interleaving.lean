import BlockHarness.Proofs.Piping

/-! Whole runs of a process and the harness, in every interleaving: nothing is lost in the pipes between them, neither of
them waits for the other in vain, and a process that has exited is returned with all that it has written. -/
namespace BlockHarness.Piping
set_option autoImplicit false

/-! ## What is promised -/

/-- Nothing is lost. The process reads its input from the start, and sees its end when it has read all of it; what was
taken from an output and what is in its pipe are all that was written to it; and that is what is returned. -/
structure Lossless (input : Octets) (es : List Event) (s : State) : Prop where
  readIn_prefix : readIn es <+: input
  sawEnd {before after : List Event} : es = before ++ .atInlet .sawEnd :: after → readIn before = input
  captured_append (o : Output) : (s.outlet o).captured ++ (s.outlet o).content = writtenIn o es
  returned (ended : Ended) : s.returned = some ended →
    .exited ended.status ∈ es ∧ (∀ o, o.of ended = writtenIn o es) ∧
      ∀ program, (Outcome.ended ended).capture program =
        if ended.status.success then
          .ok ⟨Utf8.decodeLossy (writtenIn .stdout es), Utf8.decodeLossy (writtenIn .stderr es), ended.status.code?⟩
        else .error (.launch program (.failed ended.status (Utf8.decodeLossy (writtenIn .stderr es))))

/-- The process waits for its input: its pipe is empty and still written to. -/
def State.AwaitsInput (s : State) : Prop := s.inlet.isHeld = true ∧ s.inlet.content = [] ∧ s.inlet.feeding = none

/-- The process waits for room at an output: its pipe is full. -/
def State.AwaitsRoom (c : Capacity) (s : State) (o : Output) : Prop :=
  (s.outlet o).isHeld = true ∧ c.output o ≤ (s.outlet o).content.length

/-- Nobody waits in vain. A process that waits at a pipe is served by the next step of the harness there, and one that
does not wait can go on with what it is about. Until a result is returned the harness has a step to take, or the process
waits for nothing; once the process has exited, all that can be done is done in so many steps, and a result returned. -/
structure Live (c : Capacity) (s : State) : Prop where
  input_served : s.AwaitsInput →
    (∃ e s', e.isOurs = true ∧ Step c (.atInlet e) s s') ∧
      ∀ e s', e.isOurs = true → Step c (.atInlet e) s s' → ¬ s'.AwaitsInput
  room_served (o : Output) : s.AwaitsRoom c o →
    (∃ chunk s', Step c (.atOutlet o (.drained chunk)) s s') ∧
      ∀ chunk s', Step c (.atOutlet o (.drained chunk)) s s' → ¬ s'.AwaitsRoom c o
  reads : s.inlet.isHeld = true → ¬ s.AwaitsInput →
    (∃ chunk s', chunk ≠ [] ∧ Step c (.atInlet (.read chunk)) s s') ∨ ∃ s', Step c (.atInlet .sawEnd) s s'
  writes (o : Output) (octets : Octets) : (s.outlet o).isHeld = true → ¬ s.AwaitsRoom c o → octets ≠ [] →
    ∃ chunk s', chunk ≠ [] ∧ chunk <+: octets ∧ Step c (.atOutlet o (.wrote chunk)) s s'
  unstuck : s.returned = none →
    (∃ e s', e.isOurs = true ∧ Step c e s s') ∨
      s.status = none ∧ ¬ s.AwaitsInput ∧ ∀ o, ¬ s.AwaitsRoom c o
  returns : s.status ≠ none → ∀ es s', Steps c s es s' →
    es.length ≤ s.left ∧ (s'.returned = none → ∃ e s'', Step c e s' s'')

/-! ## Going on -/

section
variable {c : Capacity} {s : State}

theorem exists_step_of_awaitsInput (h : s.AwaitsInput) : ∃ e s', e.isOurs = true ∧ Step c (.atInlet e) s s' := by
  obtain ⟨-, hempty, hunended⟩ := h
  obtain ⟨e, p, he, step⟩ := Inlet.exists_step c.input_pos hunended fun _ => hempty
  exact ⟨e, _, he, .atInlet step⟩

theorem exists_step_of_awaitsRoom {o : Output} (hs : s.Valid c) (h : s.AwaitsRoom c o) :
    ∃ chunk s', Step c (.atOutlet o (.drained chunk)) s s' := by
  have hn : (s.outlet o).content ≠ [] := List.length_pos_iff.mp (Nat.lt_of_lt_of_le (c.output_pos o) h.2)
  obtain ⟨p, step⟩ := Outlet.exists_drained (hs.outlet o) hn
  exact ⟨_, _, .atOutlet o step⟩

theorem not_awaitsInput_of_step {e : InletEvent} {s' : State} (he : e.isOurs = true) (h : Step c (.atInlet e) s s') :
    ¬ s'.AwaitsInput := by
  rintro ⟨-, hempty, hunended⟩
  cases h with
  | atInlet step =>
    rcases step.ne_nil_or_ended he with hn | hn
    · exact hn hempty
    · exact hn hunended

theorem not_awaitsRoom_of_step {o : Output} {chunk : Octets} {s' : State} (hs : s.Valid c)
    (h : Step c (.atOutlet o (.drained chunk)) s s') : ¬ s'.AwaitsRoom c o := by
  rintro ⟨-, hfull⟩
  cases h with
  | atOutlet o step =>
    have hlt := step.length_lt
    have hle := (hs.outlet o).content_le
    simp only [Function.update_self] at hfull
    omega

theorem exists_read (hh : s.inlet.isHeld = true) (h : ¬ s.AwaitsInput) :
    (∃ chunk s', chunk ≠ [] ∧ Step c (.atInlet (.read chunk)) s s') ∨ ∃ s', Step c (.atInlet .sawEnd) s s' := by
  by_cases hn : s.inlet.content = []
  · have hended : s.inlet.feeding ≠ none := fun hf => h ⟨hh, hn, hf⟩
    exact .inr ⟨_, .atInlet (.sawEnd hh hn hended)⟩
  · exact .inl ⟨_, _, hn, .atInlet (.read hh hn (List.append_nil _).symm)⟩

theorem exists_wrote {o : Output} {octets : Octets} (hh : (s.outlet o).isHeld = true) (h : ¬ s.AwaitsRoom c o)
    (hn : octets ≠ []) : ∃ chunk s', chunk ≠ [] ∧ chunk <+: octets ∧ Step c (.atOutlet o (.wrote chunk)) s s' := by
  obtain ⟨octet, rest, rfl⟩ := List.exists_cons_of_ne_nil hn
  have hroom : (s.outlet o).content.length < c.output o := by
    by_contra hfull
    exact h ⟨hh, Nat.le_of_not_lt hfull⟩
  exact ⟨[octet], _, by simp, ⟨rest, rfl⟩, .atOutlet o (.wrote hh (by simp) hroom)⟩

/-- When the process has exited, the harness can end writing, see the ends of both outputs, and return. -/
theorem exists_step_of_exited (hs : s.Valid c) (hx : s.status ≠ none) (hr : s.returned = none) :
    ∃ e s', e.isOurs = true ∧ Step c e s s' := by
  obtain ⟨hin, hout⟩ := hs.unheld hx
  obtain ⟨status, hstatus⟩ := Option.ne_none_iff_exists'.mp hx
  cases hf : s.inlet.feeding with
  | none =>
    obtain ⟨e, p, he, step⟩ := Inlet.exists_step c.input_pos hf fun hh => absurd hh (by simp [hin])
    exact ⟨.atInlet e, _, he, .atInlet step⟩
  | some feeding =>
    by_cases hd : ∀ o, (s.outlet o).isDrained = true
    · exact ⟨_, _, rfl, .returned hr hstatus hf hd⟩
    · obtain ⟨o, ho⟩ := not_forall.mp hd
      obtain ⟨e, p, he, step⟩ := Outlet.exists_step (hs.outlet o) (hout o) (Bool.not_eq_true _ ▸ ho)
      exact ⟨.atOutlet o e, _, he, .atOutlet o step⟩

theorem exists_step_or_waits (hs : s.Valid c) (hr : s.returned = none) :
    (∃ e s', e.isOurs = true ∧ Step c e s s') ∨
      s.status = none ∧ ¬ s.AwaitsInput ∧ ∀ o, ¬ s.AwaitsRoom c o := by
  by_cases hx : s.status = none
  · by_cases hi : s.AwaitsInput
    · obtain ⟨e, s', he, step⟩ := exists_step_of_awaitsInput (c := c) hi
      exact .inl ⟨.atInlet e, s', he, step⟩
    · by_cases ho : ∃ o, s.AwaitsRoom c o
      · obtain ⟨o, ho⟩ := ho
        obtain ⟨chunk, s', step⟩ := exists_step_of_awaitsRoom hs ho
        exact .inl ⟨_, s', rfl, step⟩
      · exact .inr ⟨hx, hi, not_exists.mp ho⟩
  · exact .inl (exists_step_of_exited hs hx hr)

end

/-! ## Runs -/

section
variable {c : Capacity} {es : List Event} {s s' : State}

theorem Steps.valid (h : Steps c s es s') (hs : s.Valid c) : s'.Valid c := by
  induction h with
  | refl => exact hs
  | tail _ step ih => exact step.valid ih

/-- A step in the middle of others. -/
theorem Steps.exists_step_at {before after : List Event} {e : Event} (h : Steps c s es s')
    (hes : es = before ++ e :: after) : ∃ s₁ s₂, Steps c s before s₁ ∧ Step c e s₁ s₂ := by
  induction h generalizing after with
  | refl => simp at hes
  | @tail es e' s₁ s₂ steps step ih =>
    -- It is the last step, or one of those before.
    rcases List.eq_nil_or_concat after with rfl | ⟨after, e'', rfl⟩
    · obtain ⟨rfl, he⟩ := List.append_inj' hes rfl
      cases he
      exact ⟨s₁, s₂, steps, step⟩
    · rw [List.concat_eq_append, ← List.cons_append, ← List.append_assoc] at hes
      exact ih (List.append_inj' hes rfl).1

theorem Steps.length_add_left_le (h : Steps c s es s') (hs : s.Valid c) (hx : s.status ≠ none) :
    s'.status ≠ none ∧ es.length + s'.left ≤ s.left := by
  induction h with
  | refl => exact ⟨hx, by simp⟩
  | tail steps step ih =>
    -- The process has exited, so the step is one of the harness.
    have hlt := step.left_lt (step.isOurs_of_exited (steps.valid hs) ih.1)
    refine ⟨step.status_ne_none ih.1, ?_⟩
    rw [List.length_append, List.length_singleton]
    omega

variable {input : Octets}

theorem Run.readIn_append (h : Run c input es s) : readIn es ++ (s.inlet.content ++ s.inlet.pending) = input := by
  induction h with
  | refl => rfl
  | tail _ step ih =>
    rw [← ih, ← step.conserves_input]
    simp [readIn]

theorem Run.captured_append (h : Run c input es s) (o : Output) :
    (s.outlet o).captured ++ (s.outlet o).content = writtenIn o es := by
  induction h with
  | refl => rfl
  | tail _ step ih =>
    rw [step.conserves_output, ih]
    simp [writtenIn]

theorem Run.exited_mem {status : Status} (h : Run c input es s) (hx : s.status = some status) : .exited status ∈ es := by
  induction h with
  | refl => cases hx
  | tail _ step ih =>
    cases step with
    | exited => simp [Option.some.inj hx]
    | atInlet | atOutlet | returned => exact List.mem_append_left _ (ih hx)

theorem Run.lossless (h : Run c input es s) : Lossless input es s := by
  have hs := h.valid (State.start_valid c input)
  refine ⟨⟨_, h.readIn_append⟩, fun hes => ?_, h.captured_append, fun ended hr => ?_⟩
  · obtain ⟨s₁, s₂, steps, step⟩ := h.exists_step_at hes
    have hall := Run.readIn_append steps
    cases step with
    | atInlet step =>
      rwa [step.eq_nil_of_sawEnd (steps.valid (State.start_valid c input)).inlet, List.append_nil] at hall
  · obtain ⟨hstatus, hfeeding, houtputs⟩ := hs.returned ended hr
    -- The pipe of an output is empty when its end is seen.
    have hwritten (o : Output) : o.of ended = writtenIn o es := by
      rw [← h.captured_append, (houtputs o).2, ((hs.outlet o).drained (houtputs o).1).2, List.append_nil]
    refine ⟨h.exited_mem hstatus, hwritten, fun program => ?_⟩
    obtain ⟨feeding, status, stdout, stderr⟩ := ended
    obtain rfl : stdout = _ := hwritten .stdout
    obtain rfl : stderr = _ := hwritten .stderr
    rcases hs.inlet.feeding_eq hfeeding with rfl | rfl <;> rfl

theorem State.Valid.live (hs : s.Valid c) : Live c s where
  input_served h := ⟨exists_step_of_awaitsInput h, fun _ _ he => not_awaitsInput_of_step he⟩
  room_served _ h := ⟨exists_step_of_awaitsRoom hs h, fun _ _ => not_awaitsRoom_of_step hs⟩
  reads := exists_read
  writes _ _ := exists_wrote
  unstuck := exists_step_or_waits hs
  returns hx es s' steps := by
    obtain ⟨hx', hle⟩ := steps.length_add_left_le hs hx
    refine ⟨by omega, fun hr => ?_⟩
    obtain ⟨e, s'', -, step⟩ := exists_step_of_exited (steps.valid hs) hx' hr
    exact ⟨e, s'', step⟩

end

/-! ## All that can be returned -/

section
variable {c : Capacity} {s : State}

theorem Steps.trans {es es' : List Event} {s' s'' : State} (h : Steps c s es s') (h' : Steps c s' es' s'') :
    Steps c s (es ++ es') s'' := by
  induction h' with
  | refl => rwa [List.append_nil]
  | tail _ step ih =>
    rw [← List.append_assoc]
    exact ih.tail step

/-- The process reads what is still to be written, one octet after another. -/
theorem exists_steps_reading (c : Capacity) (s : State) (pending : Octets) :
    ∃ es, Steps c { s with inlet := ⟨pending, [], none, true⟩ } es { s with inlet := ⟨[], [], none, true⟩ } := by
  induction pending with
  | nil => exact ⟨[], .refl⟩
  | cons octet rest ih =>
    obtain ⟨es, steps⟩ := ih
    have fed : Step c (.atInlet (.fed [octet])) { s with inlet := ⟨octet :: rest, [], none, true⟩ }
        { s with inlet := ⟨rest, [octet], none, true⟩ } := .atInlet (.fed rfl rfl (by simp) rfl c.input_pos)
    have read : Step c (.atInlet (.read [octet])) { s with inlet := ⟨rest, [octet], none, true⟩ }
        { s with inlet := ⟨rest, [], none, true⟩ } := .atInlet (.read rfl (by simp) rfl)
    exact ⟨_, (Steps.refl.tail fed).tail read |>.trans steps⟩

theorem step_atOutlet {o : Output} {e : OutletEvent} {p p' : Outlet} (h : Outlet.Step (c.output o) e p p') :
    Step c (.atOutlet o e) { s with outlet := Function.update s.outlet o p }
      { s with outlet := Function.update s.outlet o p' } := by
  have hp : Outlet.Step (c.output o) e (Function.update s.outlet o p o) p' := by rwa [Function.update_self]
  have step := Step.atOutlet (s := { s with outlet := Function.update s.outlet o p }) o hp
  rwa [Function.update_idem] at step

/-- The process writes to an output, one octet after another, and each is taken before the next. -/
theorem exists_steps_writing (c : Capacity) (s : State) (o : Output) (captured octets : Octets) :
    ∃ es, Steps c { s with outlet := Function.update s.outlet o ⟨true, [], captured, false⟩ } es
      { s with outlet := Function.update s.outlet o ⟨true, [], captured ++ octets, false⟩ } := by
  induction octets generalizing captured with
  | nil =>
    rw [List.append_nil]
    exact ⟨[], .refl⟩
  | cons octet rest ih =>
    obtain ⟨es, steps⟩ := ih (captured ++ [octet])
    rw [List.append_assoc, List.singleton_append] at steps
    have wrote : Outlet.Step (c.output o) (.wrote [octet]) ⟨true, [], captured, false⟩ ⟨true, [octet], captured, false⟩ :=
      .wrote rfl (by simp) (c.output_pos o)
    have drained : Outlet.Step (c.output o) (.drained [octet]) ⟨true, [octet], captured, false⟩
        ⟨true, [], captured ++ [octet], false⟩ := .drained rfl (by simp) rfl
    exact ⟨_, (Steps.refl.tail (step_atOutlet wrote)).tail (step_atOutlet drained) |>.trans steps⟩

/-- A process that is about to exit. All that it has written is taken already. -/
def State.spent (inlet : Inlet) (outputs : Output → Octets) : State where
  inlet
  outlet o := ⟨true, [], outputs o, false⟩
  status := none
  returned := none

theorem State.spent_update (inlet : Inlet) (outputs : Output → Octets) (o : Output) (octets : Octets) :
    State.spent inlet (Function.update outputs o octets) = { State.spent inlet outputs with
      outlet := Function.update (State.spent inlet outputs).outlet o ⟨true, [], octets, false⟩ } := by
  simp only [spent, mk.injEq, true_and, and_true]
  funext o'
  by_cases ho : o' = o
  · subst ho
    simp
  · simp [Function.update_of_ne ho]

theorem exists_steps_spent (c : Capacity) (inlet : Inlet) (outputs : Output → Octets) (o : Output) (octets : Octets)
    (ho : outputs o = []) :
    ∃ es, Steps c (.spent inlet outputs) es (.spent inlet (Function.update outputs o octets)) := by
  obtain ⟨es, steps⟩ := exists_steps_writing c (.spent inlet outputs) o [] octets
  rw [List.nil_append, ← State.spent_update, ← State.spent_update, ← ho, Function.update_eq_self] at steps
  exact ⟨es, steps⟩

theorem exists_run_spent (c : Capacity) (input : Octets) (outputs : Output → Octets) :
    ∃ es, Run c input es (.spent ⟨input, [], none, true⟩ outputs) := by
  obtain ⟨es, hout⟩ :=
    exists_steps_spent c ⟨input, [], none, true⟩ (fun _ => []) .stdout (outputs .stdout) rfl
  obtain ⟨es', herr⟩ :=
    exists_steps_spent c ⟨input, [], none, true⟩ (Function.update (fun _ => []) .stdout (outputs .stdout)) .stderr
      (outputs .stderr) rfl
  have houtputs : Function.update (Function.update (fun _ => []) .stdout (outputs .stdout)) .stderr (outputs .stderr) =
      outputs := by
    funext o
    cases o <;> rfl
  rw [houtputs] at herr
  exact ⟨es ++ es', hout.trans herr⟩

/-- A process that has exited. Nothing is left in the pipes of its outputs, and the ends of some have been seen. -/
def State.over (inlet : Inlet) (outputs : Output → Octets) (status : Status) (isDrained : Output → Bool) : State where
  inlet
  outlet o := ⟨false, [], outputs o, isDrained o⟩
  status := some status
  returned := none

theorem step_drainEnded {inlet : Inlet} {outputs : Output → Octets} {status : Status} {isDrained : Output → Bool}
    {o : Output} (h : isDrained o = false) :
    Step c (.atOutlet o .drainEnded) (.over inlet outputs status isDrained)
      (.over inlet outputs status (Function.update isDrained o true)) := by
  have hover : State.over inlet outputs status (Function.update isDrained o true) =
      { State.over inlet outputs status isDrained with
        outlet := Function.update (State.over inlet outputs status isDrained).outlet o ⟨false, [], outputs o, true⟩ } := by
    simp only [State.over, State.mk.injEq, true_and, and_true]
    funext o'
    by_cases ho : o' = o
    · subst ho
      simp
    · simp [Function.update_of_ne ho]
  rw [hover]
  exact .atOutlet o (.drainEnded h rfl rfl)

/-- The process exits, writing its input ends, the ends of both outputs are seen, and a result is returned. -/
theorem exists_steps_returned {p p' : Inlet} (ended : Ended)
    (h : Inlet.Step c.input (.feedingEnded ended.feeding) { p with isHeld := false } p') :
    ∃ es s', Steps c (.spent p fun o => o.of ended) es s' ∧ s'.returned = some ended := by
  have hexited : Step c (.exited ended.status) (.spent p fun o => o.of ended)
      (.over { p with isHeld := false } (fun o => o.of ended) ended.status fun _ => false) := .exited ended.status rfl
  have hfed : Step c (.atInlet (.feedingEnded ended.feeding))
      (.over { p with isHeld := false } (fun o => o.of ended) ended.status fun _ => false)
      (.over p' (fun o => o.of ended) ended.status fun _ => false) := .atInlet h
  have steps := (((Steps.refl.tail hexited).tail hfed).tail (step_drainEnded (o := .stdout) rfl)).tail
    (step_drainEnded (o := .stderr) rfl)
  exact ⟨_, _, steps.tail (.returned rfl rfl h.feeding_ended fun o => by cases o <;> rfl), rfl⟩

theorem exists_run_returned {input : Octets} {ended : Ended}
    (h : ended.feeding = .complete ∨ ended.feeding = .brokenPipe ∧ input ≠ []) :
    ∃ es s, Run c input es s ∧ s.returned = some ended := by
  obtain ⟨es, hwritten⟩ := exists_run_spent c input fun o => o.of ended
  rcases h with hf | ⟨hf, hn⟩
  · obtain ⟨es', hread⟩ := exists_steps_reading c (.spent ⟨input, [], none, true⟩ fun o => o.of ended) input
    have hend : Inlet.Step c.input (.feedingEnded .complete) ⟨[], [], none, false⟩ _ := .completed rfl rfl
    obtain ⟨es'', s, hended, hr⟩ := exists_steps_returned (p := ⟨[], [], none, true⟩) ended (hf ▸ hend)
    exact ⟨_, s, (hwritten.trans hread).trans hended, hr⟩
  · have hend : Inlet.Step c.input (.feedingEnded .brokenPipe) ⟨input, [], none, false⟩ _ := .broken rfl hn rfl
    obtain ⟨es', s, hended, hr⟩ := exists_steps_returned (p := ⟨input, [], none, true⟩) ended (hf ▸ hend)
    exact ⟨_, s, hwritten.trans hended, hr⟩

/-- What can be returned for a process: anything that it may have written and any status, after all of its input is
written, or after a broken pipe if there is any input. -/
theorem exists_run_returned_iff (c : Capacity) (input : Octets) (ended : Ended) :
    (∃ es s, Run c input es s ∧ s.returned = some ended) ↔
      ended.feeding = .complete ∨ ended.feeding = .brokenPipe ∧ input ≠ [] := by
  constructor
  · rintro ⟨es, s, run, hr⟩
    have hs := run.valid (State.start_valid c input)
    obtain ⟨-, hfeeding, -⟩ := hs.returned ended hr
    rcases hs.inlet.feeding_eq hfeeding with hf | hf
    · exact .inl hf
    · refine .inr ⟨hf, ?_⟩
      rintro rfl
      have hall := Run.readIn_append run
      simp only [List.append_eq_nil_iff] at hall
      exact (hs.inlet.broken (hf ▸ hfeeding)).2 hall.2.2
  · exact exists_run_returned

/-- **Pipes lose nothing and cannot deadlock.** For pipes that hold any number of octets but none, and whatever the
process reads, writes, closes and exits with, in every interleaving. -/
theorem Run.lossless_live {input : Octets} {es : List Event} (h : Run c input es s) : Lossless input es s ∧ Live c s :=
  ⟨h.lossless, (h.valid (State.start_valid c input)).live⟩

/-- Pipes that hold a single octet each. -/
def narrow : Capacity := ⟨1, fun _ => 1, Nat.one_pos, fun _ => Nat.one_pos⟩

/-- A process waits to write and the harness waits to write its input, and the process goes on; and one that has left
most of its input unread is returned with all that it has written. -/
theorem Run.lossless_live_narrow :
    (∃ s, Run narrow [104, 105] [.atOutlet .stdout (.wrote [33]), .atInlet (.fed [104])] s ∧
      s.AwaitsRoom narrow .stdout ∧ s.inlet.content.length = narrow.input ∧ s.inlet.pending = [105] ∧
      ∃ chunk s', Step narrow (.atOutlet .stdout (.drained chunk)) s s' ∧ ¬ s'.AwaitsRoom narrow .stdout) ∧
    ∃ es s, Run narrow [104, 105] es s ∧ s.returned = some ⟨.brokenPipe, .exited 0, [33, 33], [63]⟩ ∧
      readIn es <+: [104, 105] ∧ writtenIn .stdout es = [33, 33] ∧ writtenIn .stderr es = [63] ∧
      (Outcome.ended ⟨.brokenPipe, .exited 0, [33, 33], [63]⟩).capture "quiet" = .ok ⟨"!!", "?", some 0⟩ := by
  constructor
  · have wrote : Step narrow (.atOutlet .stdout (.wrote [33])) (State.start [104, 105]) _ :=
      .atOutlet .stdout (.wrote rfl (by simp) (by decide))
    have run := (Steps.refl.tail wrote).tail (.atInlet (.fed rfl rfl (List.cons_ne_nil 104 []) rfl (by decide)))
    obtain ⟨-, hlive⟩ := Run.lossless_live run
    obtain ⟨⟨chunk, s', step⟩, hserved⟩ := hlive.room_served .stdout ⟨rfl, Nat.le_refl 1⟩
    exact ⟨_, run, ⟨rfl, Nat.le_refl 1⟩, rfl, rfl, chunk, s', step, hserved chunk s' step⟩
  · obtain ⟨es, s, run, hr⟩ :=
      (exists_run_returned_iff narrow [104, 105] ⟨.brokenPipe, .exited 0, [33, 33], [63]⟩).mpr (.inr ⟨rfl, by simp⟩)
    obtain ⟨hlossless, -⟩ := Run.lossless_live run
    obtain ⟨-, hwritten, hcapture⟩ := hlossless.returned _ hr
    have hout : [33, 33] = writtenIn .stdout es := hwritten .stdout
    have herr : [63] = writtenIn .stderr es := hwritten .stderr
    refine ⟨es, s, run, hr, hlossless.readIn_prefix, hout.symm, herr.symm, ?_⟩
    rw [hcapture, ← hout, ← herr]
    rfl

end

end BlockHarness.Piping
