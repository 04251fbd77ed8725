import Mathlib.Logic.Function.Basic
import BlockHarness.Process.Outcome

/-! A process and the harness at the two ends of three pipes, step by step. The harness writes the input while it drains
both outputs; the process reads, writes and closes its ends in any order and in pieces of any size, until it exits. Any
party may take the next step, so a run is one interleaving of all of them. -/
namespace BlockHarness.Piping
set_option autoImplicit false

/-! ## The pipe of the input -/

/-- The pipe of the input, with all that is still to be written to it, and how writing has ended if it has. -/
structure Inlet where
  pending : Octets
  content : Octets
  feeding : Option Feeding
  isHeld : Bool

/-- What may happen at the pipe of the input: the harness writes to it and ends writing, and the process reads from it,
sees its end and closes it. -/
inductive InletEvent where
  | fed (chunk : Octets)
  | feedingEnded (feeding : Feeding)
  | read (chunk : Octets)
  | sawEnd
  | closed

namespace InletEvent

/-- Whether the harness makes it happen. -/
def isOurs : InletEvent → Bool
  | .fed _ | .feedingEnded _ => true
  | _ => false

def octetsRead : InletEvent → Octets
  | .read chunk => chunk
  | _ => []

end InletEvent

/-- The pipe of the input from one moment to the next. Writing ends when all is written, and before that if the process
has closed the pipe; the process sees the end of a pipe that is empty and no longer written to. -/
inductive Inlet.Step (capacity : Nat) : InletEvent → Inlet → Inlet → Prop
  | fed {p : Inlet} {chunk rest : Octets} (unended : p.feeding = none) (held : p.isHeld = true) (nonempty : chunk ≠ [])
      (next : p.pending = chunk ++ rest) (fits : p.content.length + chunk.length ≤ capacity) :
      Step capacity (.fed chunk) p { p with pending := rest, content := p.content ++ chunk }
  | completed {p : Inlet} (unended : p.feeding = none) (written : p.pending = []) :
      Step capacity (.feedingEnded .complete) p { p with feeding := some .complete }
  | broken {p : Inlet} (unended : p.feeding = none) (unwritten : p.pending ≠ []) (unheld : p.isHeld = false) :
      Step capacity (.feedingEnded .brokenPipe) p { p with feeding := some .brokenPipe }
  | read {p : Inlet} {chunk rest : Octets} (held : p.isHeld = true) (nonempty : chunk ≠ [])
      (next : p.content = chunk ++ rest) : Step capacity (.read chunk) p { p with content := rest }
  | sawEnd {p : Inlet} (held : p.isHeld = true) (empty : p.content = []) (ended : p.feeding ≠ none) :
      Step capacity .sawEnd p p
  | closed {p : Inlet} (held : p.isHeld = true) : Step capacity .closed p { p with isHeld := false }

/-! ## The pipes of the outputs -/

/-- The pipe of an output, with all that was taken from it, and whether its end has been seen. -/
structure Outlet where
  isHeld : Bool
  content : Octets
  captured : Octets
  isDrained : Bool

/-- What may happen at the pipe of an output: the process writes to it and closes it, and the harness takes from it and
sees its end. -/
inductive OutletEvent where
  | wrote (chunk : Octets)
  | closed
  | drained (chunk : Octets)
  | drainEnded

namespace OutletEvent

def isOurs : OutletEvent → Bool
  | .drained _ | .drainEnded => true
  | _ => false

def octetsWritten : OutletEvent → Octets
  | .wrote chunk => chunk
  | _ => []

end OutletEvent

/-- The pipe of an output from one moment to the next. -/
inductive Outlet.Step (capacity : Nat) : OutletEvent → Outlet → Outlet → Prop
  | wrote {p : Outlet} {chunk : Octets} (held : p.isHeld = true) (nonempty : chunk ≠ [])
      (fits : p.content.length + chunk.length ≤ capacity) :
      Step capacity (.wrote chunk) p { p with content := p.content ++ chunk }
  | closed {p : Outlet} (held : p.isHeld = true) : Step capacity .closed p { p with isHeld := false }
  | drained {p : Outlet} {chunk rest : Octets} (undrained : p.isDrained = false) (nonempty : chunk ≠ [])
      (next : p.content = chunk ++ rest) :
      Step capacity (.drained chunk) p { p with content := rest, captured := p.captured ++ chunk }
  | drainEnded {p : Outlet} (undrained : p.isDrained = false) (unheld : p.isHeld = false) (empty : p.content = []) :
      Step capacity .drainEnded p { p with isDrained := true }

/-! ## The whole of it -/

inductive Output where
  | stdout
  | stderr
  deriving DecidableEq, Repr

/-- An output as it was left behind. -/
def Output.of (ended : Ended) : Output → Octets
  | .stdout => ended.stdout
  | .stderr => ended.stderr

/-- How much the pipes hold at most. -/
structure Capacity where
  input : Nat
  output : Output → Nat
  input_pos : 0 < input
  output_pos (o : Output) : 0 < output o

/-- The three pipes, how the process has ended if it has, and what was returned for it if that is done. -/
structure State where
  inlet : Inlet
  outlet : Output → Outlet
  status : Option Status
  returned : Option Ended

inductive Event where
  | atInlet (e : InletEvent)
  | atOutlet (o : Output) (e : OutletEvent)
  | exited (status : Status)
  | returned (ended : Ended)

namespace Event

def isOurs : Event → Bool
  | .atInlet e => e.isOurs
  | .atOutlet _ e => e.isOurs
  | .exited _ => false
  | .returned _ => true

def octetsRead : Event → Octets
  | .atInlet e => e.octetsRead
  | _ => []

def octetsWritten (o : Output) : Event → Octets
  | .atOutlet o' e => if o' = o then e.octetsWritten else []
  | _ => []

end Event

def readIn (es : List Event) : Octets := es.flatMap Event.octetsRead

/-- All that the process has written to an output. -/
def writtenIn (o : Output) (es : List Event) : Octets := es.flatMap (Event.octetsWritten o)

namespace State

/-- A process that has been started with an input. -/
def start (input : Octets) : State where
  inlet := ⟨input, [], none, true⟩
  outlet _ := ⟨true, [], [], false⟩
  status := none
  returned := none

/-- A process that exits; all its ends are closed with it. -/
def exit (s : State) (status : Status) : State where
  inlet := { s.inlet with isHeld := false }
  outlet o := { s.outlet o with isHeld := false }
  status := some status
  returned := s.returned

/-- What is returned for a process, given how writing its input and how itself has ended. -/
def ended (s : State) (feeding : Feeding) (status : Status) : Ended :=
  ⟨feeding, status, (s.outlet .stdout).captured, (s.outlet .stderr).captured⟩

end State

/-- One step of a party. A result is returned once the process has exited, both outputs are drained and writing has
ended. -/
inductive Step (c : Capacity) : Event → State → State → Prop
  | atInlet {s : State} {e : InletEvent} {p : Inlet} (step : Inlet.Step c.input e s.inlet p) :
      Step c (.atInlet e) s { s with inlet := p }
  | atOutlet {s : State} {e : OutletEvent} {p : Outlet} (o : Output) (step : Outlet.Step (c.output o) e (s.outlet o) p) :
      Step c (.atOutlet o e) s { s with outlet := Function.update s.outlet o p }
  | exited {s : State} (status : Status) (running : s.status = none) : Step c (.exited status) s (s.exit status)
  | returned {s : State} {feeding : Feeding} {status : Status} (unreturned : s.returned = none)
      (exited : s.status = some status) (fed : s.inlet.feeding = some feeding)
      (drained : ∀ o, (s.outlet o).isDrained = true) :
      Step c (.returned (s.ended feeding status)) s { s with returned := some (s.ended feeding status) }

inductive Steps (c : Capacity) (s : State) : List Event → State → Prop
  | refl : Steps c s [] s
  | tail {es : List Event} {e : Event} {s' s'' : State} (steps : Steps c s es s') (step : Step c e s' s'') :
      Steps c s (es ++ [e]) s''

/-- All that may have happened since a process was started with an input. -/
abbrev Run (c : Capacity) (input : Octets) : List Event → State → Prop := Steps c (State.start input)

end BlockHarness.Piping
