import BlockHarness.Shell.Builtin.Signals
import BlockHarness.Shell.Image

/-! Processes that a shell starts: copies of itself, which share files and open files with it, and other programs. -/
namespace BlockHarness.Shell
set_option autoImplicit false

namespace State

/-- The time that it takes to start a process. -/
def startTime : Nat := 200

/-- A copy of a process. What it was told to ignore it still ignores, but it has no jobs and no actions of its own. -/
def fork (s : State) : State :=
  let n := s.machine.processes + 1
  { s with
    machine := { s.machine with processes := n }, process := n, parent := s.process, clock := s.clock + startTime,
    traps := s.traps.filter (·.2 = []), jobs := [], printed := [] }

/-- What a process in the background is spared: signals from the keyboard, and the input of its shell. -/
def enterBackground (s : State) (takesNothing : Bool) : State :=
  let s : State := { s with ignored := 2 :: 3 :: s.ignored }
  if takesNothing then
    let (n, s) := s.addStream (.device .null)
    s.connect 0 (some n)
  else s

/-- The process once another program has taken the place of the one that it ran. -/
def become (s : State) (image : Image) : State :=
  { machine := s.machine, directory := s.directory, clock := s.clock + 2 * startTime, process := s.process,
    parent := s.parent, root := s.process, descriptors := s.descriptors
    bindings := s.bindings.filterMap fun (name, v) =>
      if v.isExported && v.value?.isSome then some (name, { v with isReadonly := false }) else none
    name := image.name, workingPath := s.physicalPath, mask := s.mask
    ignored := s.ignored ++ (s.traps.filter (·.2 = [])).map (·.1) }

/-- Whether a shell has anything to do when a signal arrives, or at its end. -/
def hasActions (s : State) : Bool := s.traps.any (·.2 ≠ [])

/-- A shell that forgets the jobs whose end it has been told of. -/
def forgetJobs (s : State) : State := { s with jobs := s.jobs.filter (!·.isWaited) }

/-- The least number that no job has. -/
def freeJobNumber (s : State) : Nat :=
  ((List.range (s.jobs.length + 1)).find? fun n => !s.jobs.any (·.number = n + 1)).getD 0 + 1

end State

namespace Run

/-- Runs a computation in a process of its own, and gives its status and its last state. -/
def inProcess (prepare : State → State) (run : Run Unit) : Run (Status × State) := do
  let s := (← get).forgetJobs
  let (result, t) := run.run.run (prepare s.fork)
  set { s with machine := t.machine }
  match result with
  | .error .starves => throw .starves
  | .error (.killed n) => return (.signaled n false, t)
  | _ => return (.exited (t.status % 256), t)

/-- Waits for processes of the shell's own. A signal that kills the shell does so before they end. -/
def await (ended : List (Status × State)) : Run Unit := do
  let s ← get
  let ends := ended.foldl (fun time e => max time e.2.clock) s.clock
  match s.nextSignal? ends with
  | some (time, n) =>
    if (s.traps.lookup n).isNone then
      set { s with clock := max s.clock time }
      stop (.killed n)
  | none => pure ()
  set (State.noticeJobs { s with clock := ends })
  ended.forM fun e => Builtin.tellDeath e.1
  match ended.getLast? with
  | some e => answer (Job.statusOf e.1)
  | none => pure ()

/-- Enters a job that runs in the background. -/
def enterJob (ended : List (Status × State)) : Run Unit := do
  match ended.head?, ended.getLast? with
  | some first, some last =>
    modify fun s =>
      let job : Job := {
        number := s.freeJobNumber
        process := last.2.process
        processes := (first.2.process, s.machine.processes)
        members := ended.length
        ends := ended.foldl (fun time e => max time e.2.clock) s.clock
        status := last.1 }
      { s with jobs := job :: s.jobs, background := some last.2.process }
  | _, _ => pure ()

/-- Undoes at the end, however that comes, what was changed for a while. -/
def within (restore : State → State → State) (run : Run Unit) : Run Unit := do
  let before ← get
  let ending ← attempt run
  modify (restore before)
  resume ending

end Run
end BlockHarness.Shell
