import BlockHarness.Shell.Builtin.Flow
import BlockHarness.Shell.Escape

/-! The commands of the shell that deal with signals and with commands in the background. -/
namespace BlockHarness.Shell
set_option autoImplicit false

/-! ## Jobs -/

namespace Job

/-- Whether a job has ended at a time. -/
def isDone (j : Job) (time : Nat) : Bool := j.ends ≤ time

/-- The status of a process as a shell sees it. -/
def statusOf : Status → Nat
  | .exited n => n % 256
  | .signaled n _ => 128 + n

/-- A job in a list. The mark stands for the latest one or the one before it. -/
def line (j : Job) (time : Nat) (mark : Char) (showsProcess : Bool) : Text :=
  let state : Text :=
    if !j.isDone time then "Running"
    else
      match j.status with
      | .exited 0 => "Done"
      | .exited n => "Done(" ++ Text.ofNat n ++ ")"
      | .signaled n _ => if n = 2 then "Interrupt" else if n = 13 then "Broken pipe" else (signalDescription? n).getD []
  let number := Text.ofNat (State.processNumber j.process)
  let head := ("[" : Text) ++ Text.ofNat j.number ++ "] " ++ [mark, ' '] ++
    (if showsProcess then number ++ [' '] else []) ++ state
  head ++ List.replicate (max 1 (33 - head.length)) ' ' ++
    (List.replicate (j.members - 1) (" | " : Text)).flatten ++ ['\n']

end Job

namespace State

/-- The jobs that a shell knows, latest one first. -/
def findJob (s : State) (name : Text) : Except Text Job :=
  let missing : Text := "No such job: " ++ name
  match name with
  | ['%'] | ['%', '+'] | ['%', '%'] =>
    match s.jobs with
    | j :: _ => .ok j
    | [] => .error "No current job"
  | ['%', '-'] =>
    match s.jobs with
    | _ :: j :: _ => .ok j
    | _ => .error "No previous job"
  | '%' :: digits =>
    match (Text.toNat? 10 digits).bind fun n => s.jobs.find? (·.number = n) with
    | some j => .ok j
    | none => .error missing
  | _ => .error missing

def putJob (s : State) (job : Job) : State :=
  { s with jobs := s.jobs.map fun j => if j.number = job.number then job else j }

/-- Lets a shell learn of the jobs that have ended. -/
def noticeJobs (s : State) : State :=
  { s with jobs := s.jobs.map fun j => { j with isNoticed := j.isNoticed || j.isDone s.clock } }

/-- The signal that reaches a process first and means something to it, up to a time. -/
def nextSignal? (s : State) (time : Nat) : Option (Nat × Nat) :=
  let mine := s.machine.signals.filterMap fun (t, process, n) =>
    let isHandled : Bool := !s.ignored.contains n && match s.traps.lookup n with
      | some action => !action.isEmpty
      | none => !harmlessSignals.contains n
    if process = s.process ∧ t ≤ time ∧ isHandled then some (t, n) else none
  mine.foldl (fun (found : Option (Nat × Nat)) signal =>
    match found with
    | some other => if signal.1 < other.1 then some signal else found
    | none => some signal) none

end State

namespace Builtin

/-! ## Traps -/

/-- Sets what is done when signals arrive or the shell ends. -/
def trap (args : List Text) : Run Unit := do
  let args ← Options.none args
  match args with
  | [] =>
    let s ← get
    (List.range signalCount).forM fun n => do
      match s.traps.lookup n with
      | some action =>
        Run.print (("trap -- " : Text) ++ singleQuoted action ++ ' ' :: signalName n ++ ['\n'])
      | none => pure ()
    Run.answer 0
  | first :: rest =>
    let (action, names) : Option Text × List Text :=
      if rest = [] ∨ (signalOfNumber? first).isSome then (none, args)
      else (if first = ['-'] then none else some first, rest)
    Run.answer 0
    names.forM fun name => do
      let s ← get
      if s.status = 0 then
        match signal? 0 name with
        | none => set ((s.complain ("trap: " ++ name ++ ": bad trap")).withStatus 1)
        | some n =>
          let others := s.traps.filter (·.1 ≠ n)
          set { s with traps := action.elim others fun t => (n, t) :: others }

/-! ## Sending signals -/

/-- How the sender of a signal has to be called. -/
def killUsage : Text :=
  "Usage: kill [-s sigspec | -signum | -sigspec] [pid | job]... or\nkill -l [exitstatus]"

def signalSelf (n : Nat) : Run Unit := do
  let s ← get
  if n = 9 then Run.stop (.killed n)
  else if n ≠ 0 && !isForceful n && !s.ignored.contains n then
    match s.traps.lookup n with
    | some action => if action ≠ [] then set (s.deliver s.process n)
    | none => if !harmlessSignals.contains n then Run.stop (.killed n)

/-- Sends a signal to a process that scripts know by a number; the answer tells whether there is one. -/
def signalProcess (n number : Nat) : Run Bool := do
  let s ← get
  let process := number - 4241
  if number = State.processNumber s.process then
    signalSelf n
    return true
  else if 4241 < number ∧ (process = s.root ∨ process = s.parent) then
    if n ≠ 0 then set (s.deliver process n)
    return true
  else
    match s.jobs.find? fun j => State.processNumber j.process = number with
    | some j =>
      if j.isNoticed then return false
      else
        if n ≠ 0 ∧ !harmlessSignals.contains n ∧ !j.isDone s.clock then
          set ((s.silence j.processes).putJob { j with ends := s.clock, status := .signaled n false })
        return true
    | none => return false

/-- Sends signals, or lists them. -/
def kill (args : List Text) : Run Unit := do
  let usage {α : Type} : Run α := Run.fail killUsage
  let (signal?, isList, targets) : Option Nat × Bool × List Text ←
    match args with
    | ('-' :: name) :: rest =>
      match signal? 1 name with
      | some n => pure (some n, false, rest)
      | none => do
        let o := Options.scan "ls:" args
        let named ← (o.given.filter (·.1 == 's')).mapM fun (_, name) => do
          match signal? 1 name with
          | some n => pure n
          | none => Run.fail ("invalid signal number or name: " ++ name)
        o.check
        pure (named.getLast?, o.has 'l', o.args)
    | args => pure (none, false, args)
  if args = [] ∨ (isList ∧ signal?.isSome) ∨ (!isList ∧ targets = []) then usage
  if isList then
    match targets with
    | [] =>
      Run.print "0\n"
      (List.range (signalCount - 1)).forM fun n => Run.print (signalName (n + 1) ++ ['\n'])
      Run.answer 0
    | t :: _ =>
      let n ← countOf t
      let n := if 128 < n then n - 128 else n
      if 0 < n ∧ n < signalCount then Run.print (signalName n ++ ['\n'])
      else Run.fail ("invalid signal number or exit status: " ++ t)
      Run.answer 0
  else
    let n := signal?.getD 15
    Run.answer 0
    targets.forM fun target => do
      let isSent ← match target with
        | '%' :: _ =>
          match (← get).findJob target with
          | .error message => Run.fail message
          | .ok _ => pure false
        | '-' :: number => do
          let _ ← countOf number
          pure false
        | number => do signalProcess n (← countOf number)
      if !isSent then
        Run.warn "No such process\n"
        Run.answer 1

/-! ## Waiting -/

/-- The time that is too short for a waiting shell to notice a signal before the end of what it waits for. -/
def notice : Nat := 300

/-- Lets time pass until jobs have ended. A signal that something is to be done about comes first; the answer tells
whether the jobs have ended. -/
def pass (time : Nat) : Run Bool := do
  let s ← get
  match s.nextSignal? (time - notice) with
  | some (t, n) =>
    set ({ s with clock := max s.clock t }.withStatus (128 + n))
    return false
  | none =>
    set { s with clock := max s.clock time }
    return true

/-- What the shell says of a process of its own that a signal has killed. -/
def tellDeath (status : Status) : Run Unit := do
  match status with
  | .signaled n _ =>
    match signalDescription? n with
    | some t => modify fun s => s.complain t
    | none => pure ()
  | .exited _ => pure ()

/-- Waits for one job. The answer tells whether it has ended. -/
def waitFor (job : Job) : Run Bool := do
  if ← pass job.ends then
    if !job.isNoticed then tellDeath job.status
    modify fun s => (s.putJob { job with isWaited := true }).noticeJobs.withStatus (Job.statusOf job.status)
    return true
  else return false

/-- Waits for jobs one after the other, as long as they end. -/
def waitEach : List Text → Run Unit
  | [] => pure ()
  | target :: rest => do
    let job? ← match target with
      | '%' :: _ =>
        match (← get).findJob target with
        | .error message => Run.fail message
        | .ok job => pure (some job)
      | number => do
        let n ← countOf number
        pure ((← get).jobs.find? fun j => State.processNumber j.process = n)
    match job? with
    | none => waitEach rest
    | some job => if ← waitFor job then waitEach rest

def wait (args : List Text) : Run Unit := do
  let args ← Options.none args
  let s ← get
  if args = [] then
    if ← pass (s.jobs.foldl (fun time j => max time j.ends) s.clock) then
      modify fun s =>
        ({ s with jobs := s.jobs.map fun j => { j with isNoticed := true, isWaited := true } } : State).withStatus 0
  else
    Run.answer 127
    waitEach args

/-! ## Lists -/

/-- Lists jobs; those that have ended are told of once. -/
def jobs (args : List Text) : Run Unit := do
  let o ← Options.read "lp" args
  let s := (← get).noticeJobs
  set s
  let marked := s.jobs.zipIdx.map fun (j, n) => (j, if n = 0 then '+' else if n = 1 then '-' else ' ')
  let wanted ← if o.args = [] then pure marked
    else o.args.mapM fun name =>
      match s.findJob name with
      | .error message => Run.fail message
      | .ok j => pure (j, ((marked.find? fun m => m.1.number = j.number).map (·.2)).getD ' ')
  wanted.forM fun (j, mark) => do
    if o.has 'p' then Run.print (Text.ofNat (State.processNumber j.process) ++ ['\n'])
    else
      Run.print (j.line s.clock mark (o.has 'l'))
      if j.isDone s.clock then modify fun s => { s with jobs := s.jobs.filter (·.number ≠ j.number) }
  Run.answer 0

/-- Continues jobs, which is not possible where none is under control. -/
def continueJobs (args : List Text) : Run Unit := do
  let args ← Options.none args
  match (← get).findJob (args.head?.getD ['%']) with
  | .error message => Run.fail message
  | .ok _ => Run.fail ("job " ++ args.head?.getD "(null)" ++ " not created under job control")

end Builtin
end BlockHarness.Shell
