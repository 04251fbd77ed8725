import BlockHarness.Shell.Command
import BlockHarness.Shell.Number
import BlockHarness.Shell.Signal
import BlockHarness.Shell.Stream
import BlockHarness.Shell.Switch

/-! What a process sees: what it shares with all others, its descriptors and variables, and what belongs to a shell
alone. Every process is a state, also one that runs another program than the shell. -/
namespace BlockHarness.Shell
set_option autoImplicit false

/-! ## State -/

/-- What all processes share: the files and when they were changed, the open files, signals that wait for their
process, and how many processes there have been. -/
structure Machine where
  files : Files
  changes : List (Location × Nat) := []
  streams : Array Stream := #[]
  signals : List (Nat × Nat × Nat) := []
  processes : Nat := 1

/-- A variable. One without a value can be marked all the same. -/
structure Variable where
  value? : Option Text := none
  isExported : Bool := false
  isReadonly : Bool := false
  deriving DecidableEq, Repr

/-- A command that runs in the background: its number, the process that stands for it, all processes that belong to
it, how many of them it has started side by side, when it ends and how, whether the shell has learnt of that, and
whether it has been waited for. -/
structure Job where
  number : Nat
  process : Nat
  processes : Nat × Nat
  members : Nat
  ends : Nat
  status : Status
  isNoticed : Bool := false
  isWaited : Bool := false

/-- What `getopts` remembers: the number of the next argument, and how many characters of the last one are done. -/
structure OptionPlace where
  next : Nat := 1
  offset : Option Nat := none

/-- What a function keeps of its caller: the values of variables that it has taken over, or all switches. -/
inductive Saved where
  | variable (name : Text) (before : Option Variable)
  | switches (before : Switches)

/-- A process. `line` is named in messages, and `readLine` is the one that reading has come to. `calls` counts
functions that are being run, and `outputStatus` is the status of the last command whose output was taken,
`keptStatus` is the one that ends the shell once what it has set for its end is done, and `printed` is what a command
of the shell is about to print. -/
structure State where
  machine : Machine
  directory : Location := []
  clock : Nat := 0
  process : Nat := 1
  parent : Nat := 0
  root : Nat := 1
  descriptors : List (Nat × Nat) := []
  bindings : List (Text × Variable) := []
  status : Nat := 0
  name : Text := []
  command : Option Text := none
  line : Nat := 0
  readLine : Nat := 0
  calls : Nat := 0
  parameters : List Text := []
  place : OptionPlace := {}
  switches : Switches := []
  functions : List (Text × Command) := []
  aliases : List (Text × Text) := []
  tracked : List (Text × Text) := []
  traps : List (Nat × Text) := []
  ignored : List Nat := []
  saved : List (List Saved) := []
  documents : List (Nat × Word) := []
  jobs : List Job := []
  background : Option Nat := none
  loops : Nat := 0
  outputStatus : Nat := 0
  keptStatus : Option Nat := none
  workingPath : Text := []
  mask : Nat := 18
  printed : List Text := []
  isTracing : Bool := false

/-- How a command ends: the script goes on, or leaves loops, a function or itself with the status of its state; an
error has been told, a signal kills it, or it waits for input that has not been produced. Leaving a function may be
bound to a status that was asked for. -/
inductive Ending where
  | proceeds
  | breaks (loops : Nat)
  | continues (loops : Nat)
  | returns (isBound : Bool)
  | fails
  | exits
  | killed (signal : Nat)
  | starves
  deriving DecidableEq, Repr

/-- Whether the commands that follow are skipped up to the end of a loop or a function. -/
def Ending.isSkip : Ending → Bool
  | .breaks _ | .continues _ | .returns _ => true
  | _ => false

/-- A computation of a process, which may end early. -/
abbrev Run (α : Type) := ExceptT Ending (StateM State) α

namespace State

/-! ## Files and descriptors -/

def files (s : State) : Files := { s.machine.files with current := s.directory }

def withFile (s : State) (l : Location) (files : Files) : State :=
  let changes := (l, s.clock) :: s.machine.changes.filter (·.1 ≠ l)
  { s with machine := { s.machine with files, changes } }

/-- The time between two changes that shows which of them came first. -/
def changeTime : Nat := 4000

/-- Whether the entry at one location was changed after the one at another. -/
def isNewer (s : State) (a b : Location) : Bool :=
  let time (l : Location) : Nat := (s.machine.changes.lookup l).getD 0
  time b + changeTime ≤ time a

def stream? (s : State) (descriptor : Nat) : Option (Nat × Stream) :=
  (s.descriptors.lookup descriptor).bind fun n => s.machine.streams[n]?.map fun stream => (n, stream)

def setStream (s : State) (n : Nat) (stream : Stream) : State :=
  { s with machine := { s.machine with streams := s.machine.streams.setIfInBounds n stream } }

def addStream (s : State) (stream : Stream) : Nat × State :=
  (s.machine.streams.size, { s with machine := { s.machine with streams := s.machine.streams.push stream } })

/-- Lets a descriptor lead to an open file, or to none. -/
def connect (s : State) (descriptor : Nat) (target : Option Nat) : State :=
  let others := s.descriptors.filter (·.1 ≠ descriptor)
  { s with descriptors := target.elim others fun n => (descriptor, n) :: others }

/-- Reads from a descriptor. Time passes until what is read has been written. -/
def receive (s : State) (descriptor : Nat) (extent : Extent) : Received × State :=
  match s.stream? descriptor with
  | none => (.refused .badDescriptor, s)
  | some (n, .arriving pieces supply closes) =>
    let (t, isEnough, time, rest) := match extent with
      | .block n => Extent.takeBlock n s.clock pieces
      | extent => extent.take s.clock pieces
    if isEnough then (.text t, { s.setStream n (.arriving rest supply closes) with clock := time })
    else if supply = .whole then (.text t, { s.setStream n (.arriving [] supply closes) with clock := max time closes })
    else (.starved, s.setStream n (.arriving [] .missed closes))
  | some (n, .file l place access) =>
    if access.reads then
      match s.machine.files.at? l with
      | some (.file content _) =>
        let (t, _, _, _) := extent.split (ofOctets (content.drop place))
        (.text t, s.setStream n (.file l (place + t.length) access))
      | some (.utility _) =>
        let (t, _, _, _) := extent.split (ofOctets (programImage.drop place))
        (.text t, s.setStream n (.file l (place + t.length) access))
      | _ => (.text [], s)
    else (.refused .badDescriptor, s)
  | some (_, .device .null) => (.text [], s)
  | some (_, .device _) =>
    match extent with
    | .upTo n | .block n => (.text (List.replicate n '\x00'), s)
    | _ => (.starved, s)
  | some (_, .folder _) => (.refused .isDirectory, s)
  | some (_, .leaving _ _ _) => (.refused .badDescriptor, s)

/-- The content of a file with new text at a place; a gap in front of it is filled with zeros. -/
def overwrite (content : Octets) (place : Nat) (octets : Octets) : Octets :=
  content.take place ++ List.replicate (place - content.length) 0 ++ octets ++ content.drop (place + octets.length)

def send (s : State) (descriptor : Nat) (t : Text) : Written × State :=
  match s.stream? descriptor with
  | none => (.refused .badDescriptor, s)
  | some (n, .leaving pieces length room) =>
    if t = [] then (.done, s)
    else
      let free := room.elim t.length (· - length)
      let piece (t : Text) : Piece := ⟨s.clock, s.process, t⟩
      if t.length ≤ free then (.done, s.setStream n (.leaving (piece t :: pieces) (length + t.length) room))
      else (.unread, s.setStream n (.leaving (piece (t.take free) :: pieces) (length + free) room))
  | some (n, .file l place access) =>
    if !access.writes then (.refused .badDescriptor, s)
    else
      match s.machine.files.at? l with
      | some (.file content isExecutable) =>
        if t = [] then (.done, s)
        else
          let octets := toOctets t
          let place := if access.appends then content.length else place
          let content := if place = content.length then content ++ octets else overwrite content place octets
          let s := s.withFile l (s.machine.files.put l (.file content isExecutable))
          (.done, s.setStream n (.file l (place + octets.length) access))
      | _ => (.done, s)
  | some (_, .device .full) => (if t = [] then .done else .refused .noSpace, s)
  | some (_, .device _) => (.done, s)
  | some (_, .folder _) => (.refused .badDescriptor, s)
  | some (_, .arriving _ _ _) => (.refused .badDescriptor, s)

/-- What has been written to an open file that is the end of a pipe, in order. -/
def pieces (s : State) (n : Nat) : List Piece :=
  match s.machine.streams[n]? with
  | some (.leaving pieces _ _) => Piece.inOrder pieces.reverse
  | _ => []

/-! ## Processes -/

/-- The number under which a process is known to scripts. -/
def processNumber (process : Nat) : Nat := 4241 + process

def deliver (s : State) (process signal : Nat) : State :=
  { s with machine := { s.machine with signals := s.machine.signals ++ [(s.clock, process, signal)] } }

/-- Takes back what some processes would write later. -/
def silence (s : State) (processes : Nat × Nat) : State :=
  let isSilenced (p : Piece) : Bool := s.clock < p.time && processes.1 ≤ p.owner && p.owner ≤ processes.2
  let streams := s.machine.streams.map fun stream =>
    match stream with
    | .leaving pieces length room => .leaving (pieces.filter fun p => !isSilenced p) length room
    | stream => stream
  { s with machine := { s.machine with streams } }

/-! ## Status and messages -/

def withStatus (s : State) (status : Nat) : State := { s with status }

/-- Writes a line to the error output. -/
def complain (s : State) (message : Text) : State := (s.send 2 (message ++ ['\n'])).2

/-- A message of the shell with the name and the line of the script in front, and the command that has it. -/
def located (s : State) (message : Text) : Text :=
  s.name ++ ": " ++ Text.ofNat s.line ++ ": " ++ s.command.elim [] (· ++ (": " : Text)) ++ message

/-- Writes a message of the shell to the error output. -/
def warn (s : State) (message : Text) : State := s.complain (s.located message)

/-- Adds to what a command of the shell prints at its end. -/
def print (s : State) (t : Text) : State := { s with printed := t :: s.printed }

/-! ## Variables -/

def binding? (s : State) (name : Text) : Option Variable := s.bindings.lookup name

def value? (s : State) (name : Text) : Option Text := (s.binding? name).bind (·.value?)

/-- The value of a variable, which is empty if there is none. -/
def value (s : State) (name : Text) : Text := (s.value? name).getD []

def putVariable (s : State) (name : Text) (v : Option Variable) : State :=
  let others := s.bindings.filter (·.1 ≠ name)
  { s with bindings := v.elim others fun v => (name, v) :: others }

/-- Gives a variable a value without asking whether that is allowed. -/
def assign (s : State) (name value : Text) : State :=
  let v := (s.binding? name).getD {}
  s.putVariable name (some { v with value? := some value, isExported := v.isExported || s.switches.contains .allexport })

/-- Variables that are always there, even without a value. -/
def fixedVariables : List Text := ["IFS", "MAIL", "MAILPATH", "OPTIND", "PATH", "PS1", "PS2", "PS4"]

def unset (s : State) (name : Text) : State :=
  match s.binding? name with
  | none => s
  | some v => s.putVariable name (if fixedVariables.contains name then some { v with value? := none } else none)

/-- The variables that the programs which the shell starts can see. -/
def exported (s : State) : List (Text × Text) :=
  s.bindings.filterMap fun (name, v) => if v.isExported then v.value?.map fun t => (name, t) else none

/-- The characters at which unquoted values are split. -/
def separators (s : State) : Text := (s.value? "IFS").getD " \t\n"

def physicalPath (s : State) : Text :=
  if s.directory = [] then ['/'] else s.directory.flatMap fun name => '/' :: ofText name

end State

namespace Run

/-! ## Computations -/

def stop {α : Type} (ending : Ending) : Run α := throw ending

/-- Tells of an error, which ends the command or the whole shell. -/
def fail {α : Type} (message : Text) : Run α := do
  modify fun s => (s.warn message).withStatus 2
  throw .fails

/-- Tells of a mistake and goes on. -/
def warn (message : Text) : Run Unit := modify fun s => s.warn message

/-- Sets the status. -/
def answer (status : Nat) : Run Unit := modify fun s => s.withStatus status

/-- Prints at the end of the command. -/
def print (t : Text) : Run Unit := modify fun s => s.print t

/-- Runs a computation and gives how it ended. -/
def attempt (run : Run Unit) : Run Ending := do
  let (result, s) := run.run.run (← get)
  set s
  match result with
  | .ok () => return .proceeds
  | .error ending => return ending

/-- Goes on unless an ending keeps it from that. -/
def resume (ending : Ending) : Run Unit := if ending = .proceeds then pure () else throw ending

/-- Writes to a descriptor: whether it could be written to. A writer to whom nobody listens is killed. -/
def send (descriptor : Nat) (t : Text) : Run (Option Errno) := do
  let (written, s) := (← get).send descriptor t
  set s
  match written with
  | .done => return none
  | .refused e => return some e
  | .unread => throw (.killed 13)

def receive (descriptor : Nat) (extent : Extent) : Run (Except Errno Text) := do
  let (received, s) := (← get).receive descriptor extent
  set s
  match received with
  | .text t => return .ok t
  | .refused e => return .error e
  | .starved => throw .starves

/-- Gives a variable a value, unless it is read only or has no name. A name ends in front of an equals sign. Where programs are is forgotten with the search
path, and the place that `getopts` has come to is set with its variable. -/
def assign (name value : Text) : Run Unit := do
  let name := name.takeWhile (· ≠ '=')
  let s ← get
  if !isName name then fail (name ++ ": bad variable name")
  else if (s.binding? name).any (·.isReadonly) then fail (name ++ ": is read only")
  else
    if name = "PATH" then modify fun s => { s with tracked := [] }
    if name = "OPTIND" then
      match countOf? value with
      | some n => modify fun s => { s with place := ⟨max 1 n, none⟩ }
      | none => fail ("Illegal number: " ++ value)
    modify fun s => s.assign name value

end Run
end BlockHarness.Shell
