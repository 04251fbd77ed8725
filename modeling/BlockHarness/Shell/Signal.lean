import BlockHarness.Process.Status
import BlockHarness.Shell.Number

/-! Signals as scripts name them. -/
namespace BlockHarness.Shell
set_option autoImplicit false

/-- The number of signals, counting the end of a script as the first one. -/
def signalCount : Nat := 65

/-- The name of a signal; one without a name is known by its number. -/
def signalName (n : Nat) : Text :=
  if n = 0 then "EXIT"
  else if n = 34 then "RTMIN"
  else if n = 64 then "RTMAX"
  else if 34 < n ∧ n < 50 then "RTMIN+" ++ Text.ofNat (n - 34)
  else if 49 < n ∧ n < 64 then "RTMAX-" ++ Text.ofNat (64 - n)
  else
    match if n = 16 then none else signalNames.lookup n with
    | some name => name.drop 3
    | none => Text.ofNat n

/-- The signal with a number that a script gives. -/
def signalOfNumber? (t : Text) : Option Nat :=
  if t.all isDigit then (Text.toNat? 10 t).filter (· < signalCount) else none

/-- The signal with a name or a number, not below `least`. Names have no case. -/
def signal? (least : Nat) (t : Text) : Option Nat :=
  match signalOfNumber? t with
  | some n => some n
  | none =>
    let upper := t.map Char.toUpper
    (List.range signalCount).find? fun n => least ≤ n && signalName n == upper

/-- Signals that do not end a process unless it asks for that. -/
def harmlessSignals : List Nat := [17, 18, 19, 20, 21, 22, 23, 28]

/-- Signals that no process can ignore. -/
def isForceful (n : Nat) : Bool := n == 9 || n == 19

/-- What a shell says of a program that a signal has killed; nothing for interrupts and broken pipes. -/
def signalDescription? (n : Nat) : Option Text :=
  if n = 2 ∨ n = 13 then none
  else
    let descriptions : List (Nat × Text) := [
      (1, "Hangup"), (3, "Quit"), (4, "Illegal instruction"), (5, "Trace/breakpoint trap"), (6, "Aborted"),
      (7, "Bus error"), (8, "Floating point exception"), (9, "Killed"), (10, "User defined signal 1"),
      (11, "Segmentation fault"), (12, "User defined signal 2"), (14, "Alarm clock"), (15, "Terminated"),
      (16, "Stack fault"), (24, "CPU time limit exceeded"), (25, "File size limit exceeded"),
      (26, "Virtual timer expired"), (27, "Profiling timer expired"), (29, "I/O possible"),
      (30, "Power failure"), (31, "Bad system call")]
    match descriptions.lookup n with
    | some t => some t
    | none =>
      if 34 ≤ n then some ("Real-time signal " ++ Text.ofNat (n - 34)) else some ("Unknown signal " ++ Text.ofNat n)

end BlockHarness.Shell
