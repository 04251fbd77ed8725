import BlockHarness.Text.Basic

/-! How a process ended: with an exit code, or by a signal. -/
namespace BlockHarness
set_option autoImplicit false

/-- The signals with a name, by number. -/
def signalNames : List (Nat × Text) := [
  (1, "SIGHUP"), (2, "SIGINT"), (3, "SIGQUIT"), (4, "SIGILL"), (5, "SIGTRAP"), (6, "SIGABRT"), (7, "SIGBUS"),
  (8, "SIGFPE"), (9, "SIGKILL"), (10, "SIGUSR1"), (11, "SIGSEGV"), (12, "SIGUSR2"), (13, "SIGPIPE"),
  (14, "SIGALRM"), (15, "SIGTERM"), (16, "SIGSTKFLT"), (17, "SIGCHLD"), (18, "SIGCONT"), (19, "SIGSTOP"),
  (20, "SIGTSTP"), (21, "SIGTTIN"), (22, "SIGTTOU"), (23, "SIGURG"), (24, "SIGXCPU"), (25, "SIGXFSZ"),
  (26, "SIGVTALRM"), (27, "SIGPROF"), (28, "SIGWINCH"), (29, "SIGIO"), (30, "SIGPWR"), (31, "SIGSYS")]

/-- How a process ended. A signal may have made it leave a picture of its memory. -/
inductive Status where
  | exited (code : Nat)
  | signaled (number : Nat) (dumpedCore : Bool)
  deriving DecidableEq, Repr

namespace Status

/-- Exit code zero is success, and nothing else is. -/
def success (s : Status) : Bool := s == .exited 0

/-- The exit code, which a signal leaves open. -/
def code? : Status → Option Nat
  | .exited code => some code
  | .signaled _ _ => none

/-- The wording of a status; a signal carries its name if it has one. -/
def message : Status → Text
  | .exited code => "exit status: " ++ Text.ofNat code
  | .signaled number dumpedCore =>
    let name : Text :=
      match signalNames.lookup number with
      | some name => " (" ++ name ++ ")"
      | none => []
    let dump : Text := if dumpedCore then " (core dumped)" else []
    "signal: " ++ Text.ofNat number ++ name ++ dump

end Status
end BlockHarness
