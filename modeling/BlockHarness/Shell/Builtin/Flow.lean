import BlockHarness.Shell.Option

/-! The commands of the shell that lead somewhere else in the script: out of it, out of a function or of loops. -/
namespace BlockHarness.Shell.Builtin
set_option autoImplicit false

def countOf (t : Text) : Run Nat :=
  match countOf? t with
  | some n => pure n
  | none => Run.fail ("Illegal number: " ++ t)

/-- Ends the shell with a status. Without one it is that of the last command, or the one that is kept while a signal
or the end is dealt with. -/
def exit (args : List Text) : Run Unit := do
  match args with
  | [] => modify fun s => s.withStatus (s.keptStatus.getD s.status)
  | t :: _ => Run.answer (← countOf t)
  Run.stop .exits

/-- Leaves a function, a file or the script with a status. -/
def leaveFunction (args : List Text) : Run Unit := do
  match args with
  | [] => Run.stop (.returns false)
  | t :: _ =>
    Run.answer (← countOf t)
    Run.stop (.returns true)

/-- Leaves loops, or goes on with the next round of one. Without a loop nothing happens. -/
def leaveLoops (ending : Nat → Ending) (args : List Text) : Run Unit := do
  let n ← match args with
    | [] => pure 1
    | t :: _ => do
      let n ← countOf t
      if n = 0 then Run.fail ("Illegal number: " ++ t) else pure n
  Run.answer 0
  let n := min n (← get).loops
  if 0 < n then Run.stop (ending n)

/-- Drops parameters. -/
def shift (args : List Text) : Run Unit := do
  let n ← match args with
    | [] => pure 1
    | t :: _ => countOf t
  let s ← get
  if s.parameters.length < n then Run.fail "can't shift that many"
  else set ({ s with parameters := s.parameters.drop n, place := {} }.withStatus 0)

end BlockHarness.Shell.Builtin
