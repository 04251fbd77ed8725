import BlockHarness.Text.Basic

/-! The switches that a script can set for the shell that runs it. -/
namespace BlockHarness.Shell
set_option autoImplicit false

inductive Switch where
  | errexit | noglob | ignoreeof | interactive | monitor | noexec | stdin | xtrace | verbose | vi | emacs
  | noclobber | allexport | notify | nounset | privileged | nolog | debug
  deriving DecidableEq, Repr

namespace Switch

/-- All switches in the order in which they are listed, with name and letter. -/
def table : List (Switch × Text × Option Char) := [
  (.errexit, "errexit", some 'e'), (.noglob, "noglob", some 'f'), (.ignoreeof, "ignoreeof", some 'I'),
  (.interactive, "interactive", some 'i'), (.monitor, "monitor", some 'm'), (.noexec, "noexec", some 'n'),
  (.stdin, "stdin", some 's'), (.xtrace, "xtrace", some 'x'), (.verbose, "verbose", some 'v'),
  (.vi, "vi", some 'V'), (.emacs, "emacs", some 'E'), (.noclobber, "noclobber", some 'C'),
  (.allexport, "allexport", some 'a'), (.notify, "notify", some 'b'), (.nounset, "nounset", some 'u'),
  (.privileged, "privileged", some 'p'), (.nolog, "nolog", none), (.debug, "debug", none)]

def ofLetter? (c : Char) : Option Switch := (table.find? fun row => row.2.2 == some c).map (·.1)

def ofName? (name : Text) : Option Switch := (table.find? fun row => row.2.1 == name).map (·.1)

end Switch

abbrev Switches := List Switch

namespace Switches

def turn (switches : Switches) (switch : Switch) (isOn : Bool) : Switches :=
  let others := List.filter (· ≠ switch) switches
  if isOn then switch :: others else others

def letters (switches : Switches) : Text :=
  (Switch.table.reverse.filter fun row => List.contains switches row.1).filterMap (·.2.2)

/-- All switches with their names, as a table to be read. -/
def listing (switches : Switches) : Text :=
  let row (switch : Switch) (name : Text) : Text :=
    name ++ List.replicate (16 - name.length) ' ' ++
      (if List.contains switches switch then ("on" : Text) else ("off" : Text)) ++ ['\n']
  ("Current option settings\n" : Text) ++ Switch.table.flatMap fun (switch, name, _) => row switch name

/-- All switches as the commands that set them. -/
def commands (switches : Switches) : Text :=
  Switch.table.flatMap fun (switch, name, _) =>
    (if List.contains switches switch then ("set -o " : Text) else ("set +o " : Text)) ++ name ++ ['\n']

end Switches
end BlockHarness.Shell
