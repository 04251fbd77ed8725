import BlockHarness.Shell.State

/-! Options of the commands that the shell itself knows: letters behind a dash, some of them with a value. -/
namespace BlockHarness.Shell
set_option autoImplicit false

/-- The options in front of arguments, with their values, up to the first one that is wrong. -/
structure Options where
  given : List (Char × Text) := []
  args : List Text
  fault : Option Text := none

namespace Options

def has (o : Options) (c : Char) : Bool := o.given.any (·.1 == c)

def last? (o : Options) : Option Char := o.given.getLast?.map (·.1)

/-- Whether a command knows a letter, and whether a value belongs to it. -/
def takesValue? (letters : Text) (c : Char) : Option Bool :=
  match letters with
  | [] => none
  | [l] => if l = c then some false else none
  | l :: ':' :: rest => if l = c then some true else takesValue? rest c
  | l :: rest => if l = c then some false else takesValue? rest c

/-- Reads the letters of one argument; the arguments behind it are left. -/
def letters (known : Text) : Text → List Text → Options
  | [], args => { args }
  | c :: rest, args =>
    match takesValue? known c with
    | none => { args, fault := some ("Illegal option -" ++ [c]) }
    | some false =>
      let o := letters known rest args
      { o with given := (c, []) :: o.given }
    | some true =>
      match rest, args with
      | [], [] => { args, fault := some ("No arg for -" ++ [c] ++ " option") }
      | [], value :: args => { given := [(c, value)], args }
      | value, args => { given := [(c, value)], args }

/-- Reads the options in front of arguments, at most `fuel` of which are options. -/
def scanFrom (known : Text) : Nat → List Text → Options
  | 0, args => { args }
  | fuel + 1, args =>
    match args with
    | ['-', '-'] :: rest => { args := rest }
    | ('-' :: c :: cs) :: rest =>
      let first := letters known (c :: cs) rest
      if first.fault.isSome then first
      else
        let o := scanFrom known fuel first.args
        { o with given := first.given ++ o.given }
    | args => { args }

/-- Reads the options with some letters; a colon stands behind those that have a value. -/
def scan (known : Text) (args : List Text) : Options := scanFrom known args.length args

/-- Tells what is wrong with the options, if anything is. -/
def check (o : Options) : Run Unit := o.fault.elim (pure ()) Run.fail

/-- Reads the options with some letters, of which none may be wrong. -/
def read (known : Text) (args : List Text) : Run Options := do
  let o := scan known args
  o.check
  return o

/-- Reads the arguments of a command without options. -/
def none (args : List Text) : Run (List Text) := return (← read [] args).args

end Options
end BlockHarness.Shell
