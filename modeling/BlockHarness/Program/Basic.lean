import BlockHarness.Shell.Redirection

/-! What the programs of the system have in common: options with letters and words, messages, numbers with units, and
the way in which they read files and write their output. Each runs in a process of its own. -/
namespace BlockHarness.Program
set_option autoImplicit false

open Shell (State Run)

/-! ## Options -/

/-- Whether a value belongs to an option. -/
inductive Argument where
  | none
  | optional
  | required
  deriving DecidableEq, Repr

/-- An option that has a word: the word, the letter that it stands for, and whether a value belongs to it. -/
structure LongOption where
  word : Text
  letter : Char
  argument : Argument := .none

structure Options where
  letters : Text
  words : List LongOption := []

/-- Arguments that have been read: options with their values, operands, and what was wrong with the first one that
was not understood. -/
structure Arguments where
  options : List (Char × Option Text) := []
  operands : List Text := []
  fault : Option Text := none

namespace Options

/-- Whether a value belongs to a letter, if the letter is known. -/
def argument? (known : Text) (c : Char) : Option Argument :=
  match known with
  | [] => none
  | l :: rest =>
    if l = c ∧ c ≠ ':' then
      some (match rest with
        | ':' :: ':' :: _ => .optional
        | ':' :: _ => .required
        | _ => .none)
    else argument? rest c

/-- Reads letters behind a dash: the options, whether the next argument is used, and the fault. -/
def readLetters (o : Options) (next : Option Text) : Text → List (Char × Option Text) × Bool × Option Text
  | [] => ([], false, none)
  | c :: rest =>
    match argument? o.letters c with
    | none => ([], false, some ("invalid option -- '" ++ [c, '\'']))
    | some .none =>
      let (given, isUsed, fault) := readLetters o next rest
      ((c, none) :: given, isUsed, fault)
    | some .optional => ([(c, if rest = [] then none else some rest)], false, none)
    | some .required =>
      if rest ≠ [] then ([(c, some rest)], false, none)
      else
        match next with
        | some value => ([(c, some value)], true, none)
        | none => ([], false, some ("option requires an argument -- '" ++ [c, '\'']))

/-- The option that a word means: the one with that word, or the only one that begins with it. -/
def findWord (o : Options) (word : Text) : Except Text LongOption :=
  match o.words.find? (·.word = word) with
  | some option => .ok option
  | none =>
    match o.words.filter fun option => word.isPrefixOf option.word with
    | [] => .error ("unrecognized option '--" ++ word ++ "'")
    | first :: rest =>
      if rest.all fun option => option.letter = first.letter then .ok first
      else
        .error ("option '--" ++ word ++ "' is ambiguous; possibilities:" ++
          (first :: rest).flatMap fun option => (" '--" : Text) ++ option.word ++ ['\''])

/-- Reads a word behind two dashes: the option, whether the next argument is used, and the fault. -/
def readWord (o : Options) (next : Option Text) (t : Text) : List (Char × Option Text) × Bool × Option Text :=
  let word := t.takeWhile (· ≠ '=')
  let value? : Option Text := if word.length < t.length then some (t.drop (word.length + 1)) else none
  match o.findWord word with
  | .error fault => ([], false, some (if value?.isSome && ("unrec" : Text).isPrefixOf fault
      then "unrecognized option '--" ++ t ++ "'" else fault))
  | .ok option =>
    match option.argument, value?, next with
    | .none, some _, _ => ([], false, some ("option '--" ++ option.word ++ "' doesn't allow an argument"))
    | .none, none, _ | .optional, none, _ => ([(option.letter, none)], false, none)
    | .optional, some value, _ | .required, some value, _ => ([(option.letter, some value)], false, none)
    | .required, none, some value => ([(option.letter, some value)], true, none)
    | .required, none, none => ([], false, some ("option '--" ++ option.word ++ "' requires an argument"))

/-- Sorts arguments into options and operands; options may stand anywhere, unless operands `end` them. -/
def read (o : Options) (endsAtOperand : Bool) : Nat → List Text → Arguments
  | 0, operands => { operands }
  | _, [] => {}
  | fuel + 1, argument :: rest =>
    let proceed (result : List (Char × Option Text) × Bool × Option Text) : Arguments :=
      let (options, isUsed, fault) := result
      if fault.isSome then { options, fault }
      else
        let a := read o endsAtOperand fuel (if isUsed then rest.drop 1 else rest)
        { a with options := options ++ a.options }
    match argument with
    | ['-', '-'] => { operands := rest }
    | '-' :: '-' :: word => proceed (o.readWord rest.head? word)
    | '-' :: c :: letters => proceed (o.readLetters rest.head? (c :: letters))
    | _ =>
      if endsAtOperand then { operands := argument :: rest }
      else
        let a := read o endsAtOperand fuel rest
        { a with operands := argument :: a.operands }

end Options

namespace Arguments

/-- Reads the arguments of a program. -/
def ofList (o : Options) (args : List Text) : Arguments := o.read false (args.length + 1) args

def has (a : Arguments) (c : Char) : Bool := a.options.any (·.1 == c)

/-- The last value that is given with an option. -/
def value? (a : Arguments) (c : Char) : Option Text := (a.options.reverse.lookup c).join

end Arguments

/-! ## Messages -/

/-- Writes what the program has printed. -/
def flush : Run (Option Errno) := do
  let s ← get
  let t := s.printed.reverse.flatten
  set { s with printed := [] }
  if t = [] then return none else Run.send 1 t

/-- Writes a message of the program, behind what it has printed. -/
def complain (message : Text) : Run Unit := do
  let _ ← flush
  modify fun s => s.complain (s.name ++ ": " ++ message)

/-- Writes a message, and gives the program a status other than success. -/
def mishap (message : Text) (status : Nat) : Run Unit := do
  complain message
  Run.answer status

/-- Says that the arguments are not understood, and where help is to be found. -/
def misuse (message : Text) (status : Nat) : Run Unit := do
  complain message
  modify fun s => s.complain ("Try '" ++ s.name ++ " --help' for more information.")
  Run.answer status

/-- Whether a name can be shown as it is. -/
def isPlainName (t : Text) : Bool :=
  t ≠ [] && t ≠ "\x7b" && t ≠ "\x7d" && !(t.head?.any ("#~".toList.contains ·)) &&
    t.all fun c => Shell.isVisible c && !("!\"$&'()*:;<=>?[\\^\x60|".toList.contains c)

/-- A character that is written with an escape in quotes. -/
def escaped (c : Char) : Text :=
  match c with
  | '\x07' => "\\a" | '\x08' => "\\b" | '\t' => "\\t" | '\n' => "\\n" | '\x0b' => "\\v" | '\x0c' => "\\f"
  | '\r' => "\\r"
  | c => '\\' :: [c.toNat / 64 % 8, c.toNat / 8 % 8, c.toNat % 8].map Text.digit

/-- A name in quotes as a shell reads them. -/
def shellQuoted (t : Text) : Text :=
  let isPrinted (c : Char) : Bool := Shell.isVisible c || c == ' '
  let rec go (isEscaping : Bool) : Text → Text
    | [] => []
    | c :: rest =>
      if isPrinted c then
        (if isEscaping then ("''" : Text) else []) ++ (if c = '\'' then ("'\\''" : Text) else [c]) ++ go false rest
      else (if isEscaping then [] else ("'$'" : Text)) ++ escaped c ++ go true rest
  if t.contains '\'' && t.all fun c => isPrinted c && !("\"$\\\x60!".toList.contains c) then ['"'] ++ t ++ ['"']
  else ['\''] ++ go false t ++ ['\'']

/-- A name as it is shown in front of a reason. -/
def shown (t : Text) : Text := if isPlainName t then t else shellQuoted t

/-- A text in quotes, with escapes for what cannot be shown. -/
def quoted (t : Text) : Text :=
  ['\''] ++ (t.flatMap fun c =>
    if c = '\'' then "\\'" else if c = '\\' then "\\\\"
    else if Shell.isVisible c ∨ c = ' ' then [c] else escaped c) ++ ['\'']

def reason (e : Errno) : Text := Shell.ofText e.description

/-! ## Words as values -/

/-- Values that are words: each line has words that mean the same. -/
abbrev Words (α : Type) := List (List String × α)

/-- What a word means; it may be cut short. A word without a meaning is refused with a list of those that have one. -/
def meaning {α : Type} [BEq α] (option : Text) (words : Words α) (t : Text) : Except Text α :=
  let all : List (Text × α) := words.flatMap fun (names, a) => names.map fun name => (name.toList, a)
  let refuse (kind : Text) : Except Text α :=
    .error <| kind ++ " argument " ++ quoted t ++ " for " ++ quoted option ++ "\nValid arguments are:" ++
      words.flatMap fun (names, _) =>
        ("\n  - " : Text) ++ Text.joinWith ", ".toList (names.map fun name => quoted name.toList)
  match all.lookup t, all.filter fun w => t.isPrefixOf w.1 with
  | some a, _ => .ok a
  | none, [] => refuse "invalid"
  | none, first :: rest => if rest.all fun w => w.2 == first.2 then .ok first.2 else refuse "ambiguous"

/-- Writes what the program has printed; a failure is told of, and gives the program a status. -/
def finishOr (failure : Nat) : Run Unit := do
  match ← flush with
  | none => pure ()
  | some e => mishap ("write error: " ++ reason e) failure

/-- Writes what the program has printed at its end. -/
def finish : Run Unit := finishOr 1

/-! ## Files -/

/-- The descriptor that a program uses for the file that it reads. -/
def fileDescriptor : Nat := 64

/-- Opens a file to be read; a single dash means the standard input. The answer is the descriptor. -/
def openInput (path : Text) : Run (Except Errno Nat) := do
  if path = ['-'] then return .ok 0
  else
    let s ← get
    match s.openPath path .read with
    | .error e => return .error e
    | .ok (n, s) =>
      set (s.connect fileDescriptor (some n))
      return .ok fileDescriptor

def closeInput (descriptor : Nat) : Run Unit := do
  if descriptor ≠ 0 then modify fun s => s.connect descriptor none

/-! ## Numbers -/

/-- The factor that letters behind a number stand for. -/
def unitOf? (t : Text) : Option Nat :=
  let powers : List (Char × Nat) :=
    [('k', 1), ('K', 1), ('m', 2), ('M', 2), ('G', 3), ('g', 3), ('T', 4), ('t', 4), ('P', 5), ('E', 6), ('Z', 7),
      ('Y', 8), ('R', 9), ('Q', 10)]
  match t with
  | [] => some 1
  | ['b'] => some 512
  | [c] | [c, 'i', 'B'] => (powers.lookup c).map fun n => Nat.pow 1024 n
  | [c, 'B'] => (powers.lookup c).map fun n => Nat.pow 1000 n
  | _ => none

end BlockHarness.Program
