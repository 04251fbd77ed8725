import BlockHarness.Shell.Escape
import BlockHarness.Shell.Fields
import BlockHarness.Shell.Option

/-! The commands of the shell that deal with variables, parameters and switches. -/
namespace BlockHarness.Shell.Builtin
set_option autoImplicit false

/-! ## Marks -/

/-- Splits an argument at its first equality sign. -/
def splitAssignment (t : Text) : Text × Option Text :=
  let name := t.takeWhile (· ≠ '=')
  (name, if name.length < t.length then some (t.drop (name.length + 1)) else none)

/-- Variables in the order of their names. -/
def sorted (bindings : List (Text × Variable)) : List (Text × Variable) :=
  bindings.mergeSort fun a b => !(decide (b.1 < a.1))

/-- Variables as a script would set them, each with a command in front. -/
def listing (command : Text) (bindings : List (Text × Variable)) : Text :=
  (sorted bindings).flatMap fun (name, v) =>
    command ++ name ++ v.value?.elim [] (fun t => '=' :: singleQuoted t) ++ ['\n']

/-- Marks variables, and gives values to those that come with one. -/
def mark (command : Text) (change : Variable → Variable) (isMarked : Variable → Bool) (args : List Text) : Run Unit :=
    do
  let o := Options.scan "p" args
  if !o.has 'p' then o.check
  let s ← get
  if o.has 'p' ∨ o.args = [] then
    Run.print (listing (command ++ [' ']) (s.bindings.filter fun v => isMarked v.2))
  else
    o.args.forM fun argument => do
      let (name, value?) := splitAssignment argument
      match value? with
      | some t => Run.assign name t
      | none => if !isName name then Run.fail (name ++ ": bad variable name")
      modify fun s => s.putVariable name (some (change ((s.binding? name).getD {})))
  Run.answer 0

/-- Lets programs see variables. -/
def exposeVariables : List Text → Run Unit :=
  mark "export" (fun v => { v with isExported := true }) Variable.isExported

/-- Keeps variables from being changed. -/
def protectVariables : List Text → Run Unit :=
  mark "readonly" (fun v => { v with isReadonly := true }) Variable.isReadonly

/-! ## Local variables -/

/-- Remembers something for the end of the function that runs. -/
def save (saved : Saved) : Run Unit :=
  modify fun s =>
    match s.saved with
    | [] => s
    | frame :: outer => { s with saved := (saved :: frame) :: outer }

/-- Takes a variable over for a function, with a new value if there is one. -/
def takeOver (exports : Bool) (name : Text) (value? : Option Text) : Run Unit := do
  let before := (← get).binding? name
  save (.variable name before)
  if before.any (·.isReadonly) ∧ value?.isSome then Run.fail (name ++ ": is read only")
  let v := before.getD {}
  let v : Variable := { v with value? := value?.or v.value?, isExported := v.isExported || exports }
  match value? with
  | some t => Run.assign name t
  | none => if !isName name then Run.fail (name ++ ": bad variable name")
  modify fun s => s.putVariable name (some v)

/-- Takes variables or all switches over for the function that is running. -/
def localize (args : List Text) : Run Unit := do
  if (← get).saved = [] then Run.fail "not in a function"
  args.forM fun argument => do
    if argument = ['-'] then save (.switches (← get).switches)
    else
      let (name, value?) := splitAssignment argument
      takeOver false name value?
  Run.answer 0

/-! ## Removal -/

/-- Takes their values from variables, or functions away. -/
def remove (args : List Text) : Run Unit := do
  let o ← Options.read "vf" args
  if o.last? = some 'f' then
    modify fun s => { s with functions := s.functions.filter fun f => !o.args.contains f.1 }
  else
    o.args.forM fun argument => do
      let name := (splitAssignment argument).1
      let s ← get
      if !isName name then Run.fail (name ++ ": bad variable name")
      else if (s.binding? name).any (·.isReadonly) then Run.fail (name ++ ": is read only")
      else set (s.unset name)
  Run.answer 0

/-! ## Switches and parameters -/

/-- Sets one switch by its letter. -/
def turnLetter (isOn : Bool) (c : Char) : Run Unit := do
  match Switch.ofLetter? c with
  | none => Run.fail ("Illegal option -" ++ [c])
  | some switch =>
    modify fun s =>
      let switches := Switches.turn s.switches switch isOn
      let switches := if !isOn then switches
        else if switch = .vi then Switches.turn switches .emacs false
        else if switch = .emacs then Switches.turn switches .vi false
        else switches
      { s with switches }

/-- Sets one switch by its name, or lists all of them. -/
def turnName (isOn : Bool) : Option Text → Run Unit
  | none => do Run.print ((if isOn then Switches.listing else Switches.commands) (← get).switches)
  | some name =>
    match Switch.ofName? name with
    | none => Run.fail ("Illegal option -o " ++ name)
    | some switch => modify fun s => { s with switches := Switches.turn s.switches switch isOn }

/-- Sets the switches of one argument; the letters for which `keeps` holds are left to the caller. -/
def turnLetters (keeps : Char → Bool) (isOn : Bool) : Text → List Text → Run (List Text)
  | [], args => return args
  | c :: cs, args => do
    if keeps c then turnLetters keeps isOn cs args
    else if c = 'o' then
      turnName isOn args.head?
      turnLetters keeps isOn cs (args.drop 1)
    else
      turnLetter isOn c
      turnLetters keeps isOn cs args

def setParameters (parameters : List Text) : Run Unit := modify fun s => { s with parameters, place := {} }

def setSwitches : Nat → List Text → Run (List Text)
  | 0, args => return args
  | fuel + 1, args =>
    match args with
    | ['-'] :: rest => do
      modify fun s => { s with switches := (Switches.turn (Switches.turn s.switches .xtrace false) .verbose false) }
      return rest
    | ['-', '-'] :: rest => do
      if rest = [] then setParameters []
      return rest
    | ('-' :: cs) :: rest => do setSwitches fuel (← turnLetters (fun _ => false) true cs rest)
    | ('+' :: cs) :: rest => do setSwitches fuel (← turnLetters (fun _ => false) false cs rest)
    | args => return args

/-- Sets switches and parameters, or lists the variables. -/
def configure (args : List Text) : Run Unit := do
  let s ← get
  if args = [] then Run.print (listing [] (s.bindings.filter fun v => v.2.value?.isSome))
  else
    let hadMonitor := s.switches.contains .monitor
    let rest ← setSwitches (args.length + 1) args
    if (← get).switches.contains .monitor && !hadMonitor then
      Run.warn "can't access tty; job control turned off"
      modify fun s => { s with switches := Switches.turn s.switches .monitor false }
    if rest ≠ [] then setParameters rest
  Run.answer 0

/-! ## Options of scripts -/

/-- Gives a variable a value that has been found in an argument, or takes it away. -/
def setArgument (value? : Option Text) : Run Unit :=
  match value? with
  | some t => Run.assign "OPTARG" t
  | none => modify fun s => s.unset "OPTARG"

/-- What looking for the next option comes to: what the variable is to hold, what is left of the argument at hand,
how many arguments have been passed, and whether there was none. -/
structure NextOption where
  letter : Char := '?'
  rest : Option Text := none
  passed : Nat
  isDone : Bool := false

/-- Whether a letter is among those that are known, and whether a value belongs to it. -/
def wants? (known : Text) (c : Char) : Option Bool :=
  match known with
  | [] => none
  | k :: rest =>
    if k = c then some (rest.head? == some ':')
    else
      match rest with
      | ':' :: rest => wants? rest c
      | rest => wants? rest c

/-- Takes the option with the letter `c`, with `rest` behind it in its argument; `passed` arguments lie behind. -/
def takeOption (known : Text) (args : List Text) (passed : Nat) (c : Char) (rest : Text) : Run NextOption := do
  let isSilent := known.head? == some ':'
  match wants? known c with
  | none =>
    if isSilent then setArgument (some [c])
    else
      modify fun s => s.complain ("Illegal option -" ++ [c])
      setArgument none
    return { rest, passed }
  | some false =>
    setArgument (some [])
    return { letter := c, rest, passed }
  | some true =>
    match rest, args[passed]? with
    | [], none =>
      if isSilent then
        setArgument (some [c])
        return { letter := ':', passed }
      else
        modify fun s => s.complain ("No arg for -" ++ [c] ++ " option")
        setArgument none
        return { passed }
    | [], some value =>
      setArgument (some value)
      return { letter := c, passed := passed + 1 }
    | value, _ =>
      setArgument (some value)
      return { letter := c, passed }

def nextOption (known : Text) (args : List Text) (place : OptionPlace) : Run NextOption := do
  let passed := place.next - 1
  let inside : Option Text :=
    match place.offset, if place.next ≤ 1 then none else args[place.next - 2]? with
    | some n, some word => if word.length < n ∨ word.drop n = [] then none else some (word.drop n)
    | _, _ => none
  match inside with
  | some (c :: rest) => takeOption known args passed c rest
  | _ =>
    match args[passed]? with
    | some ['-', '-'] => return { passed := passed + 1, isDone := true }
    | some ('-' :: c :: rest) => takeOption known args (passed + 1) c rest
    | _ => return { passed, isDone := true }

/-- Puts the next option of the arguments into a variable. -/
def getopts (args : List Text) : Run Unit := do
  match args with
  | known :: name :: given =>
    let s ← get
    let words := if given = [] then s.parameters else given
    let place : OptionPlace := if words.length + 1 < s.place.next then {} else s.place
    let o ← nextOption known words place
    modify fun s => s.assign "OPTIND" (Text.ofNat (o.passed + 1))
    Run.assign name [o.letter]
    let offset := o.rest.bind fun rest => (words[o.passed - 1]?).map fun word => word.length - rest.length
    modify fun s => { s with place := ⟨o.passed + 1, offset⟩ }
    Run.answer (if o.isDone then 1 else 0)
  | _ => Run.fail "Usage: getopts optstring var [arg...]"

/-! ## Input -/

/-- Reads a line of the input; a character behind a backslash is marked, and a backslash at the end of a line joins
the next one to it. The flag tells whether the line was whole. -/
def readMarked (isRaw : Bool) : Nat → Run (List (Char × Bool) × Bool)
  | 0 => return ([], false)
  | fuel + 1 => do
    match ← Run.receive 0 .line with
    | .error _ => return ([], false)
    | .ok line =>
      let line := line.filter (· ≠ '\x00')
      let isWhole := line.getLast? == some '\n'
      let text := if isWhole then line.dropLast else line
      let rec marks : Text → List (Char × Bool) × Bool
        | '\\' :: c :: rest =>
          if isRaw then
            let (more, joins) := marks (c :: rest)
            (('\\', false) :: more, joins)
          else
            let (more, joins) := marks rest
            ((c, true) :: more, joins)
        | ['\\'] => if isRaw then ([('\\', false)], false) else ([], isWhole)
        | c :: rest => let (more, joins) := marks rest; ((c, false) :: more, joins)
        | [] => ([], false)
      let (marked, joins) := marks text
      if joins then
        let (more, isWhole) ← readMarked isRaw fuel
        return (marked ++ more, isWhole)
      else return (marked, isWhole)

/-- Reads a line of the input into variables. -/
def readVariables (args : List Text) : Run Unit := do
  let o ← Options.read "p:r" args
  if o.args = [] then Run.fail "arg count"
  let (line, isWhole) ← readMarked (o.has 'r') 100000
  let values := LineFields.ofLine (← get).separators o.args.length line
  (o.args.zipIdx).forM fun (name, n) => Run.assign name ((values[n]?).getD [])
  Run.answer (if isWhole then 0 else 1)

/-! ## Aliases -/

/-- The place of a name in tables whose order depends on a sum over its characters. -/
def tablePlace (size : Nat) (name : Text) : Nat :=
  (name.foldl (fun n c => n + c.toNat) ((name.head?.map fun c => 16 * c.toNat).getD 0)) % size

/-- Named things in the order of a table. -/
def inTableOrder (size : Nat) (entries : List (Text × Text)) : List (Text × Text) :=
  (List.range size).flatMap fun n => entries.filter fun e => tablePlace size e.1 == n

/-- An alias as a script would set it. -/
def aliasLine (entry : Text × Text) : Text := entry.1 ++ '=' :: singleQuoted entry.2 ++ ['\n']

/-- Sets or lists aliases. -/
def setAliases (args : List Text) : Run Unit := do
  let s ← get
  Run.answer 0
  if args = [] then Run.print ((inTableOrder 39 s.aliases).flatMap aliasLine)
  else
    args.forM fun argument => do
      let s ← get
      match splitAssignment (argument.drop 1) with
      | (_, none) =>
        match s.aliases.lookup argument with
        | some value => Run.print (aliasLine (argument, value))
        | none =>
          set ((s.complain ("alias: " ++ argument ++ " not found")).withStatus 1)
      | (name, some value) =>
        let name := argument.take 1 ++ name
        let aliases :=
          if (s.aliases.lookup name).isSome then
            s.aliases.map fun e => if e.1 = name then (name, value) else e
          else s.aliases ++ [(name, value)]
        set { s with aliases }

def removeAliases (args : List Text) : Run Unit := do
  let o := Options.scan "a" args
  if !o.has 'a' then o.check
  Run.answer 0
  if o.has 'a' then modify fun s => { s with aliases := [] }
  else
    o.args.forM fun name => do
      let s ← get
      if (s.aliases.lookup name).isSome then set { s with aliases := s.aliases.filter (·.1 ≠ name) }
      else set ((s.complain ("unalias: " ++ name ++ " not found")).withStatus 1)

end BlockHarness.Shell.Builtin
