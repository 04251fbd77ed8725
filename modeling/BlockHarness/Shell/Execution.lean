import BlockHarness.Program.Concatenate
import BlockHarness.Program.Count
import BlockHarness.Program.Exchange
import BlockHarness.Program.Head
import BlockHarness.Program.List
import BlockHarness.Program.Plain
import BlockHarness.Shell.Builtin.Directory
import BlockHarness.Shell.Builtin.Output
import BlockHarness.Shell.Invocation
import BlockHarness.Shell.Process
import BlockHarness.Shell.Startup

/-! Running commands. Everything recurs on a budget of steps; a shell that uses it up is killed. -/
namespace BlockHarness.Shell
set_option autoImplicit false

/-! ## Around commands -/

/-- How a command is run: whether its failure is tested by what is around it, and whether its process has nothing
to do after it. -/
structure Mode where
  isTested : Bool := false
  isLast : Bool := false

/-- How many functions can be run inside one another. -/
def maxCalls : Nat := 1000

/-- What there is to say when the budget is used up. -/
def exhausted {α : Type} : Run α := Run.stop (.killed 9)

/-- Ends the shell after a failure that nothing has tested, if it has been told to. -/
def checkFailure (mode : Mode) : Run Unit := do
  let s ← get
  if s.status ≠ 0 && !mode.isTested && s.switches.contains .errexit then Run.stop .exits

/-- The commands of the shell that only say how they end. -/
def idleBuiltins : List (Text × Run Unit) :=
  [(":", Run.answer 0), ("true", Run.answer 0), ("false", Run.answer 1), ("times", Builtin.times)]

/-- The commands of the shell that print, or ask about files. -/
def outputBuiltins : List (Text × (List Text → Run Unit)) :=
  [("[", Builtin.bracket), ("test", Builtin.test), ("echo", Builtin.echo), ("printf", Builtin.printf),
    ("pwd", Builtin.pwd), ("type", Builtin.type), ("hash", Builtin.hash), ("umask", Builtin.umask),
    ("ulimit", Builtin.ulimit)]

/-- The commands of the shell that change how it goes on, or have to do with processes. -/
def flowBuiltins : List (Text × (List Text → Run Unit)) :=
  [("exit", Builtin.exit), ("return", Builtin.leaveFunction), ("break", Builtin.leaveLoops .breaks),
    ("continue", Builtin.leaveLoops .continues), ("shift", Builtin.shift), ("trap", Builtin.trap),
    ("kill", Builtin.kill), ("wait", Builtin.wait), ("jobs", Builtin.jobs), ("fg", Builtin.continueJobs),
    ("bg", Builtin.continueJobs)]

/-- The commands of the shell that change its variables, switches, aliases or directory. -/
def settingBuiltins : List (Text × (List Text → Run Unit)) :=
  [("read", Builtin.readVariables), ("cd", Builtin.cd), ("chdir", Builtin.cd), ("set", Builtin.configure),
    ("export", Builtin.exposeVariables), ("readonly", Builtin.protectVariables), ("local", Builtin.localize),
    ("unset", Builtin.remove), ("getopts", Builtin.getopts), ("alias", Builtin.setAliases),
    ("unalias", Builtin.removeAliases)]

/-- Runs one of the commands of the shell that run no others. -/
def plainBuiltin (name : Text) (args : List Text) : Run Unit :=
  match idleBuiltins.lookup name, (outputBuiltins ++ flowBuiltins ++ settingBuiltins).lookup name with
  | some run, _ => run
  | none, some run => run args
  | none, none => Run.answer 0

/-- What `command` does when it is not to call anything: it says what a name stands for. -/
def describeCommand (args : List Text) : Run Unit := do
  let o ← Options.read "pvV" args
  match o.args, (o.has 'v', o.has 'V') with
  | [], _ | _, (false, false) => Run.answer 0
  | name :: _, (_, isVerbose) =>
    Run.answer (← describe isVerbose (if o.has 'p' then some standardSearchPath else none) name)

/-- Writes what a command of the shell has printed. A failure is told of if the command has come to its end. -/
def flush (name : Text) (isDone : Bool) : Run Unit := do
  let s ← get
  let t := s.printed.reverse.flatten
  set { s with printed := [] }
  if t ≠ [] then
    match ← Run.send 1 t with
    | none => pure ()
    | some _ => if isDone then
        Run.warn (name ++ ": I/O error")
        modify fun s => s.withStatus (s.status ||| 1)

/-- Runs a command of the shell under its name, and writes what it prints. -/
def callBuiltin (name : Text) (run : Run Unit) : Run Unit := do
  let before := (← get).command
  modify fun s => { s with command := some name }
  let ending ← Run.attempt run
  let isDone : Bool := match ending with
    | .fails | .exits | .killed _ | .starves => false
    | _ => true
  let flushing ← Run.attempt (flush name isDone)
  modify fun s => { s with command := before }
  Run.resume flushing
  Run.resume ending

/-- Puts back what a function has taken over. -/
def giveBack (s : State) : State :=
  match s.saved with
  | [] => s
  | frame :: outer =>
    frame.foldl (fun (s : State) saved =>
      match saved with
      | .switches before => { s with switches := before }
      | .variable name before =>
        let s := s.putVariable name before
        let s : State := if name = "PATH" then { s with tracked := [] } else s
        if name = "OPTIND" then
          { s with place := ⟨max 1 ((before.bind (·.value?)).bind countOf?  |>.getD 1), none⟩ }
        else s) { s with saved := outer }

/-- What a finished round of a loop says about the next one: to go on, or how the loop ends. -/
def afterRound : Ending → Except Ending Unit
  | .proceeds => .ok ()
  | .continues n => if n ≤ 1 then .ok () else .error (.continues (n - 1))
  | .breaks n => .error (if n ≤ 1 then .proceeds else .breaks (n - 1))
  | ending => .error ending

/-- The text that a reader has used up since it was at another place. -/
def consumed (before after : Reader) : Text :=
  match before.inputs.getLast?, after.inputs.getLast? with
  | some a, some b => a.text.take (a.text.length - b.text.length)
  | some a, none => a.text
  | none, _ => []

/-- Writes a text to the error output that there was at another time. -/
def trace (before : State) (t : Text) : Run Unit := do
  match before.descriptors.lookup 2 with
  | none => pure ()
  | some n => modify fun s => ((s.connect 1000 (some n)).send 1000 t).2.connect 1000 none

/-- How much the pipes of a command hold before their writers are stopped, from one attempt to the next. -/
def rooms : List (Option Nat) := [some 65536, some 1048576, none]

/-- Lets a stream that has been written to be read. It is cut if it holds as much as there was room for. -/
def turnAround (n : Nat) (room : Option Nat) (closes : Nat) : Run Nat := do
  let s ← get
  let pieces := s.pieces n
  let length := (pieces.map (·.text.length)).foldl (· + ·) 0
  let supply : Supply := if room.any (· ≤ length) then .cut else .whole
  let (m, s) := s.addStream (.arriving pieces supply closes)
  set s
  return m

/-- Whether a reader has come to the place where one of some streams was cut. -/
def wasMissed (s : State) (streams : List Nat) : Bool :=
  streams.any fun n =>
    match s.machine.streams[n]? with
    | some (.arriving _ .missed _) => true
    | _ => false

/-! ## Running -/

mutual

def eval : Nat → Mode → Command → Run Unit
  | 0, _, _ => exhausted
  | fuel + 1, mode, command => do
    if (← get).switches.contains .noexec then return
    handleSignals fuel
    match command with
    | .nothing => pure ()
    | .simple line assignments words redirections =>
      let ending ← Run.attempt (evalSimple fuel mode line assignments words redirections)
      if ending.isSkip then checkFailure mode
      Run.resume ending
    | .sequence first second =>
      eval fuel { isTested := mode.isTested } first
      eval fuel mode second
    | .ifOk first second =>
      eval fuel { isTested := true } first
      if (← get).status = 0 then eval fuel mode second
    | .ifFailed first second =>
      eval fuel { isTested := true } first
      if (← get).status ≠ 0 then eval fuel mode second
    | .negation body =>
      eval fuel { isTested := true } body
      modify fun s => s.withStatus (if s.status = 0 then 1 else 0)
    | .pipe inBackground members =>
      let before ← get
      evalPipe fuel mode inBackground members before rooms
    | .background line body redirections =>
      modify fun s => { s with line }
      let targets ← redirections.mapM (expandTarget fun body => outputOf fuel body)
      let ended ← Run.inProcess (fun s => s.enterBackground true) do
        if ← redirect (fun body => outputOf fuel body) targets then evalProcess fuel { isLast := true } body
        else Run.answer 2
      Run.enterJob [ended]
      Run.answer 0
    | .subshell line body redirections =>
      modify fun s => { s with line }
      let targets ← redirections.mapM (expandTarget fun body => outputOf fuel body)
      let run : Run Unit := do
        if ← redirect (fun body => outputOf fuel body) targets then
          evalProcess fuel { mode with isLast := true } body
        else Run.answer 2
      if mode.isLast && !(← get).hasActions then
        run
        Run.stop .exits
      else Run.await [← Run.inProcess id run]
    | .redirected line body redirections =>
      modify fun s => { s with line }
      let targets ← redirections.mapM (expandTarget fun body => outputOf fuel body)
      Run.within (fun before s => { s with descriptors := before.descriptors }) do
        if ← redirect (fun body => outputOf fuel body) targets then
          eval fuel { isTested := mode.isTested } body
        else Run.answer 2
    | .loop untilOk condition body =>
      Run.within (fun before s => { s with loops := before.loops }) do
        modify fun s => { s with loops := s.loops + 1 }
        repeatWhile fuel mode.isTested untilOk condition body 0
    | .forEach line name words body =>
      modify fun s => { s with line }
      let values ← expandWords (fun body => outputOf fuel body) words
      Run.within (fun before s => { s with loops := before.loops }) do
        modify fun s => { s with loops := s.loops + 1 }
        repeatEach fuel mode.isTested name values body 0
    | .branch condition yes no =>
      eval fuel { isTested := true } condition
      if (← get).status = 0 then eval fuel mode yes
      else
        match no with
        | .nothing => Run.answer 0
        | no => eval fuel mode no
    | .choose line word cases =>
      modify fun s => { s with line }
      let t ← expandText (fun body => outputOf fuel body) word
      chooseCase fuel mode t cases
    | .define _ name body =>
      modify fun s =>
        { s with functions := (name, body) :: s.functions.filter (·.1 ≠ name) }.withStatus 0
    handleSignals fuel
    match command with
    | .simple _ _ _ _ | .subshell _ _ _ | .background _ _ _ | .pipe _ _ => checkFailure mode
    | _ => pure ()

/-- Runs a simple command: its words are expanded, then its redirections and its assignments, and what its first word
names is called. -/
def evalSimple : Nat → Mode → Nat → List (Text × Word) → List Word → List Redirection → Run Unit
  | 0, _, _, _, _, _ => exhausted
  | fuel + 1, mode, line, assignments, words, redirections => do
    modify fun s => { s with line, outputStatus := 0 }
    let call ← Invocation.ofWords (fun body => outputOf fuel body) fuel words
    let keepsDescriptors := call.isExec
    let restore (before s : State) : State :=
      { (if call.isApart then giveBack s else s) with descriptors := before.descriptors }
    let before ← get
    let ending ← Run.attempt do
      if call.isApart then modify fun s => { s with saved := [] :: s.saved }
      let targets ← redirections.mapM (expandTarget fun body => outputOf fuel body)
      if ← redirect (fun body => outputOf fuel body) targets then
        let values ← assignments.mapM fun (name, word) => do
          let value ← expandValue (fun body => outputOf fuel body) word
          if call.isApart then Builtin.takeOver true name (some value)
          else
            Run.assign name value
            if call.isExec && !call.args.isEmpty then
              modify fun s => s.putVariable name ((s.binding? name).map fun v => { v with isExported := true })
          return name ++ '=' :: value
        if (← get).switches.contains .xtrace && !(← get).isTracing then
          traceCall fuel before (values ++ call.fields)
        evalCall fuel mode call
      else
        Run.answer 2
        if call.isSpecial = some true then Run.stop .fails
    modify fun s =>
      let descriptors := s.descriptors
      let s := restore before s
      if keepsDescriptors && ending = .proceeds then { s with descriptors } else s
    Run.resume ending

/-- Tells what is about to be called. -/
def traceCall : Nat → State → List Text → Run Unit
  | 0, _, _ => exhausted
  | fuel + 1, before, words => do
    let prompt := (← get).value "PS4"
    let prompt ← match Reader.wordOfText prompt with
      | .error _ => pure prompt
      | .ok word =>
        modify fun s => { s with isTracing := true }
        let t ← expandQuoted (fun body => outputOf fuel body) word
        modify fun s => { s with isTracing := false }
        pure t
    trace before (prompt ++ Text.joinWith [' '] words ++ ['\n'])

/-- Calls what the words of a command name. -/
def evalCall : Nat → Mode → Invocation → Run Unit
  | 0, _, _ => exhausted
  | fuel + 1, mode, call =>
    match call.callee with
    | .nothing => modify fun s => s.withStatus s.outputStatus
    | .function body => do
      let before ← get
      if maxCalls ≤ before.calls then
        Run.fail ("Maximum function recursion depth (" ++ Text.ofNat maxCalls ++ ") reached")
      modify fun s => { s with parameters := call.args, place := {}, loops := 0, calls := before.calls + 1 }
      let ending ← Run.attempt (eval fuel { isTested := mode.isTested } body)
      modify fun s =>
        let { parameters, place, loops, calls, .. } := before
        { s with parameters, place, loops, calls }
      match ending with
      | .returns _ => pure ()
      | ending => Run.resume ending
    | .builtin name => do
      let ending ← Run.attempt (callBuiltin name (evalBuiltin fuel mode name call.args))
      match ending with
      | .fails => if call.isSpecial = some true then Run.stop .fails
      | ending => Run.resume ending
    | .program name => do
      let s ← get
      let (path, s) := if name.contains '/' then (.ok name, s) else s.findProgram call.path? name
      set s
      match path with
      | .error e =>
        let reason : Text := match e with
          | .notFound | .notDirectory => "not found"
          | e => ofText e.description
        modify fun s => (s.warn (name ++ ": " ++ reason)).withStatus 127
      | .ok path =>
        let run := evalProgram fuel path name call.args
        if mode.isLast && !s.hasActions then
          run
          Run.stop .exits
        else Run.await [← Run.inProcess id run]

def evalBuiltin : Nat → Mode → Text → List Text → Run Unit
  | 0, _, _, _ => exhausted
  | fuel + 1, mode, name, args =>
    if name = "eval" then
      if args = [] then Run.answer 0
      else evalText fuel { isTested := mode.isTested } (Text.joinWith [' '] args)
    else if name = "." then do
      match ← Options.none args with
      | [] => Run.answer 0
      | path :: _ => do
        let s ← get
        let found := if path.contains '/' then some path
          else ((s.value "PATH").splitOn ':').findSome? fun directory =>
            let whole := if directory = [] then path else directory ++ '/' :: path
            match s.files.find (toText whole) with
            | .ok (.file _ _) | .ok (.utility _) => some whole
            | _ => none
        match found with
        | none => Run.fail (path ++ ": not found")
        | some path =>
          let t ← Startup.readScript path
          modify fun s => { s with command := some path }
          match ← Run.attempt (evalLines fuel {} true false (Reader.ofText t)) with
          | .returns _ => pure ()
          | ending => Run.resume ending
    else if name = "exec" then do
      match args with
      | [] => Run.answer 0
      | program :: args => do
        let s ← get
        let (path, s) := if program.contains '/' then (.ok program, s) else s.findProgram none program
        set s
        match path with
        | .error e =>
          let (reason, status) := runRefusal e
          modify fun s => (s.warn (program ++ ": " ++ reason)).withStatus status
          Run.stop .exits
        | .ok path =>
          evalProgram fuel path program args
          modify fun s => { s with traps := [], printed := [] }
          Run.stop .exits
    else if name = "command" then describeCommand args
    else plainBuiltin name args

/-- Lets a program take the place of what the process runs. A file that is no program is run by a shell. -/
def evalProgram : Nat → Text → Text → List Text → Run Unit
  | 0, _, _, _ => exhausted
  | fuel + 1, path, name, args => do
    let s ← get
    let load (path name : Text) (args : List Text) : Except Errno Image :=
      Image.load s.files path name args s.exported
    let image := match load path name args with
      | .error .notExecutableFormat => load "/bin/sh" "/bin/sh" (path :: args)
      | image => image
    match image with
    | .ok image => evalImage fuel image
    | .error e =>
      let (reason, status) := runRefusal e
      modify fun s => (s.warn (name ++ ": " ++ reason)).withStatus status

/-- Runs a program in the place of what the process runs. -/
def evalImage : Nat → Image → Run Unit
  | 0, _ => exhausted
  | fuel + 1, image => do
    modify fun s => s.become image
    match image.utility with
    | .shell => evalShell fuel image.args
    | .cat => Program.concatenate image.args
    | .head => Program.head image.args
    | .list => Program.list image.args
    | .exchange => Program.exchange image.args
    | .count => Program.count image.args
    | .echo => Program.echo image.args
    | .sleep => Program.sleep image.args
    | .fail => Run.answer 1
    | .succeed | .foreign => Run.answer 0

/-- Runs a shell from its arguments to its end. -/
def evalShell : Nat → List Text → Run Unit
  | 0, _ => exhausted
  | fuel + 1, args => do
    modify Startup.prepare
    let ending ← Run.attempt do
      let start ← Startup.ofArguments args
      match start.text with
      | some t => evalText fuel { isLast := start.script.isNone } t
      | none => pure ()
      match start.script with
      | some t => evalLines fuel {} true false (Reader.ofText t)
      | none => pure ()
    endShell fuel ending

/-- Runs a command to the end of its process. -/
def evalProcess : Nat → Mode → Command → Run Unit
  | 0, _, _ => exhausted
  | fuel + 1, mode, body => do
    let ending ← Run.attempt (eval fuel mode body)
    endShell fuel ending

/-- Ends a shell; first what it has set for its end is done. -/
def endShell : Nat → Ending → Run Unit
  | 0, _ => exhausted
  | fuel + 1, ending => do
    match ending with
    | .killed n => Run.stop (.killed n)
    | .starves => Run.stop .starves
    | _ =>
      let s ← get
      match s.traps.lookup 0 with
      | none => pure ()
      | some action =>
        let status := s.status
        set { s with traps := s.traps.filter (·.1 ≠ 0), keptStatus := some status, loops := 0 }
        match ← Run.attempt (evalText fuel {} action) with
        | .exits | .fails => pure ()
        | .killed n => Run.stop (.killed n)
        | .starves => Run.stop .starves
        | _ => Run.answer status

/-- Does what is to be done about signals that have arrived. -/
def handleSignals : Nat → Run Unit
  | 0 => pure ()
  | fuel + 1 => do
    let s ← get
    let isDue (signal : Nat × Nat × Nat) : Bool := signal.2.1 == s.process && signal.1 ≤ s.clock
    match (s.machine.signals.filter isDue).map (·.2.2) with
    | [] => pure ()
    | first :: rest =>
      let n := rest.foldl min first
      let signals := s.machine.signals.filter fun signal => !(isDue signal && signal.2.2 == n)
      set { s with machine := { s.machine with signals } }
      if s.ignored.contains n then handleSignals fuel
      else
        match s.traps.lookup n with
        | none => if harmlessSignals.contains n then handleSignals fuel else Run.stop (.killed n)
        | some action => do
          modify fun t => { t with keptStatus := s.keptStatus.or (some s.status) }
          let ending ← Run.attempt (evalText fuel {} action)
          let isBound : Bool := ending = .returns true
          modify fun t =>
            let t : State := { t with keptStatus := s.keptStatus }
            if ending = .exits || ending = .fails || isBound then t else t.withStatus s.status
          Run.resume ending
          handleSignals fuel

/-- Runs a text as part of a script. -/
def evalText : Nat → Mode → Text → Run Unit
  | 0, _, _ => exhausted
  | fuel + 1, mode, t => evalLines fuel mode false false (Reader.ofText t)

/-- Runs the commands of a script line by line. `echoes` says whether lines can be shown as they are read, and
`hasRun` whether there has been a command. -/
def evalLines : Nat → Mode → Bool → Bool → Reader → Run Unit
  | 0, _, _, _, _ => exhausted
  | fuel + 1, mode, echoes, hasRun, reader => do
    let s ← get
    let reader : Reader := { reader with aliases := s.aliases, nextNumber := s.documents.length, documents := [] }
    let echo (t : Text) : Run Unit := do
      if echoes && s.switches.contains .verbose && !t.isEmpty then modify fun s => (s.send 2 t).2
    match reader.nextLine with
    | .error fault =>
      let lines := ((reader.inputs.getLast?.map (·.text)).getD []).splitOn '\n'
      echo (Text.joinWith ['\n'] (lines.take (fault.line + 1 - reader.line)) ++ ['\n'])
      modify fun s => { s with line := fault.line }
      Run.fail ("Syntax error: " ++ fault.message)
    | .ok (command?, next) =>
      echo (consumed reader next)
      modify fun s => { s with documents := next.documents ++ s.documents }
      match command? with
      | none => if !hasRun then Run.answer 0
      | some .nothing => evalLines fuel mode echoes hasRun next
      | some command =>
        modify fun s => { s with readLine := next.line }
        eval fuel { mode with isLast := mode.isLast && next.isAtEnd } command
        modify fun t => { t with readLine := s.readLine }
        evalLines fuel mode echoes true next

/-- What a command prints, without the line ends at its end. -/
def outputOf : Nat → Command → Run Text
  | 0, _ => exhausted
  | fuel + 1, body => do
    match body with
    | .nothing => return []
    | body =>
      let (n, s) := (← get).addStream (.leaving [] 0 none)
      set s
      let status := s.status
      let ended ← Run.inProcess (fun s => s.connect 1 (some n)) (evalProcess fuel { isLast := true } body)
      let pieces := (← get).pieces n
      Run.await [ended]
      modify fun s =>
        { s with outputStatus := s.status, clock := pieces.foldl (fun time p => max time p.time) s.clock
                 : State }.withStatus status
      return Text.dropEndWhile (· == '\n') ((Piece.textOf pieces).filter (· ≠ '\x00'))

/-- Runs the members of a pipe. If the pipes were cut too early, everything is done once more with more room. -/
def evalPipe : Nat → Mode → Bool → List Command → State → List (Option Nat) → Run Unit
  | 0, _, _, _, _, _ => exhausted
  | _, _, _, _, _, [] => exhausted
  | fuel + 1, mode, inBackground, members, before, room :: rooms => do
    set before
    let (result, after) := (evalMembers fuel mode inBackground room members none []).run.run before
    match result with
    | .ok (ended, _) =>
      set after
      if inBackground then
        Run.enterJob ended
        Run.answer 0
      else Run.await ended
    | .error (.starves, streams) =>
      if wasMissed after streams then evalPipe fuel mode inBackground members before rooms
      else
        set after
        Run.stop .starves
    | .error (ending, _) =>
      set after
      Run.stop ending

/-- Runs the members of a pipe one after the other; `input` is the stream that the first of them reads. -/
def evalMembers : Nat → Mode → Bool → Option Nat → List Command → Option Nat → List Nat →
    ExceptT (Ending × List Nat) (StateM State) (List (Status × State) × List Nat)
  | 0, _, _, _, _, _, streams => throw (.killed 9, streams)
  | _, _, _, _, [], _, streams => return ([], streams)
  | fuel + 1, mode, inBackground, room, member :: rest, input, streams => do
    let isLast := rest.isEmpty
    let (n, s) := (← get).addStream (.leaving [] 0 room)
    set s
    let prepare (s : State) : State :=
      let s := if inBackground then s.enterBackground input.isNone else s
      let s := match input with
        | none => s
        | some k => s.connect 0 (some k)
      if isLast then s else s.connect 1 (some n)
    let (result, s) := (Run.inProcess prepare (evalProcess fuel { mode with isLast := true } member)).run.run (← get)
    set s
    match result with
    | .error ending => throw (ending, streams)
    | .ok ended =>
      if isLast then return ([ended], streams)
      else
        let (result, s) := (turnAround n room ended.2.clock).run.run (← get)
        set s
        match result with
        | .error ending => throw (ending, streams)
        | .ok m =>
          let (more, streams) ← evalMembers fuel mode inBackground room rest (some m) (m :: streams)
          return (ended :: more, streams)

/-- Runs the body of the first case with a pattern that matches. -/
def chooseCase : Nat → Mode → Text → List (List Word × Command) → Run Unit
  | 0, _, _, _ => exhausted
  | _, _, _, [] => Run.answer 0
  | fuel + 1, mode, t, ([], _) :: rest => chooseCase fuel mode t rest
  | fuel + 1, mode, t, (pattern :: patterns, body) :: rest => do
    let pattern ← expandPattern (fun body => outputOf fuel body) pattern
    if isMatch pattern t then
      match body with
      | .nothing => Run.answer 0
      | body => eval fuel mode body
    else chooseCase fuel mode t ((patterns, body) :: rest)

/-- Runs the body of a loop as long as its condition allows; `status` is the status of the last round. -/
def repeatWhile : Nat → Bool → Bool → Command → Command → Nat → Run Unit
  | 0, _, _, _, _, _ => exhausted
  | fuel + 1, isTested, untilOk, condition, body, status => do
    let ending ← Run.attempt (eval fuel { isTested := true } condition)
    if ending.isSkip && ending ≠ .returns true then Run.answer status
    match afterRound ending with
    | .error ending => Run.resume ending
    | .ok () =>
      if ending ≠ .proceeds then repeatWhile fuel isTested untilOk condition body status
      else if ((← get).status == 0) == untilOk then Run.answer status
      else
        let ending ← Run.attempt (eval fuel { isTested } body)
        match afterRound ending with
        | .error ending => Run.resume ending
        | .ok () =>
          let status := (← get).status
          repeatWhile fuel isTested untilOk condition body status

/-- Runs the body of a loop for each of some values; `status` is the status of the last round. -/
def repeatEach : Nat → Bool → Text → List Text → Command → Nat → Run Unit
  | 0, _, _, _, _, _ => exhausted
  | _, _, _, [], _, status => Run.answer status
  | fuel + 1, isTested, name, value :: rest, body, _ => do
    Run.assign name value
    let ending ← Run.attempt (eval fuel { isTested } body)
    match afterRound ending with
    | .error ending => Run.resume ending
    | .ok () =>
      let status := (← get).status
      repeatEach fuel isTested name rest body status

end

/-- The greatest number of steps that a command may take in a row. -/
def stepBudget : Nat := 10000000

end BlockHarness.Shell
