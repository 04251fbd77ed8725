import BlockHarness.Shell.Option

/-! The commands of the shell that change and tell the current directory. A shell remembers the path by which it has
come to a directory. -/
namespace BlockHarness.Shell.Builtin
set_option autoImplicit false

/-- The path that leads from a path along another one, without names that lead back. -/
def pathFrom (here path : Text) : Text :=
  let (start, path) : Text × Text :=
    match path with
    | '/' :: '/' :: '/' :: _ => (['/'], path)
    | '/' :: '/' :: rest => (['/', '/'], rest)
    | '/' :: rest => (['/'], rest)
    | _ => if here.take 2 = ['/', '/'] then (['/', '/'], here ++ '/' :: path) else (['/'], here ++ '/' :: path)
  let names := (path.splitOn '/').foldl (fun (names : List Text) name =>
    if Path.isIdle name then names
    else if name = ['.', '.'] then names.drop 1
    else name :: names) []
  start ++ Text.joinWith ['/'] names.reverse

/-- Goes to a directory by a path. -/
def goTo (path : Text) (isPhysical : Bool) : Run Bool := do
  let s ← get
  let target := if isPhysical then path else pathFrom s.workingPath path
  match s.files.resolve false (toText target) with
  | .error _ => return false
  | .ok l =>
    if s.files.isDirectory l then
      let s : State := { s with directory := l }
      let path := if isPhysical then s.physicalPath else target
      let before := s.workingPath
      set { s with workingPath := path }
      Run.assign "OLDPWD" before
      Run.assign "PWD" path
      let expose (s : State) (name : Text) : State :=
        s.putVariable name ((s.binding? name).map fun v => { v with isExported := true })
      modify fun s => expose (expose s "OLDPWD") "PWD"
      return true
    else return false

/-- The directories in which a relative path is looked for, as they are written. -/
def searchedDirectories (s : State) (path : Text) : List Text :=
  let isPlain : Bool :=
    match path with
    | '/' :: _ => true
    | ['.'] | '.' :: '/' :: _ | ['.', '.'] | '.' :: '.' :: '/' :: _ => true
    | _ => false
  if isPlain then [] else ((s.value? "CDPATH").getD []).splitOn ':'

/-- Changes the current directory. -/
def cd (args : List Text) : Run Unit := do
  let o ← Options.read "LP" args
  let isPhysical := o.last? = some 'P'
  let s ← get
  let (path, isTold) : Text × Bool :=
    match o.args with
    | [] => (s.value "HOME", false)
    | ['-'] :: _ => (s.value "OLDPWD", true)
    | path :: _ => (path, false)
  let path := if path = [] then ['.'] else path
  let isDirectory (path : Text) : Bool :=
    match s.files.find (toText path) with
    | .ok .directory => true
    | _ => false
  let found := (searchedDirectories s path).findSome? fun directory =>
    let whole := if directory = [] then path else directory ++ '/' :: path
    if isDirectory whole then some (whole, !directory.isEmpty) else none
  let (target, isElsewhere) := found.getD (path, false)
  if ← goTo target isPhysical then
    if isTold || isElsewhere then Run.print ((← get).workingPath ++ ['\n'])
    Run.answer 0
  else Run.fail ("can't cd to " ++ path)

/-- Tells the current directory. -/
def pwd (args : List Text) : Run Unit := do
  let o ← Options.read "LP" args
  let s ← get
  Run.print ((if o.last? = some 'P' then s.physicalPath else s.workingPath) ++ ['\n'])
  Run.answer 0

end BlockHarness.Shell.Builtin
