import BlockHarness.Shell.Arithmetic
import BlockHarness.Shell.Fields
import BlockHarness.World.System

/-! What words come to: values are put in for parameters, expressions and commands, and the result is split into
fields, which become file names. How a command in a word is run is left open here. -/
namespace BlockHarness.Shell
set_option autoImplicit false

/-! ## Parameters -/

/-- How a word is expanded: inside quotes, into fields, with its own text split like values, and with a home
directory for a leading tilde, or for one behind a colon. -/
structure Manner where
  isQuoted : Bool := false
  splits : Bool := false
  breaks : Bool := false
  leads : Bool := false
  colons : Bool := false

namespace State

/-- All parameters as one text, with a zero character between them where they are kept apart. -/
def joinedParameters (s : State) (m : Manner) (name : Char) : Text :=
  let ifs := s.value? "IFS"
  let separator : Text :=
    if m.splits ∧ (if m.isQuoted then name = '@' else ifs.isSome) then ['\x00']
    else match ifs with
      | none => [' ']
      | some separators => separators.take 1
  Text.joinWith separator s.parameters

def parameter? (s : State) (m : Manner) (name : Text) : Option Text :=
  match name with
  | ['$'] => some (Text.ofNat (State.processNumber s.root))
  | ['?'] => some (Text.ofNat s.status)
  | ['#'] => some (Text.ofNat s.parameters.length)
  | ['!'] => s.background.map fun n => Text.ofNat (State.processNumber n)
  | ['-'] => some (Switches.letters s.switches)
  | ['@'] => some (s.joinedParameters m '@')
  | ['*'] => some (s.joinedParameters m '*')
  | _ =>
    match if name.all isDigit then Text.toNat? 10 name else none with
    | some 0 => some s.name
    | some n => s.parameters[n - 1]?
    | none => s.value? name

/-- The home directories that users have. -/
def homes : List (Text × Text) :=
  [("root", accountHome), ("daemon", "/usr/sbin"), ("bin", "/bin"), ("sys", "/dev"), ("nobody", "/nonexistent"),
    ("man", "/var/cache/man"), ("mail", "/var/mail"), ("www-data", "/var/www"), ("games", "/usr/games")]

/-- The directory that a tilde with a name behind it stands for. -/
def homeOf? (s : State) (name : Text) : Option Text := if name = [] then s.value? "HOME" else homes.lookup name

end State

/-! ## Text outside quotes -/

/-- A directory in place of a tilde at the front of a text, if there is one, and the rest. What follows the text has
to leave the name behind the tilde whole. -/
def leadingHome? (s : State) (colons isLast : Bool) (t : Text) : Option (Text × Text) :=
  match t with
  | '~' :: rest =>
    let name := rest.takeWhile fun c => c != '/' && !(colons && c == ':')
    let behind := rest.drop name.length
    if behind = [] ∧ ¬ isLast then none else (s.homeOf? name).map fun home => (home, behind)
  | _ => none

/-- The chunks of a text outside quotes. -/
def plainChunks (s : State) (m : Manner) (isFirst isLast : Bool) (t : Text) : List Chunk :=
  let chunk (t : Text) : List Chunk := if t = [] then [] else [if m.breaks then .loose t else .plain t]
  let piece (mayLead : Bool) (isLast : Bool) (t : Text) : List Chunk :=
    match if mayLead then leadingHome? s m.colons isLast t else none with
    | some (home, rest) => (if home = [] then [] else [Chunk.guarded home]) ++ chunk rest
    | none => chunk t
  if !m.colons then piece (m.leads && isFirst) isLast t
  else
    match t.splitOn ':' with
    | [] => []
    | first :: rest =>
      let count := rest.length
      piece (m.leads && isFirst) (isLast || count ≠ 0) first ++
        rest.zipIdx.flatMap fun (t, n) => chunk [':'] ++ piece true (isLast || n + 1 ≠ count) t

/-! ## Words -/

/-- The chunk of a value: quoted values stand for themselves, and those of all parameters are kept apart. -/
def valueChunk (s : State) (m : Manner) (name t : Text) : Chunk :=
  if !m.isQuoted then .loose t
  else if name = ['@'] ∧ s.parameters ≠ [] ∧ m.splits then .listed t
  else .guarded t

/-- Tells that a parameter has no value. -/
def parameterFault {α : Type} (name message : Text) : Run α := Run.fail (name ++ ": " ++ message)

mutual

def partChunks (run : Command → Run Text) (m : Manner) (isFirst isLast : Bool) : Part → Run (List Chunk)
  | .plain t => return plainChunks (← get) m isFirst isLast t
  | .guarded t => return [.guarded t]
  | .mark => return [.guarded []]
  | .output body => do
    let t ← run body
    return [if m.isQuoted then .guarded t else .loose t]
  | .arithmetic word => do
    let chunks ← wordChunks run {} false true word
    let t := Text.ofInt (← Arithmetic.evaluate (Chunk.textOf chunks))
    return [if m.isQuoted then .guarded t else .loose t]
  | .parameter name change => do
    let s ← get
    changedChunks run m name (s.parameter? m name) change

/-- The chunks of a parameter whose value is `value?`, with what is made of it. -/
def changedChunks (run : Command → Run Text) (m : Manner) (name : Text) (value? : Option Text) :
    Change → Run (List Chunk)
  | .unknown => Run.fail "Bad substitution"
  | .keep => do
    let s ← get
    match value? with
    | some t => return [valueChunk s m name t]
    | none =>
      if s.switches.contains .nounset then parameterFault name "parameter not set"
      else return [valueChunk s m name []]
  | .length => do
    let s ← get
    if value?.isNone && s.switches.contains .nounset then parameterFault name "parameter not set"
    else
      let t := Text.ofNat ((s.parameter? { m with splits := false } name).getD []).length
      return [if m.isQuoted then .guarded t else .loose t]
  | .orElse orEmpty word => do
    let s ← get
    match value?.filter fun t => !(orEmpty && t.isEmpty) with
    | some t => return [valueChunk s m name t]
    | none => wordChunks run { m with leads := true, breaks := !m.isQuoted } false true word
  | .andThen orEmpty word => do
    let s ← get
    if (value?.filter fun t => !(orEmpty && t.isEmpty)).isSome then
      wordChunks run { m with leads := true, breaks := !m.isQuoted } false true word
    else return [valueChunk s m name []]
  | .orAssign orEmpty word => do
    let s ← get
    match value?.filter fun t => !(orEmpty && t.isEmpty) with
    | some t => return [valueChunk s m name t]
    | none =>
      let chunks ← wordChunks run { leads := true } false true word
      Run.assign name (Chunk.textOf chunks)
      let s ← get
      return [valueChunk s m name ((s.parameter? m name).getD [])]
  | .orFail orEmpty word => do
    let s ← get
    match value?.filter fun t => !(orEmpty && t.isEmpty) with
    | some t => return [valueChunk s m name t]
    | none =>
      let chunks ← wordChunks run { leads := true } false true word
      parameterFault name <|
        if word.isEmpty then (if orEmpty then "parameter not set or null" else "parameter not set")
        else Chunk.textOf chunks
  | .cut side longest pattern => do
    let s ← get
    match value? with
    | none =>
      if s.switches.contains .nounset then parameterFault name "parameter not set"
      else return [valueChunk s m name []]
    | some t =>
      let chunks ← wordChunks run { leads := true } false true pattern
      return [valueChunk s m name (cutMatch side longest (Chunk.patternOf chunks) t)]

/-- The chunks of a word. `inQuotes` says whether a quote is open in front of it. -/
def wordChunks (run : Command → Run Text) (m : Manner) (inQuotes isFirst : Bool) : List Part → Run (List Chunk)
  | [] => return []
  | .mark :: .parameter ['@'] .keep :: .mark :: rest => do
    let m' : Manner := { m with isQuoted := true }
    if inQuotes then
      let s ← get
      let chunks : List Chunk :=
        [.guarded [], valueChunk s m ['@'] ((s.parameter? m "@").getD []), .guarded []]
      return chunks ++ (← wordChunks run m inQuotes false rest)
    else
      let s ← get
      let chunk := valueChunk s m' ['@'] ((s.parameter? m' "@").getD [])
      let chunks : List Chunk := if s.parameters = [] ∧ m.splits then [] else [chunk]
      return chunks ++ (← wordChunks run m inQuotes false rest)
  | .mark :: rest => do
    let chunks ← wordChunks run m (!inQuotes) false rest
    return .guarded [] :: chunks
  | part :: rest => do
    let chunks ← partChunks run { m with isQuoted := m.isQuoted || inQuotes } isFirst rest.isEmpty part
    return chunks ++ (← wordChunks run m inQuotes false rest)

end

/-! ## Results -/

def expandWord (run : Command → Run Text) (word : Word) : Run (List Text) := do
  let chunks ← wordChunks run { splits := true, leads := true } false true word
  let s ← get
  return (Fields.ofChunks s.separators chunks).flatMap
    (Fields.paths s.files (s.switches.contains .noglob))

def expandWords (run : Command → Run Text) (words : List Word) : Run (List Text) := do
  return (← words.mapM (expandWord run)).flatten

/-- The text of a word that stays one. -/
def expandText (run : Command → Run Text) (word : Word) : Run Text := do
  return Chunk.textOf (← wordChunks run { leads := true } false true word)

/-- The text of a value, in which home directories can stand behind colons too. -/
def expandValue (run : Command → Run Text) (word : Word) : Run Text := do
  return Chunk.textOf (← wordChunks run { leads := true, colons := true } false true word)

/-- The text of a document, or of a text in which only values are put in. -/
def expandQuoted (run : Command → Run Text) (word : Word) : Run Text := do
  return Chunk.textOf (← wordChunks run { isQuoted := true } false true word)

def expandPattern (run : Command → Run Text) (word : Word) : Run Text := do
  return Chunk.patternOf (← wordChunks run { leads := true } false true word)

end BlockHarness.Shell
