import BlockHarness.Shell.Source

/-! Reading scripts: words, tokens and commands. Readings recur on `fuel`, which is larger than any script that is
read with it is deep. -/
namespace BlockHarness.Shell
set_option autoImplicit false

namespace Reading

/-! ## Faults -/

def fault {α : Type} (message : Text) : Reading α := fun r => .error ⟨r.line, message⟩

/-- Says that the last token is out of place, and what was expected if that is known. -/
def unexpected {α : Type} (expected : Option Token) : Reading α := do
  let found := (← get).token.display ++ " unexpected"
  fault (found ++ expected.elim [] fun t => (" (expecting " : Text) ++ t.display ++ [')'])

/-! ## Parameters -/

/-- What follows a dollar sign: the name and the change of a parameter, and the style in which the word that
belongs to it is read. A parameter without a word is whole. -/
structure ParameterStart where
  name : Text
  style : Style
  change? : Option (Word → Change)

/-- The characters of a name from `c` on that fulfil a condition, and the first one behind them. -/
def nameFrom (holds : Char → Bool) : Nat → Text → Option Char → Reader → Text × Option Char × Reader
  | fuel + 1, before, some c, r =>
    if holds c then let (next, r) := r.nextJoined (fuel + 1); nameFrom holds fuel (c :: before) next r
    else (before.reverse, some c, r)
  | _, before, c, r => (before.reverse, c, r)

/-- The change that an operator means, the style of its word, and the reader behind the operator. A character that
is no operator is passed as well. -/
def operatorFrom (fuel : Nat) (style : Style) (name : Text) (c : Option Char) (r : Reader) : ParameterStart × Reader :=
  let unknown : ParameterStart := ⟨name, style, some fun _ => .unknown⟩
  let cut (side : Side) (sign : Char) : ParameterStart × Reader :=
    let (c, r) := r.nextJoined fuel
    if c = some sign then (⟨name, .bare, some (.cut side true)⟩, r)
    else (⟨name, .bare, some (.cut side false)⟩, r.unread c)
  let plain (orEmpty : Bool) (c : Option Char) (r : Reader) : ParameterStart × Reader :=
    match c with
    | some '-' => (⟨name, style, some (.orElse orEmpty)⟩, r)
    | some '+' => (⟨name, style, some (.andThen orEmpty)⟩, r)
    | some '?' => (⟨name, style, some (.orFail orEmpty)⟩, r)
    | some '=' => (⟨name, style, some (.orAssign orEmpty)⟩, r)
    | some '\x7d' => if orEmpty then (unknown, r) else (⟨name, style, none⟩, r)
    | _ => (unknown, r)
  match c with
  | some ':' => let (c, r) := r.nextJoined fuel; plain true c r
  | some '%' => cut .back '%'
  | some '#' => cut .front '#'
  | c => plain false c r

/-- Reads a parameter in braces. -/
def bracedFrom (fuel : Nat) (style : Style) (r : Reader) : ParameterStart × Reader :=
  let (c, r) := r.nextJoined fuel
  let named (c : Option Char) (r : Reader) : Option (Text × Option Char × Reader) :=
    if c.any isNameStart then some (nameFrom isNameChar fuel [] c r)
    else if c.any isDigit then some (nameFrom isDigit fuel [] c r)
    else none
  let length (name : Text) (c : Option Char) (r : Reader) : ParameterStart × Reader :=
    (⟨name, style, some fun _ => if c = some '\x7d' then .length else .unknown⟩, r.unread c)
  let nameless (r : Reader) : ParameterStart × Reader := (⟨[], style, some fun _ => .unknown⟩, r)
  match named c r with
  | some (name, c, r) => operatorFrom fuel style name c r
  | none =>
    let (next, r) := r.nextJoined fuel
    match c with
    | some '\x7d' => nameless ((r.unread next).unread c)
    | some '#' =>
      match named next r with
      | some (name, c, r) => length name c r
      | none =>
        let (behind, r) := r.nextJoined fuel
        if next = some '\x7d' ∨ behind ≠ some '\x7d' then operatorFrom fuel style ['#'] next (r.unread behind)
        else if next.any isSpecialParameter then length next.toList behind r
        else nameless (r.unread behind)
    | c =>
      if c.any isSpecialParameter then operatorFrom fuel style c.toList next r else nameless (r.unread next)

/-- Reads a parameter from the character `c` behind its dollar sign. -/
def parameterFrom (fuel : Nat) (style : Style) (c : Char) (r : Reader) : ParameterStart × Reader :=
  if c = '\x7b' then bracedFrom fuel style r
  else
    let (name, c, r) := if isNameStart c then nameFrom isNameChar fuel [] (some c) r
      else let (next, r) := r.nextJoined fuel; ([c], next, r)
    (⟨name, style, none⟩, r.unread c)

/-! ## Backquotes -/

/-- The text up to the closing backquote, without the backslashes that guard it inside. -/
def backquoted? (isQuoted : Bool) : Nat → Text → Reader → Except SyntaxFault (Text × Reader)
  | 0, _, r => .error ⟨r.line, "EOF in backquote substitution"⟩
  | fuel + 1, before, r =>
    match r.nextJoined (fuel + 1) with
    | (none, r) => .error ⟨r.line, "EOF in backquote substitution"⟩
    | (some '\x60', r) => .ok (before.reverse, r)
    | (some '\\', r) =>
      match r.next with
      | (none, r) => .error ⟨r.line, "EOF in backquote substitution"⟩
      | (some c, r) =>
        if c = '\\' ∨ c = '\x60' ∨ c = '$' ∨ (isQuoted ∧ c = '"') then backquoted? isQuoted fuel (c :: before) r
        else backquoted? isQuoted fuel (c :: '\\' :: before) r
    | (some c, r) =>
      backquoted? isQuoted fuel (c :: before) (if c = '\n' then { r with line := r.line + 1 } else r)

/-! ## Words -/

/-- What comes of reading one character of a word: it goes on with another one, or it is at its end. -/
inductive Step where
  | further (scan : Scan) (c : Option Char) (reader : Reader)
  | finished (scan : Scan) (c : Option Char) (reader : Reader)

/-- Goes on with the next character. -/
def Step.goOn (fuel : Nat) (s : Scan) (r : Reader) : Step :=
  let (c, r) := if s.context.style = .single then r.next else r.nextJoined fuel
  .further s c r

/-- Goes on with the next line, which may be the end of the document that is read. -/
def Step.goOnLine (fuel : Nat) (s : Scan) (c : Option Char) (r : Reader) : Step :=
  match s.purpose with
  | .document d => let (c, r) := r.checkEnd fuel d c; .further s c r
  | _ => .further s c r

/-- Takes a line break, a backslash, a quote, a brace, a bracket or an ordinary character. -/
def plainStep (fuel : Nat) (s : Scan) (c : Char) (r : Reader) : Step :=
  let x := s.context
  let isBare := x.style == .bare
  let isInside := !s.isWord && x.braces = 0
  let goOn (s : Scan) : Step := .goOn fuel s r
  if c = '\n' then
    if isBare ∧ x.braces = 0 then .finished s (some c) r
    else
      let r := { r with line := r.line + 1 }
      let (next, r) := if x.style = .single then r.next else r.nextJoined fuel
      .goOnLine fuel (s.add c) next r
  else if c = '\\' ∧ x.style ≠ .single then
    match r.next with
    | (none, r) => .goOn fuel (s.addGuarded c) r
    | (some d, r) =>
      let keeps := x.isQuoted && d != '\\' && d != '\x60' && d != '$' && (d != '"' || isInside)
        && (d != '\x7d' || x.braces == 0)
      let s := if keeps then s.addGuarded c else s
      .goOn fuel { s.addGuarded d with wasQuoted := true } r
  else if c = '\'' ∧ isBare then
    goOn { s with context := { x with style := .single } }.addMark
  else if c = '"' ∧ isBare then
    goOn { s with context := { x with style := .double, isQuoted := true } }.addDoubleMark
  else if (c = '"' ∧ x.style = .double) ∨ (c = '\'' ∧ x.style = .single) then
    if isInside then goOn (s.add c)
    else
      let x := if x.quotedBraces = 0 then { x with style := .bare, isQuoted := false } else x
      let s := { s with context := x, wasQuoted := true }
      goOn (if c = '"' then s.addDoubleMark else s.addMark)
  else if c = '\x7d' ∧ x.style ≠ .single then
    goOn (if !x.isInnerQuoted && 0 < x.braces then s.closeBrace else s.add c)
  else if x.style = .expression ∧ c = '(' then
    goOn { s.add c with context := { x with brackets := x.brackets + 1 } }
  else if x.style = .expression ∧ c = ')' then
    if 0 < x.brackets then goOn { s.add c with context := { x with brackets := x.brackets - 1 } }
    else
      match r.nextJoined fuel with
      | (some ')', r) => .goOn fuel s.closeFrame.pop r
      | (d, r) => .goOn fuel (s.add c) (r.unread d)
  else if isBare ∧ x.braces = 0 ∧ "<>();&| \t".toList.contains c then .finished s (some c) r
  else goOn (s.add c)

/-- The faults of a word that ends too early. -/
def checkFinished (s : Scan) (r : Reader) : Except SyntaxFault Unit :=
  let fault (message : Text) : Except SyntaxFault Unit := .error ⟨r.line, message⟩
  if s.context.style = .expression then fault "Missing '))'"
  else if s.context.style ≠ .bare ∧ s.isWord then fault "Unterminated quoted string"
  else if s.context.braces ≠ 0 then fault "Missing '\x7d'"
  else .ok ()

/-- The beginning of the redirection of a descriptor, which may be missing, behind `sign`. -/
def redirectionFrom (fuel : Nat) (digit : Option Nat) (sign : Char) (r : Reader) : RedirectionStart × Reader :=
  let (c, behind) := r.nextJoined fuel
  let back := behind.unread c
  if sign = '>' then
    let n := digit.getD 1
    match c with
    | some '>' => (.file n .append, behind)
    | some '|' => (.file n .overwrite, behind)
    | some '&' => (.duplicate n, behind)
    | _ => (.file n .write, back)
  else
    let n := digit.getD 0
    match c with
    | some '<' =>
      match behind.nextJoined fuel with
      | (some '-', behind) => (.document n true, behind)
      | (d, behind) => (.document n false, behind.unread d)
    | some '&' => (.duplicate n, behind)
    | some '>' => (.file n .update, behind)
    | _ => (.file n .read, back)

/-! ## Tokens and commands -/

/-- Takes the last token once more. -/
def again : Reading Unit := modify fun r => { r with isRepeated := true }

/-- Sets what the next word may be. -/
def want (wanted : Wanted) : Reading Unit := modify fun r => { r with wanted }

/-- What a word may be where a command is due. -/
def commandWanted (lines : Bool) : Wanted := { reserved := true, aliases := true, lines }

/-- Remembers a token. -/
def found (t : Token) : Reading Token := do
  modify fun r => { r with token := t }
  return t

mutual

/-- Reads a character of a word. Values and commands in it are read as a whole. -/
def wordStep : Nat → Scan → Char → Reader → Except SyntaxFault Step
  | 0, _, _, r => .error ⟨r.line, "too deep"⟩
  | fuel + 1, s, c, r =>
    let x := s.context
    if c = '$' ∧ x.style ≠ .single then
      match r.nextJoined fuel with
      | (some '(', behind) =>
        if r.wanted.delimiter then .ok (.goOn fuel (s.add c) (behind.unread (some '(')))
        else
          match behind.nextJoined fuel with
          | (some '(', r) =>
            .ok (.goOn fuel ((s.push { style := .expression, isQuoted := true }).openFrame .expression) r)
          | (d, r) =>
            match readOutput fuel (r.unread d) with
            | .error fault => .error fault
            | .ok (body, r) => .ok (.goOn fuel (s.addPart (.output body)) r)
      | (some d, behind) =>
        if r.wanted.delimiter || !(d == '\x7b' || isNameStart d || isSpecialParameter d) then
          .ok (.goOn fuel (s.add c) (behind.unread (some d)))
        else
          let (start, r) := parameterFrom fuel x.style d behind
          .ok (.goOn fuel
            (match start.change? with
              | none => s.addPart (.parameter start.name .keep)
              | some change => s.openBrace start.style start.name change) r)
      | (none, r) => .ok (.goOn fuel (s.add c) r)
    else if c = '\x60' ∧ x.style ≠ .single then
      if r.wanted.delimiter then .ok (.goOn fuel { s.addGuarded c with wasQuoted := true } r)
      else
        match backquoted? x.isQuoted fuel [] r with
        | .error fault => .error fault
        | .ok (t, r) =>
          match readBackquoted fuel t r with
          | .error fault => .error fault
          | .ok (body, r) => .ok (.goOn fuel (s.addPart (.output body)) r)
    else .ok (plainStep fuel s c r)

/-- Reads a word from the character `c` on: the word in the making, and the character behind it. -/
def scanFrom : Nat → Scan → Option Char → Reader → Except SyntaxFault (Scan × Option Char × Reader)
  | 0, _, _, r => .error ⟨r.line, "too deep"⟩
  | _ + 1, s, none, r =>
    match checkFinished s r with
    | .error fault => .error fault
    | .ok () => .ok (s, none, r)
  | fuel + 1, s, some c, r =>
    match wordStep fuel s c r with
    | .error fault => .error fault
    | .ok (.further s c r) => scanFrom fuel s c r
    | .ok (.finished s c r) =>
      match checkFinished s r with
      | .error fault => .error fault
      | .ok () => .ok (s, c, r)

/-- Reads the command in `$(` and `)`. -/
def readOutput : Nat → Reader → Except SyntaxFault (Command × Reader)
  | 0, r => .error ⟨r.line, "too deep"⟩
  | fuel + 1, r => (do
    let outer := (← get).pending
    modify fun r => { r with pending := [] }
    let body ← readList fuel true
    if (← readToken fuel) ≠ .closing then unexpected (some .closing)
    let r ← get
    set { r with inputs := [] }
    readDocuments fuel
    modify fun s => { s with inputs := r.inputs, pending := outer }
    return body : Reading Command) r

/-- Reads the command in a text from backquotes, whose lines are counted on their own. -/
def readBackquoted : Nat → Text → Reader → Except SyntaxFault (Command × Reader)
  | 0, _, r => .error ⟨r.line, "too deep"⟩
  | fuel + 1, t, r => (do
    let r ← get
    set { r with inputs := [⟨t, none⟩], line := 1, pending := [] }
    let body ← readList fuel true
    readDocuments fuel
    modify fun s => { s with inputs := r.inputs, line := r.line, pending := r.pending, isRepeated := false }
    return body : Reading Command) r

def readDocuments : Nat → Reading Unit
  | 0 => fault "too deep"
  | fuel + 1 => do
    let pending := (← get).pending
    modify fun r => { r with pending := [] }
    readEach fuel pending

/-- Reads documents one after the other. -/
def readEach : Nat → List Document → Reading Unit
  | 0, _ => fault "too deep"
  | _, [] => pure ()
  | fuel + 1, d :: rest => do
    let r ← get
    let (c, r) := if d.isLiteral then r.next else r.nextJoined fuel
    let (c, r) := r.checkEnd fuel d c
    match scanFrom fuel (.start (.document d)) c r with
    | .error fault => throw fault
    | .ok (s, _, r) =>
      set { r with documents := (d.number, s.frame.toWord) :: r.documents }
      readEach fuel rest

/-- Reads a token, whatever a word may be. -/
def readRaw : Nat → Reading Token
  | 0 => fault "too deep"
  | fuel + 1 => do
    let r ← get
    if r.isRepeated then
      set { r with isRepeated := false }
      return r.token
    else
      let (c, r) := r.tokenStart fuel
      set r
      let double (second : Char) (two one : Token) : Reading Token := do
        match r.nextJoined fuel with
        | (some d, behind) =>
          if d = second then
            set behind
            found two
          else
            set (behind.unread (some d))
            found one
        | (none, _) => found one
      match c with
      | none => found .ending
      | some '\n' =>
        set { r with line := r.line + 1 }
        found .newline
      | some '&' => double '&' .andIf .background
      | some '|' => double '|' .orIf .bar
      | some ';' => double ';' .caseEnd .semicolon
      | some '(' => found .opening
      | some ')' => found .closing
      | some c =>
        match scanFrom fuel (.start .word) (some c) r with
        | .error fault => throw fault
        | .ok (s, c, r) =>
          let word := s.frame.toWord
          let digit? : Option (Option Nat) :=
            match word with
            | [] => some none
            | [.plain [d]] => if isDigit d then some (some (d.toNat - 48)) else none
            | _ => none
          match c, if s.wasQuoted then none else digit? with
          | some c, some digit =>
            if c ≠ '<' ∧ c ≠ '>' then
              set { r.unread (some c) with word, isQuoted := s.wasQuoted }
              found .word
            else
              let (start, r) := redirectionFrom fuel digit c r
              set { r with redirection := some start }
              found .redirection
          | c, _ =>
            set { r.unread c with word, isQuoted := s.wasQuoted }
            found .word

def readToken : Nat → Reading Token
  | 0 => fault "too deep"
  | fuel + 1 => do
    let wanted := (← get).wanted
    let token ← readRaw fuel
    if wanted.lines && token == .newline then
      readDocuments fuel
      want { wanted with delimiter := false }
      readToken fuel
    else
      let r ← get
      set { r with wanted := {} }
      match if token = .word ∧ ¬ r.isQuoted then r.word.plainText? else none with
      | none => return token
      | some t =>
        if (wanted.reserved || r.wanted.reserved) && reservedWords.contains t then found (.reserved t)
        else
          let isActive := r.inputs.any fun input => input.alias?.any (·.1 == t)
          match if (wanted.aliases || r.wanted.aliases) && !isActive then r.aliases.lookup t else none with
          | none => return token
          | some value =>
            set { r with inputs := if value = [] then r.inputs else ⟨value, some (t, value)⟩ :: r.inputs,
                         wanted := { wanted with aliases := true } }
            readToken fuel

/-- Reads a list of commands; `mayBeEmpty` says whether what ends it may stand at its front. -/
def readList : Nat → Bool → Reading Command
  | 0, _ => fault "too deep"
  | fuel + 1, mayBeEmpty => do
    want (commandWanted true)
    let token ← readToken fuel
    again
    if token = .ending then
      readDocuments fuel
      modify fun r => { r with token := .ending, isRepeated := true }
      return .nothing
    else if mayBeEmpty && token.endsList then return .nothing
    else
      let first ← readItem fuel
      let token := (← get).token
      if token = .ending then
        readDocuments fuel
        modify fun r => { r with token := .ending, isRepeated := true }
        return first
      else if token = .newline ∨ token = .background ∨ token = .semicolon then
        let rest ← readList fuel true
        return (match rest with
          | .nothing => first
          | rest => .sequence first rest)
      else
        again
        return first

/-- Reads one command of a list and the token behind it. -/
def readItem : Nat → Reading Command
  | 0 => fault "too deep"
  | fuel + 1 => do
    let first ← readPipe fuel
    let first ← readConditional fuel first
    match ← readToken fuel with
    | .background =>
      return (match first with
        | .pipe _ members => .pipe true members
        | .redirected line body redirections => .background line body redirections
        | first => .background 0 first [])
    | .newline =>
      again
      return first
    | _ => return first

/-- Reads the pipes that follow one another on condition, behind the first one. -/
def readConditional : Nat → Command → Reading Command
  | 0, _ => fault "too deep"
  | fuel + 1, first => do
    match ← readToken fuel with
    | .andIf =>
      want (commandWanted true)
      let second ← readPipe fuel
      readConditional fuel (.ifOk first second)
    | .orIf =>
      want (commandWanted true)
      let second ← readPipe fuel
      readConditional fuel (.ifFailed first second)
    | _ =>
      again
      return first

/-- Reads a pipe, maybe negated. -/
def readPipe : Nat → Reading Command
  | 0 => fault "too deep"
  | fuel + 1 => do
    if (← readToken fuel) = .reserved "!" then
      want (commandWanted false)
      return .negation (← readMembers fuel)
    else
      again
      readMembers fuel

def readMembers : Nat → Reading Command
  | 0 => fault "too deep"
  | fuel + 1 => do
    let first ← readCommand fuel
    match ← readFurther fuel with
    | [] => return first
    | rest => return .pipe false (first :: rest)

/-- Reads the commands of a pipe behind the first one. -/
def readFurther : Nat → Reading (List Command)
  | 0 => fault "too deep"
  | fuel + 1 => do
    if (← readToken fuel) = .bar then
      want (commandWanted true)
      let command ← readCommand fuel
      return command :: (← readFurther fuel)
    else
      again
      return []

/-- Reads a list and the token that has to follow it. -/
def readUpTo : Nat → Token → Reading Command
  | 0, _ => fault "too deep"
  | fuel + 1, last => do
    let body ← readList fuel false
    if (← readToken fuel) ≠ last then unexpected (some last)
    return body

/-- Reads a branch behind its first word, up to its last one. -/
def readBranch : Nat → Reading Command
  | 0 => fault "too deep"
  | fuel + 1 => do
    let condition ← readUpTo fuel (.reserved "then")
    let yes ← readList fuel false
    match ← readToken fuel with
    | .reserved ['e', 'l', 'i', 'f'] => return .branch condition yes (← readBranch fuel)
    | .reserved ['e', 'l', 's', 'e'] => return .branch condition yes (← readUpTo fuel (.reserved "fi"))
    | .reserved ['f', 'i'] => return .branch condition yes .nothing
    | _ => unexpected (some (.reserved "fi"))

/-- Reads the words of a loop. -/
def readItems : Nat → Reading (List Word)
  | 0 => fault "too deep"
  | fuel + 1 => do
    if (← readToken fuel) = .word then
      let word := (← get).word
      return word :: (← readItems fuel)
    else
      let token := (← get).token
      if token = .newline ∨ token = .semicolon then return [] else unexpected none

/-- Reads a loop over values behind its first word. -/
def readForEach : Nat → Nat → Reading Command
  | 0, _ => fault "too deep"
  | fuel + 1, line => do
    let token ← readToken fuel
    let r ← get
    match if token = .word ∧ ¬ r.isQuoted then r.word.plainText?.filter isName else none with
    | none => fault "Bad for loop variable"
    | some name =>
      want (commandWanted true)
      let words ←
        if (← readToken fuel) = .reserved "in" then readItems fuel
        else
          if (← get).token ≠ .semicolon then again
          pure [[.mark, .parameter "@" .keep, .mark]]
      want (commandWanted true)
      if (← readToken fuel) ≠ .reserved "do" then unexpected (some (.reserved "do"))
      return .forEach line name words (← readUpTo fuel (.reserved "done"))

/-- Reads the patterns of a case; the first one has been read. -/
def readPatterns : Nat → Reading (List Word)
  | 0 => fault "too deep"
  | fuel + 1 => do
    let pattern := (← get).word
    if (← readToken fuel) = .bar then
      let _ ← readToken fuel
      return pattern :: (← readPatterns fuel)
    else if (← get).token = .closing then return [pattern]
    else unexpected (some .closing)

/-- Reads the cases of a choice up to its last word. -/
def readCases : Nat → Reading (List (List Word × Command))
  | 0 => fault "too deep"
  | fuel + 1 => do
    want { reserved := true, lines := true }
    let token ← readToken fuel
    if token = .reserved "esac" then return []
    else
      if token = .opening then let _ ← readToken fuel
      let patterns ← readPatterns fuel
      let body ← readList fuel true
      want { reserved := true, lines := true }
      match ← readToken fuel with
      | .reserved ['e', 's', 'a', 'c'] => return [(patterns, body)]
      | .caseEnd => return (patterns, body) :: (← readCases fuel)
      | _ => unexpected (some .caseEnd)

/-- Reads a choice behind its first word. -/
def readChoice : Nat → Nat → Reading Command
  | 0, _ => fault "too deep"
  | fuel + 1, line => do
    if (← readToken fuel) ≠ .word then unexpected (some .word)
    let word := (← get).word
    want (commandWanted true)
    if (← readToken fuel) ≠ .reserved "in" then unexpected (some (.reserved "in"))
    return .choose line word (← readCases fuel)

/-- Reads a command that is not part of a pipe. -/
def readCommand : Nat → Reading Command
  | 0 => fault "too deep"
  | fuel + 1 => do
    let line := (← get).line
    match ← readToken fuel with
    | .word | .redirection =>
      again
      let line := (← get).line
      readSimple fuel line true [] [] []
    | .opening => do
      let body ← readUpTo fuel .closing
      return .subshell line body (← readRedirections fuel true)
    | .reserved word =>
      let compound ←
        if word = "if" then readBranch fuel
        else if word = "while" ∨ word = "until" then do
          let condition ← readUpTo fuel (.reserved "do")
          pure (.loop (word == "until") condition (← readUpTo fuel (.reserved "done")))
        else if word = "for" then readForEach fuel line
        else if word = "case" then readChoice fuel line
        else if word = "\x7b" then readUpTo fuel (.reserved "\x7d")
        else unexpected none
      match ← readRedirections fuel true with
      | [] => return compound
      | redirections => return .redirected line compound redirections
    | _ => unexpected none

/-- Reads the word of a redirection, whose beginning has been read. -/
def readTarget : Nat → Reading (List Redirection)
  | 0 => fault "too deep"
  | fuel + 1 => do
    let start := (← get).redirection
    let delimiter : Bool := match start with
      | some (.document _ _) => true
      | _ => false
    want { delimiter }
    if (← readToken fuel) ≠ .word then unexpected none
    let r ← get
    match start with
    | none => return []
    | some (.file descriptor opening) => return [.file descriptor opening r.word]
    | some (.duplicate descriptor) => return [.duplicate descriptor r.word]
    | some (.document descriptor trimsTabs) =>
      let d : Document := ⟨r.nextNumber, r.word.literalText, r.isQuoted, trimsTabs⟩
      set { r with pending := r.pending ++ [d], nextNumber := r.nextNumber + 1 }
      return [.document descriptor d.number]

/-- Reads the redirections behind a compound command. Only in front of the first one a word may mean something. -/
def readRedirections : Nat → Bool → Reading (List Redirection)
  | 0, _ => fault "too deep"
  | fuel + 1, isFirst => do
    if isFirst then want (commandWanted false)
    if (← readToken fuel) = .redirection then
      let one ← readTarget fuel
      return one ++ (← readRedirections fuel false)
    else
      again
      return []

/-- Reads the assignments, words and redirections of a simple command, reversed so far. The flag says whether
assignments and aliases are still possible. -/
def readSimple : Nat → Nat → Bool → List (Text × Word) → List Word → List Redirection → Reading Command
  | 0, _, _, _, _, _ => fault "too deep"
  | fuel + 1, line, isFront, assignments, words, redirections => do
    want { aliases := isFront }
    let token ← readToken fuel
    let word := (← get).word
    match token with
    | .word =>
      match if isFront then word.assignment? else none with
      | some assignment => readSimple fuel line isFront (assignment :: assignments) words redirections
      | none => readSimple fuel line false assignments (word :: words) redirections
    | .redirection =>
      let one ← readTarget fuel
      readSimple fuel line isFront assignments words (one ++ redirections)
    | .opening =>
      match words, assignments, redirections with
      | [name], [], [] =>
        if (← readToken fuel) ≠ .closing then unexpected (some .closing)
        match name.plainText?.filter fun name => isName name && !specialCommands.contains name with
        | none => fault "Bad function name"
        | some name =>
          let line := (← get).line
          want (commandWanted true)
          return .define line name (← readCommand fuel)
      | _, _, _ =>
        again
        return .simple line assignments.reverse words.reverse redirections.reverse
    | _ =>
      again
      return .simple line assignments.reverse words.reverse redirections.reverse

end

/-! ## Scripts -/

/-- Reads commands up to the end of a line. Nothing is read at the end of the script. -/
def readLine : Nat → Reading (Option Command)
  | 0 => fault "too deep"
  | fuel + 1 => do
    want (commandWanted false)
    match ← readToken fuel with
    | .newline =>
      readDocuments fuel
      return some .nothing
    | .ending =>
      readDocuments fuel
      modify fun r => { r with token := .ending, isRepeated := true }
      return none
    | _ =>
      again
      let first ← readItem fuel
      let token := (← get).token
      if token = .ending then
        readDocuments fuel
        modify fun r => { r with token := .ending, isRepeated := true }
        return some first
      else if token = .newline ∨ token = .background ∨ token = .semicolon then
        match ← readLine fuel with
        | none | some .nothing => return some first
        | some rest => return some (.sequence first rest)
      else unexpected none

end Reading

namespace Reader

/-- A reader in front of a text. Zero characters in it do not count. -/
def ofText (t : Text) : Reader := { inputs := [⟨t.filter (· ≠ '\x00'), none⟩] }

/-- More than the depth of any reading from here. -/
def depth (r : Reader) : Nat :=
  let lengths := r.inputs.map (·.text.length) ++ r.aliases.map fun a => a.2.length
  64 * (lengths.foldl (· + ·) 0 + 16)

/-- Reads the next line of commands; there is none at the end. -/
def nextLine (r : Reader) : Except SyntaxFault (Option Command × Reader) :=
  Reading.readLine r.depth { r with isRepeated := false, pending := [], wanted := {} }

/-- Whether the last line that was read was ended by the end of the script. -/
def isAtEnd (r : Reader) : Bool := r.isRepeated && r.token == .ending

/-- Reads a text in which values are put in for parameters, as in double quotes. -/
def wordOfText (t : Text) : Except SyntaxFault Word := do
  let r : Reader := ofText t
  let (c, r) := r.nextJoined r.depth
  let (s, _, _) ← Reading.scanFrom r.depth (.start .text) c r
  return s.frame.toWord

end Reader
end BlockHarness.Shell
