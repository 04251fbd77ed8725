import BlockHarness.Shell.Command

/-! The text of a script on its way to commands: characters, tokens, and words that are being put together. -/
namespace BlockHarness.Shell
set_option autoImplicit false

/-! ## Tokens -/

/-- What a script is made of where no word is being read. -/
inductive Token where
  | ending
  | newline
  | semicolon
  | background
  | andIf
  | orIf
  | bar
  | opening
  | closing
  | caseEnd
  | redirection
  | word
  | reserved (word : Text)
  deriving DecidableEq, Repr

namespace Token

/-- A token as faults name it. -/
def display : Token → Text
  | .ending => "end of file"
  | .newline => "newline"
  | .semicolon => "\";\""
  | .background => "\"&\""
  | .andIf => "\"&&\""
  | .orIf => "\"||\""
  | .bar => "\"|\""
  | .opening => "\"(\""
  | .closing => "\")\""
  | .caseEnd => "\";;\""
  | .redirection => "redirection"
  | .word => "word"
  | .reserved name => ['"'] ++ name ++ ['"']

/-- Whether a token ends a list of commands that may be empty. -/
def endsList : Token → Bool
  | .ending | .closing | .caseEnd => true
  | .reserved name => (["do", "done", "elif", "else", "esac", "fi", "then", "\x7d"] : List Text).contains name
  | _ => false

end Token

/-- What is wrong with a script, and the line on which that shows. -/
structure SyntaxFault where
  line : Nat
  message : Text

/-! ## Readers -/

/-- A text that is being read; one that an alias stands for carries its name. -/
structure Input where
  text : Text
  alias? : Option (Text × Text) := none

/-- A text that is to follow the line: its number, the line that ends it, whether it is taken as it is, and whether
tabs in front of its lines are dropped. -/
structure Document where
  number : Nat
  delimiter : Text := []
  isLiteral : Bool := false
  trimsTabs : Bool := false

/-- What a redirection is without its word: one to a file or to another descriptor, or a document. -/
inductive RedirectionStart where
  | file (descriptor : Nat) (opening : Opening)
  | duplicate (descriptor : Nat)
  | document (descriptor : Nat) (trimsTabs : Bool)

/-- What the next word may be: a reserved word, an alias, or the end of a document; lines may end in front of it. -/
structure Wanted where
  reserved : Bool := false
  aliases : Bool := false
  lines : Bool := false
  delimiter : Bool := false

/-- A place in a script: the texts that are left, innermost first, its line, the last token with its word, the
documents that are due, and those that have been read. -/
structure Reader where
  inputs : List Input
  line : Nat := 1
  aliases : List (Text × Text) := []
  token : Token := .newline
  isRepeated : Bool := false
  word : Word := []
  isQuoted : Bool := false
  redirection : Option RedirectionStart := none
  wanted : Wanted := {}
  pending : List Document := []
  documents : List (Nat × Word) := []
  nextNumber : Nat := 0

/-- A reading of a part of a script. -/
abbrev Reading (α : Type) := StateT Reader (Except SyntaxFault) α

namespace Reader

/-- The next character of some texts, the texts behind it, and whether an alias that ends in a blank was passed. -/
def nextOf : List Input → Option (Char × List Input × Bool)
  | [] => none
  | ⟨c :: rest, alias?⟩ :: more => some (c, ⟨rest, alias?⟩ :: more, false)
  | ⟨[], alias?⟩ :: more =>
    (nextOf more).map fun (c, inputs, passed) =>
      (c, inputs, passed || alias?.any fun (_, value) => value.getLast?.any isBlank)

def next (r : Reader) : Option Char × Reader :=
  match r.inputs with
  | ⟨c :: rest, alias?⟩ :: more => (some c, { r with inputs := ⟨rest, alias?⟩ :: more })
  | inputs =>
    match nextOf inputs with
    | none => (none, r)
    | some (c, inputs, passed) =>
      (some c, { r with inputs, wanted := { r.wanted with aliases := r.wanted.aliases || passed } })

/-- Puts text back in front. -/
def unreadText (r : Reader) (t : Text) : Reader :=
  match r.inputs with
  | [] => { r with inputs := [⟨t, none⟩] }
  | input :: more => { r with inputs := { input with text := t ++ input.text } :: more }

def unread (r : Reader) (c : Option Char) : Reader := r.unreadText c.toList

/-- The next character behind escaped line breaks. -/
def nextJoined : Nat → Reader → Option Char × Reader
  | 0, r => (none, r)
  | fuel + 1, r =>
    match r.next with
    | (some '\\', behind) =>
      match behind.next with
      | (some '\n', behind) => nextJoined fuel { behind with line := behind.line + 1 }
      | (c, behind) => (some '\\', behind.unread c)
    | result => result

/-- The first character of a token, behind blanks and comments. -/
def tokenStart : Nat → Reader → Option Char × Reader
  | 0, r => (none, r)
  | fuel + 1, r =>
    match nextJoined fuel r with
    | (some ' ', r) | (some '\t', r) => tokenStart fuel r
    | (some '#', r) => tokenStart fuel (skipComment fuel r)
    | result => result
where
  /-- Passes everything up to the end of the line. -/
  skipComment : Nat → Reader → Reader
    | 0, r => r
    | fuel + 1, r =>
      match r.next with
      | (none, r) => r
      | (some '\n', r) => r.unread (some '\n')
      | (some _, r) => skipComment fuel r

/-- Compares the line that starts with `c` with the end of a document. If it is the end, nothing follows; otherwise
the line is left as it was. -/
def checkEnd (fuel : Nat) (d : Document) (c : Option Char) (r : Reader) : Option Char × Reader :=
  let (c, r) := if d.trimsTabs then skipTabs fuel c r else (c, r)
  compare d.delimiter [] c r
where
  /-- Passes tabs. -/
  skipTabs : Nat → Option Char → Reader → Option Char × Reader
    | fuel + 1, some '\t', r => let (c, r) := r.next; skipTabs fuel c r
    | _, c, r => (c, r)
  /-- Compares what follows `passed`, which is reversed. -/
  compare : Text → Text → Option Char → Reader → Option Char × Reader
    | [], passed, c, r =>
      if c.all (· == '\n') then (none, { r with line := r.line + 1 }) else restore passed c r
    | d :: delimiter, passed, c, r =>
      if c = some d then let (next, r) := r.next; compare delimiter (d :: passed) next r
      else restore passed c r
  /-- Puts back all but the first character. -/
  restore (passed : Text) (c : Option Char) (r : Reader) : Option Char × Reader :=
    match passed.reverse with
    | [] => (c, r)
    | first :: rest => (some first, r.unreadText (rest ++ c.toList))

end Reader

/-! ## Words in the making -/

/-- How characters are taken: as they are outside quotes, in double or single quotes, or in an expression. -/
inductive Style where
  | bare
  | double
  | single
  | expression
  deriving DecidableEq, Repr

/-- Where a word is being read: in which style, how many braces and brackets are open, and how many of the braces
stand in double quotes. -/
structure Context where
  style : Style
  isInnerQuoted : Bool := false
  wasPushed : Bool := false
  isQuoted : Bool := false
  braces : Nat := 0
  quotedBraces : Nat := 0
  brackets : Nat := 0

/-- What the parts that are being read belong to. -/
inductive Opened where
  | word
  | parameter (name : Text) (change : Word → Change)
  | expression

/-- Parts in the making, last one first, with the text at their end, which is reversed. -/
structure Frame where
  opened : Opened := .word
  parts : List Part := []
  run : Text := []
  isGuarded : Bool := false

namespace Frame

/-- Turns the text at the end into a part. -/
def settle (f : Frame) : Frame :=
  if f.run = [] then f
  else
    let t := f.run.reverse
    { f with parts := (if f.isGuarded then .guarded t else .plain t) :: f.parts, run := [] }

def addChar (f : Frame) (isGuarded : Bool) (c : Char) : Frame :=
  if f.isGuarded = isGuarded then { f with run := c :: f.run }
  else { f.settle with run := [c], isGuarded }

def addPart (f : Frame) (part : Part) : Frame := let f := f.settle; { f with parts := part :: f.parts }

/-- The parts in order. -/
def toWord (f : Frame) : Word := f.settle.parts.reverse

end Frame

/-- What is being read: a word, a text in which only values are put in, or a document. -/
inductive Purpose where
  | word
  | text
  | document (d : Document)

/-- A word in the making. -/
structure Scan where
  purpose : Purpose
  context : Context
  outer : List Context := []
  frame : Frame := {}
  frames : List Frame := []
  wasQuoted : Bool := false

namespace Scan

/-- The beginning of a word, a text or a document. -/
def start (purpose : Purpose) : Scan :=
  match purpose with
  | .word => { purpose, context := { style := .bare } }
  | .document ⟨_, _, true, _⟩ => { purpose, context := { style := .single } }
  | _ => { purpose, context := { style := .double, isQuoted := true } }

/-- Whether a word is being read, in which quotes mean something. -/
def isWord (s : Scan) : Bool := match s.purpose with | .word => true | _ => false

/-- Adds a character in the style at hand. -/
def add (s : Scan) (c : Char) : Scan :=
  { s with frame := s.frame.addChar (s.context.style == .double || s.context.style == .single) c }

/-- Adds a character that stands for itself. -/
def addGuarded (s : Scan) (c : Char) : Scan := { s with frame := s.frame.addChar true c }

def addPart (s : Scan) (part : Part) : Scan := { s with frame := s.frame.addPart part }

/-- Adds a quote, unless quotes mean nothing here. -/
def addMark (s : Scan) : Scan := if s.isWord then s.addPart .mark else s

/-- Adds a double quote, which inside braces may open or close quotes of its own. -/
def addDoubleMark (s : Scan) : Scan :=
  let s := if 0 < s.context.braces then
    { s with context := { s.context with isInnerQuoted := !s.context.isInnerQuoted } } else s
  s.addMark

def push (s : Scan) (context : Context) : Scan := { s with context, outer := s.context :: s.outer }

def pop (s : Scan) : Scan :=
  match s.outer with
  | [] => s
  | context :: outer => { s with context, outer }

def openFrame (s : Scan) (opened : Opened) : Scan :=
  { s with frame := { opened }, frames := s.frame.settle :: s.frames }

def closeFrame (s : Scan) : Scan :=
  match s.frames with
  | [] => s
  | frame :: frames =>
    let word := s.frame.toWord
    let part : Part :=
      match s.frame.opened with
      | .parameter name change => .parameter name (change word)
      | _ => .arithmetic word
    { s with frame := frame.addPart part, frames }

def closeBrace (s : Scan) : Scan :=
  let x := { s.context with braces := s.context.braces - 1 }
  let s := { s with context := x }.closeFrame
  if x.braces = 0 ∧ x.wasPushed then s.pop
  else { s with context := { x with quotedBraces := x.quotedBraces - 1 } }

/-- Opens the braces of a parameter. What stands in them is read in the style `style`. -/
def openBrace (s : Scan) (style : Style) (name : Text) (change : Word → Change) : Scan :=
  let style := if style = .expression then .double else style
  let s :=
    if style ≠ s.context.style ∨ s.context.isInnerQuoted then
      s.push { style, wasPushed := true, isQuoted := style ≠ .bare }
    else s
  let x := s.context
  let quotedBraces := if x.isQuoted then x.quotedBraces + 1 else x.quotedBraces
  { s with context := { x with braces := x.braces + 1, quotedBraces } }.openFrame (.parameter name change)

end Scan
end BlockHarness.Shell
