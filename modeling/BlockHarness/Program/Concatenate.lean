import BlockHarness.Program.Basic

/-! The program that copies files one after the other, and can make visible what is in them. -/
namespace BlockHarness.Program
set_option autoImplicit false

open Shell (State Run)

namespace Concatenate

/-- How the text is shown: with numbers in front of all lines or of those that are not empty, without repeated empty
lines, with marks at the ends of lines and for tabs, and with letters for what cannot be printed. -/
structure Style where
  numbers : Bool := false
  skipsEmpty : Bool := false
  squeezes : Bool := false
  endMarks : Bool := false
  tabMarks : Bool := false
  letters : Bool := false

namespace Style

def add (s : Style) (c : Char) : Style :=
  match c with
  | 'b' => { s with numbers := true, skipsEmpty := true }
  | 'n' => { s with numbers := true }
  | 's' => { s with squeezes := true }
  | 'E' => { s with endMarks := true }
  | 'T' => { s with tabMarks := true }
  | 'v' => { s with letters := true }
  | 'e' => { s with letters := true, endMarks := true }
  | 't' => { s with letters := true, tabMarks := true }
  | 'A' => { s with letters := true, endMarks := true, tabMarks := true }
  | _ => s

/-- Whether the text is copied as it is. -/
def isPlain (s : Style) : Bool := !(s.numbers || s.squeezes || s.endMarks || s.tabMarks || s.letters)

/-- A character other than the end of a line as it is shown. -/
def char (s : Style) (c : Char) : Text :=
  let low (n : Nat) : Text :=
    if n < 32 then ['^', Char.ofNat (n + 64)] else if n = 127 then "^?" else [Char.ofNat n]
  if c = '\t' then (if s.tabMarks then "^I" else [c])
  else if !s.letters then [c]
  else if c.toNat < 128 then low c.toNat
  else ("M-" : Text) ++ low (c.toNat - 128)

end Style

/-- A place between two characters: the number of the last line, and how many line ends have come in a row; none in
the middle of a line. -/
structure Place where
  line : Nat := 0
  ends : Option Nat := some 0

def lineNumber (n : Nat) : Text :=
  let digits := Text.ofNat n
  List.replicate (6 - digits.length) ' ' ++ digits ++ ['\t']

/-- Shows a text behind the reversed text `before`. -/
def showOnto (s : Style) : Text → Place → Text → Text × Place
  | before, p, [] => (before.reverse, p)
  | before, p, c :: rest =>
    let numbered (isWanted : Bool) : Text × Nat :=
      if isWanted then ((lineNumber (p.line + 1)).reverse, p.line + 1) else ([], p.line)
    if c = '\n' then
      let ends := p.ends.elim 0 (· + 1)
      if 1 < ends ∧ s.squeezes then showOnto s before { p with ends := some 1 } rest
      else
        let (number, line) := numbered (0 < ends && s.numbers && !s.skipsEmpty)
        let mark : Text := if s.endMarks then "$" else []
        showOnto s ('\n' :: mark ++ number ++ before) ⟨line, some ends⟩ rest
    else
      let (number, line) := numbered (p.ends.isSome && s.numbers)
      let isReturn : Bool := s.endMarks && !s.letters && c == '\r' && rest.head? == some '\n'
      let shown : Text := if isReturn then "^M" else s.char c
      showOnto s (shown.reverse ++ number ++ before) ⟨line, none⟩ rest

/-- Copies what can be read from a descriptor. The answer is the reason why that came to an end, and whether
everything could be written. -/
def copy (style : Style) (descriptor : Nat) : Nat → Place → Run (Place × Option Errno × Bool)
  | 0, p => return (p, none, true)
  | fuel + 1, p => do
    match ← Run.receive descriptor (.block 131072) with
    | .error e => return (p, some e, true)
    | .ok [] => return (p, none, true)
    | .ok t =>
      let (t, p) := if style.isPlain then (t, p) else showOnto style [] p t
      match ← Run.send 1 t with
      | none => copy style descriptor fuel p
      | some e =>
        mishap ("write error: " ++ reason e) 1
        return (p, none, false)

/-- Whether a file that is about to be read is the one that is written to. -/
def isOutput (s : State) (descriptor : Nat) : Bool :=
  match s.stream? descriptor, s.stream? 1 with
  | some (_, .file l place _), some (_, .file m _ _) =>
    l == m && (match s.machine.files.at? l with
      | some (.file content _) => place < content.length
      | _ => false)
  | _, _ => false

/-- Copies files one after the other. One that cannot be read is passed over. -/
def copyEach (style : Style) : Place → List Text → Run Unit
  | _, [] => pure ()
  | p, path :: rest => do
    match ← openInput path with
    | .error e =>
      mishap (shown path ++ ": " ++ reason e) 1
      copyEach style p rest
    | .ok descriptor =>
      if isOutput (← get) descriptor then
        closeInput descriptor
        mishap (shown path ++ ": input file is output file") 1
        copyEach style p rest
      else
        let (p, refusal, isWritten) ← copy style descriptor 100000000 p
        closeInput descriptor
        match refusal with
        | some e => mishap (shown path ++ ": " ++ reason e) 1
        | none => pure ()
        if isWritten then copyEach style p rest

def options : Options where
  letters := "benstuvAET"
  words := [⟨"number-nonblank", 'b', .none⟩, ⟨"number", 'n', .none⟩, ⟨"squeeze-blank", 's', .none⟩,
    ⟨"show-nonprinting", 'v', .none⟩, ⟨"show-ends", 'E', .none⟩, ⟨"show-tabs", 'T', .none⟩,
    ⟨"show-all", 'A', .none⟩]

end Concatenate

/-- Copies files one after the other. -/
def concatenate (args : List Text) : Run Unit := do
  let a := Arguments.ofList Concatenate.options args
  match a.fault with
  | some fault => misuse fault 1
  | none =>
    let style : Concatenate.Style := a.options.foldl (fun s o => s.add o.1) {}
    let s ← get
    if (s.stream? 1).isNone then mishap ("standard output: " ++ reason .badDescriptor) 1
    else
      let paths := if a.operands = [] then [['-']] else a.operands
      Concatenate.copyEach style {} paths
      if paths.contains ['-'] && ((← get).stream? 0).isNone then
        mishap ("closing standard input: " ++ reason .badDescriptor) 1

end BlockHarness.Program
