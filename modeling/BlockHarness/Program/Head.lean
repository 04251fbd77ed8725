import BlockHarness.Program.Basic

/-! The program that copies the beginning of files: so many lines or octets, or all but so many. What it has not used
of its input can be read by others, as far as that is possible. -/
namespace BlockHarness.Program
set_option autoImplicit false

open Shell (State Run)

namespace Head

/-- How much of a file is copied, and what ends its lines. -/
structure Amount where
  count : Nat := 10
  byLines : Bool := true
  butLast : Bool := false
  lineEnd : Char := '\n'

namespace Amount

/-- The length of the first `n` lines. -/
def linesLength (lineEnd : Char) : Nat → Nat → Text → Nat
  | 0, length, _ => length
  | _, length, [] => length
  | n + 1, length, c :: rest =>
    if c = lineEnd then linesLength lineEnd n (length + 1) rest
    else linesLength lineEnd (n + 1) (length + 1) rest

/-- The number of characters of a text that are copied. -/
def length (a : Amount) (t : Text) : Nat :=
  if a.byLines then
    let lines := t.count a.lineEnd + (if t.getLast?.any (· ≠ a.lineEnd) then 1 else 0)
    linesLength a.lineEnd (if a.butLast then lines - a.count else a.count) 0 t
  else if a.butLast then t.length - a.count
  else a.count

end Amount

/-- What is asked for: the amount, and when files have titles. -/
structure Request where
  amount : Amount := {}
  titles : Option Bool := none

/-- Reads a number of lines or octets, with a unit. -/
def countOf? (t : Text) : Except Text Nat :=
  let body := t.dropWhile Shell.isSpace
  let body := match body with
    | '+' :: rest => rest
    | body => body
  let digits := body.takeWhile Shell.isDigit
  let behind := body.drop digits.length
  let digits : Text := if digits = [] ∧ behind ≠ [] ∧ (unitOf? behind).isSome ∧ body = t then "1" else digits
  match Text.toNat? 10 digits, unitOf? behind with
  | some n, some factor =>
    if 18446744073709551615 < n * factor then .error ": Value too large for defined data type" else .ok (n * factor)
  | _, _ => .error []

/-- Applies the options in order; an amount that is no number ends the program. -/
def applyOptions : List (Char × Option Text) → Request → Except Text Request
  | [], r => .ok r
  | (c, value) :: rest, r =>
    if c = 'n' ∨ c = 'c' then
      let value := value.getD []
      let (butLast, number) : Bool × Text :=
        match value with
        | '-' :: number => (true, number)
        | number => (false, number)
      match countOf? number with
      | .ok count =>
        applyOptions rest { r with amount := { r.amount with count, byLines := c = 'n', butLast } }
      | .error detail =>
        .error ((if c = 'n' then ("invalid number of lines: " : Text) else "invalid number of bytes: ") ++
          quoted number ++ detail)
    else if c = 'q' then applyOptions rest { r with titles := some false }
    else if c = 'v' then applyOptions rest { r with titles := some true }
    else applyOptions rest { r with amount := { r.amount with lineEnd := '\x00' } }

def options : Options where
  letters := "c:n:qvz0123456789"
  words := [⟨"bytes", 'c', .required⟩, ⟨"lines", 'n', .required⟩, ⟨"quiet", 'q', .none⟩, ⟨"silent", 'q', .none⟩,
    ⟨"verbose", 'v', .none⟩, ⟨"zero-terminated", 'z', .none⟩]

/-- The options that a number behind a dash stands for, with letters behind it, or what is wrong with them. -/
def oldOptions (t : Text) : Except Text (List (Char × Option Text)) :=
  let digits := t.takeWhile Shell.isDigit
  let rec read (byLines : Bool) (factor : Text) (more : List (Char × Option Text)) :
      Text → Except Text (List (Char × Option Text))
    | [] => .ok ((if byLines then 'n' else 'c', some (digits ++ factor)) :: more)
    | 'c' :: rest => read false factor more rest
    | 'b' :: rest => read false "b" more rest
    | 'k' :: rest => read false "k" more rest
    | 'm' :: rest => read false "m" more rest
    | 'l' :: rest => read true factor more rest
    | 'q' :: rest => read byLines factor (('q', none) :: more) rest
    | 'v' :: rest => read byLines factor (('v', none) :: more) rest
    | 'z' :: rest => read byLines factor (('z', none) :: more) rest
    | c :: _ => .error ("invalid trailing option -- " ++ [c])
  read true [] [] (t.drop digits.length)

/-- Reads blocks until they hold the lines that are asked for. -/
def readLines (a : Amount) (descriptor : Nat) : Nat → Text → Run (Except Errno Text)
  | 0, t => return .ok t
  | fuel + 1, t => do
    if a.count ≤ t.count a.lineEnd then return .ok t
    else
      match ← Run.receive descriptor (.block 8192) with
      | .error e => return .error e
      | .ok [] => return .ok t
      | .ok more => readLines a descriptor fuel (t ++ more)

/-- The beginning of what can be read from a descriptor. What was read too much of a file is given back to it. -/
def take (a : Amount) (descriptor : Nat) : Run (Except Errno Text) := do
  let before ← get
  let result ←
    if a.butLast then Run.receive descriptor .all
    else if a.byLines then readLines a descriptor 100000000 []
    else if a.count = 0 then pure (.ok [])
    else Run.receive descriptor (.upTo a.count)
  match result with
  | .error e => return .error e
  | .ok t =>
    let taken := t.take (a.length t)
    match before.stream? descriptor with
    | some (n, .file l place access) => modify fun s => s.setStream n (.file l (place + taken.length) access)
    | _ => pure ()
    return .ok taken

/-- Copies the beginnings of files; `isFirst` says whether no title has been written. -/
def copyEach (r : Request) (hasTitles isFirst : Bool) : List Text → Run Unit
  | [] => pure ()
  | path :: rest => do
    let name : Text := if path = ['-'] then "standard input" else path
    match ← openInput path with
    | .error e =>
      mishap (("cannot open " : Text) ++ shellQuoted path ++ " for reading: " ++ reason e) 1
      copyEach r hasTitles isFirst rest
    | .ok descriptor =>
      if hasTitles then Run.print ((if isFirst then [] else ['\n']) ++ "==> " ++ name ++ " <==\n")
      match ← take r.amount descriptor with
      | .error e => mishap (("error reading " : Text) ++ shellQuoted name ++ ": " ++ reason e) 1
      | .ok t => Run.print t
      closeInput descriptor
      copyEach r hasTitles false rest

end Head

/-- Copies the beginning of files. -/
def head (args : List Text) : Run Unit := do
  let isOld (t : Text) : Bool := t.head? == some '-' && (t.drop 1).head?.any Shell.isDigit
  let (old, args) : Except Text (List (Char × Option Text)) × List Text :=
    match args with
    | first :: rest => if isOld first then (Head.oldOptions (first.drop 1), rest) else (.ok [], args)
    | [] => (.ok [], [])
  match old with
  | .error fault => misuse fault 1
  | .ok old =>
    let a := Arguments.ofList Head.options args
    let isDigitOption (o : Char × Option Text) : Bool := Shell.isDigit o.1
    match Head.applyOptions (old ++ a.options.takeWhile fun o => !isDigitOption o) {} with
    | .error fault => mishap fault 1
    | .ok r =>
      match a.options.find? isDigitOption, a.fault with
      | some o, _ => misuse ("invalid trailing option -- " ++ [o.1]) 1
      | none, some fault => misuse fault 1
      | none, none =>
        let paths := if a.operands = [] then [['-']] else a.operands
        Head.copyEach r (r.titles.getD (1 < paths.length)) true paths
        finish

end BlockHarness.Program
