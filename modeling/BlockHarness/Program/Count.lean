import BlockHarness.Program.Basic

/-! The program that counts the lines, words and octets of files. -/
namespace BlockHarness.Program
set_option autoImplicit false

open Shell (State Run)

namespace Count

/-- What is counted of a text: lines, words, octets, and the width of the widest line. -/
structure Counts where
  lines : Nat := 0
  words : Nat := 0
  octets : Nat := 0
  width : Nat := 0

/-- A count in the making: the width of the open line, and whether a word is open. -/
structure Counting where
  counts : Counts := {}
  column : Nat := 0
  inWord : Bool := false

/-- Counts a character. One that cannot be printed neither begins nor ends a word. -/
def Counting.add (k : Counting) (c : Char) : Counting :=
  let counts := { k.counts with octets := k.counts.octets + 1 }
  let endWord (counts : Counts) : Counts := { counts with words := counts.words + (if k.inWord then 1 else 0) }
  if c = '\n' ∨ c = '\r' ∨ c = '\x0c' then
    let lines := counts.lines + (if c = '\n' then 1 else 0)
    ⟨endWord { counts with lines, width := max counts.width k.column }, 0, false⟩
  else if c = '\t' then ⟨endWord counts, k.column + (8 - k.column % 8), false⟩
  else if c = ' ' then ⟨endWord counts, k.column + 1, false⟩
  else if c = '\x0b' then ⟨endWord counts, k.column, false⟩
  else if Shell.isVisible c then ⟨counts, k.column + 1, true⟩
  else { k with counts }

def ofText (t : Text) : Counts :=
  let k := t.foldl Counting.add {}
  { k.counts with words := k.counts.words + (if k.inWord then 1 else 0), width := max k.counts.width k.column }

def Counts.add (a b : Counts) : Counts :=
  ⟨a.lines + b.lines, a.words + b.words, a.octets + b.octets, max a.width b.width⟩

/-- The numbers that are asked for, in the order in which they are shown. -/
def Counts.numbers (letters : Text) (c : Counts) : List Nat :=
  let pick (letter : Char) (n : Nat) : List Nat := if letters.contains letter then [n] else []
  pick 'l' c.lines ++ pick 'w' c.words ++ pick 'm' c.octets ++ pick 'c' c.octets ++ pick 'L' c.width

/-- A line of numbers with a name behind them. -/
def line (width : Nat) (numbers : List Nat) (name : Option Text) : Text :=
  let padded (n : Nat) : Text :=
    let digits := Text.ofNat n
    List.replicate (width - digits.length) ' ' ++ digits
  Text.joinWith [' '] (numbers.map padded) ++ name.elim [] (' ' :: ·) ++ ['\n']

/-- The size of the file behind a path, if it is one that has a size; none if there is nothing. -/
def sizeOf? (s : State) (path : Option Text) : Option (Option Nat) :=
  let ofEntry : Option Entry → Option (Option Nat)
    | some (.file content _) => some (some content.length)
    | some (.utility _) => some (some programImage.length)
    | some _ => some none
    | none => none
  match path with
  | none | some ['-'] =>
    match s.stream? 0 with
    | some (_, .file l _ _) => ofEntry (s.machine.files.at? l)
    | some _ => some none
    | none => none
  | some path =>
    match s.files.find (Shell.toText path) with
    | .ok entry => ofEntry (some entry)
    | .error _ => none

/-- The width of numbers: that of the sum of all sizes, or a fixed one where a size is not known beforehand. -/
def widthFor (s : State) (paths : List (Option Text)) : Nat :=
  let sizes := paths.filterMap (sizeOf? s)
  let total := sizes.foldl (fun n size => n + size.getD 0) 0
  max (if sizes.any (·.isNone) then 7 else 1) (Text.ofNat total).length

/-- When a line with sums is shown: where there are several files, always, never, or alone. -/
inductive Totals where
  | automatic
  | always
  | never
  | only
  deriving DecidableEq, Repr

/-- The words that say when sums are shown. -/
def totalWords : Words Totals :=
  [(["auto"], .automatic), (["always"], .always), (["only"], .only), (["never"], .never)]

def options : Options where
  letters := "clLmw"
  words := [⟨"bytes", 'c', .none⟩, ⟨"chars", 'm', .none⟩, ⟨"lines", 'l', .none⟩, ⟨"words", 'w', .none⟩,
    ⟨"max-line-length", 'L', .none⟩, ⟨"total", 'T', .required⟩]

end Count

/-- Counts the lines, words and octets of files. -/
def count (args : List Text) : Run Unit := do
  let a := Arguments.ofList Count.options args
  match a.fault, (a.value? 'T').elim (.ok .automatic) (meaning "--total" Count.totalWords) with
  | some fault, _ | none, .error fault => misuse fault 1
  | none, .ok totals =>
    let letters := (a.options.map (·.1)).filter (· ≠ 'T')
    let letters : Text := if letters = [] then "lwc" else letters
    let kinds := "lwmcL".toList.filter letters.contains
    let paths : List (Option Text) := if a.operands = [] then [none] else a.operands.map some
    let s ← get
    let width := if paths.length = 1 ∧ kinds.length = 1 then 1 else Count.widthFor s paths
    let total ← paths.foldlM (fun (total : Count.Counts) path => do
      let name := path.getD ['-']
      let tell (counts : Count.Counts) : Run Unit :=
        if totals = .only then pure () else Run.print (Count.line width (counts.numbers letters) path)
      match ← openInput name with
      | .error e =>
        mishap (shown name ++ ": " ++ reason e) 1
        return total
      | .ok descriptor =>
        let result ← Run.receive descriptor .all
        closeInput descriptor
        match result with
        | .error e =>
          mishap (shown (path.getD "standard input") ++ ": " ++ reason e) 1
          tell {}
          return total
        | .ok t =>
          tell (Count.ofText t)
          return total.add (Count.ofText t)) {}
    if totals = .only then Run.print (Count.line 1 (total.numbers letters) none)
    else if totals = .always ∨ (totals = .automatic ∧ 1 < paths.length) then
      Run.print (Count.line width (total.numbers letters) (some "total"))
    match ← flush with
    | none => pure ()
    | some .badDescriptor => mishap ("write error: " ++ reason .badDescriptor) 1
    | some _ => mishap "write error" 1

end BlockHarness.Program
