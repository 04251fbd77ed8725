import BlockHarness.Shell.Pattern

/-! What the words of a command are expanded to, and the fields that this is split into. Quoted text keeps to itself
until file names are looked for. -/
namespace BlockHarness.Shell
set_option autoImplicit false

/-! ## Chunks -/

/-- A part of an expanded word: text outside quotes, text that stands for itself, a value that is split, and values
that are kept apart by zero characters. -/
inductive Chunk where
  | plain (text : Text)
  | guarded (text : Text)
  | loose (text : Text)
  | listed (text : Text)
  deriving DecidableEq, Repr

namespace Chunk

def text : Chunk → Text
  | .plain t | .guarded t | .loose t | .listed t => t

def pattern : Chunk → Text
  | .plain t | .loose t => t
  | .guarded t | .listed t => guardText t

def textOf (chunks : List Chunk) : Text := chunks.flatMap text

def patternOf (chunks : List Chunk) : Text := chunks.flatMap pattern

end Chunk

/-! ## Fields -/

/-- Fields in the making: the finished ones, last one first, and the chunks of the open one, last one first. The
flag says whether the last split value was a list. -/
structure Fields where
  finished : List (List Chunk) := []
  current : List Chunk := []
  wasListed : Bool := false

namespace Fields

/-- Ends the open field. -/
def close (f : Fields) : Fields := { f with finished := f.current.reverse :: f.finished, current := [] }

/-- A character that separates without being seen. -/
def isBlankSeparator (c : Char) : Bool := c == ' ' || c == '\t' || c == '\n' || c == '\x00'

/-- Passes what belongs to a separator: blanks, and one other separator if the first one was a blank. -/
def skipSeparators (separators : Text) : Bool → Text → Text × Bool
  | isBlankEnd, [] => ([], isBlankEnd)
  | isBlankEnd, c :: rest =>
    if isBlankSeparator c && (c == '\x00' || separators.contains c) then skipSeparators separators isBlankEnd rest
    else if separators.contains c && isBlankEnd then skipSeparators separators false rest
    else (c :: rest, isBlankEnd)

/-- Whether a character separates the fields of a value. -/
def separates (separators : Text) (c : Char) : Bool := c == '\x00' || separators.contains c

/-- Splits a value. -/
def addLoose (separators : Text) : Nat → Fields → Text → Fields
  | 0, f, _ => f
  | _, f, [] => f
  | fuel + 1, f, t =>
    let word := t.takeWhile fun c => !separates separators c
    let f := if word = [] then f else { f with current := .loose word :: f.current }
    match t.drop word.length with
    | [] => f
    | c :: rest =>
      if f.current = [] ∧ isBlankSeparator c then addLoose separators fuel f rest
      else addLoose separators fuel f.close (skipSeparators separators (isBlankSeparator c) rest).1

/-- Splits a value that follows a list: every separator ends a field. -/
def addBehindList (separators : Text) (f : Fields) (t : Text) : Fields :=
  t.foldl (fun f c => if separates separators c then f.close else { f with current := .loose [c] :: f.current }) f

/-- Adds values that are kept apart by zero characters. -/
def addListed (f : Fields) (t : Text) : Fields :=
  match t.splitOn '\x00' with
  | [] => f
  | first :: rest =>
    let add (f : Fields) (t : Text) : Fields :=
      if t = [] then f else { f with current := .guarded t :: f.current }
    rest.foldl (fun f t => add f.close t) (add f first)

def add (separators : Text) (f : Fields) : Chunk → Fields
  | .plain t => if t = [] then f else { f with current := .plain t :: f.current }
  | .guarded t => { f with current := .guarded t :: f.current }
  | .loose t =>
    let f' := if f.wasListed then addBehindList separators f t else addLoose separators (t.length + 1) f t
    { f' with wasListed := false }
  | .listed t => { addListed f t with wasListed := true }

/-- The fields that chunks are split into. -/
def ofChunks (separators : Text) (chunks : List Chunk) : List (List Chunk) :=
  let f := chunks.foldl (add separators) {}
  (if f.current = [] ∧ ¬ f.wasListed then f else f.close).finished.reverse

/-- The texts of a field: the paths that it matches, if any, and else its text. -/
def paths (fs : Files) (keepsWildcards : Bool) (field : List Chunk) : List Text :=
  let isWild := field.any fun chunk =>
    match chunk with
    | .plain t | .loose t => t.any fun c => c == '*' || c == '?' || c == '['
    | _ => false
  let found := if keepsWildcards || !isWild then [] else matchingPaths fs (Chunk.patternOf field)
  if found = [] then [Chunk.textOf field] else found

end Fields

/-! ## Lines -/

/-- The words of a line: runs of characters, and between them single ones that stand for themselves. -/
structure LineFields where
  finished : List Text := []
  current : Text := []
  isBlankEnd : Bool := false
  cut : Option Text := none
  left : Nat

namespace LineFields

/-- Takes the characters of a run; when only one field is left, blanks at its end are cut off. -/
def addRun (separators : Text) : Nat → LineFields → Text → LineFields
  | 0, f, _ => f
  | _, f, [] => f
  | fuel + 1, f, c :: rest =>
    let separates := c == '\x00' || separators.contains c
    let isBlank := separates && Fields.isBlankSeparator c
    if f.left = 0 then
      let keep : LineFields := { f with current := c :: f.current }
      if isBlank then addRun separators fuel { keep with cut := f.cut.or (some f.current) } rest
      else
        let cut := if separates && f.isBlankEnd then f.cut else none
        addRun separators fuel { keep with cut, isBlankEnd := false } rest
    else if !separates then addRun separators fuel { f with current := c :: f.current } rest
    else if f.current = [] ∧ isBlank then addRun separators fuel { f with isBlankEnd := false } rest
    else if f.left = 1 then
      addRun separators fuel
        { f with left := 0, cut := some f.current, current := c :: f.current, isBlankEnd := isBlank } rest
    else
      let (rest, isBlankEnd) := Fields.skipSeparators separators isBlank rest
      addRun separators fuel
        { f with finished := f.current.reverse :: f.finished, current := [], isBlankEnd, left := f.left - 1 } rest

/-- The fields of a line, at most `count` of them. A character with the flag stands for itself. -/
def ofLine (separators : Text) (count : Nat) (line : List (Char × Bool)) : List Text :=
  let rec runs (before : Text) : List (Char × Bool) → List (Text × Option Char)
    | [] => [(before.reverse, none)]
    | (c, true) :: rest => (before.reverse, some c) :: runs [] rest
    | (c, false) :: rest => runs (c :: before) rest
  let f : LineFields := (runs [] line).foldl (fun f (run, single) =>
    let f := addRun separators (run.length + 1) { f with isBlankEnd := false } run
    single.elim f fun c => { f with current := c :: f.current }) { left := count }
  let last := f.cut.getD f.current
  (if last = [] then f.finished else last.reverse :: f.finished).reverse

end LineFields
end BlockHarness.Shell
