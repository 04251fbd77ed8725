import BlockHarness.Toml.Quotation
import BlockHarness.Toml.Word

/-! TOML documents. Lines are taken one after the other into the table that the last header has opened; that table
joins the document when the next header comes, so a table stands where its own header put it. -/
namespace BlockHarness.Toml
set_option autoImplicit false

/-! ## Line ends -/

/-- Passes a comment up to its line break. -/
def skipComment : Text → Text
  | '#' :: rest => rest.dropWhile isPrintable
  | t => t

/-- Passes blanks, a comment and the line break; the end of the text ends a line, too. -/
def endLine? (t : Text) : Option Text :=
  match skipComment (skipBlanks t) with
  | [] => some []
  | t => readBreak? t

/-- Passes blanks, comments and line breaks, as they may stand between the items of a list. -/
def skipSpace : Nat → Text → Text
  | 0, t => t
  | fuel + 1, t =>
    match readBreak? (skipComment (skipBlanks t)) with
    | some rest => skipSpace fuel rest
    | none => skipBlanks t

/-! ## Keys -/

/-- A character of a key without quotes. -/
def isKeyChar (c : Char) : Bool :=
  isDigit c || ('A' ≤ c && c ≤ 'Z') || ('a' ≤ c && c ≤ 'z') || c == '_' || c == '-'

def readKeyPart? (t : Text) : Option (Text × Text) :=
  if t.head? = some '"' ∨ t.head? = some '\'' then readQuoted? false t
  else
    let name := t.takeWhile isKeyChar
    if name = [] then none else some (name, t.drop name.length)

/-- The greatest depth of nesting: a key has fewer parts, and a value stands in fewer brackets. -/
def maxDepth : Nat := 80

/-- Reads a key of at most `fuel` parts with points between them and blanks around each. -/
def readKey? : Nat → Text → Option (List Text × Text)
  | 0, _ => none
  | fuel + 1, t =>
    match readKeyPart? (skipBlanks t) with
    | none => none
    | some (part, rest) =>
      match skipBlanks rest with
      | '.' :: rest => (readKey? fuel rest).map fun (parts, rest) => (part :: parts, rest)
      | rest => some ([part], rest)

/-- Reads a key and the equality sign behind it; the last part is given apart. -/
def readKeyOfValue? (t : Text) : Option (List Text × Text × Text) :=
  match readKey? (maxDepth - 1) t with
  | some (parts, '=' :: rest) => parts.getLast?.map fun key => (parts.dropLast, key, skipBlanks rest)
  | _ => none

/-! ## Values -/

/-- Reads the items of a list behind its opening bracket, given a reader for values; items before are reversed. -/
def readItems? (value? : Text → Option (Value × Text)) : Nat → List Value → Text → Option (Value × Text)
  | 0, _, _ => none
  | fuel + 1, before, t =>
    match skipSpace (fuel + 1) t with
    | ']' :: rest => some (.list before.reverse, rest)
    | t =>
      match value? t with
      | none => none
      | some (item, rest) =>
        match skipSpace (fuel + 1) rest with
        | ',' :: rest => readItems? value? fuel (item :: before) rest
        | ']' :: rest => some (.list (item :: before).reverse, rest)
        | _ => none

/-- Reads the entries of a table in braces behind those in `entries`, given a reader for values. -/
def readInline? (value? : Text → Option (Value × Text)) : Nat → Entries → Text → Option (Value × Text)
  | 0, _, _ => none
  | fuel + 1, entries, t =>
    match readKeyOfValue? t with
    | none => none
    | some (path, key, rest) =>
      match value? rest with
      | none => none
      | some (value, rest) =>
        match entries.addDotted? .braces path key value, skipBlanks rest with
        | some entries, ',' :: rest => readInline? value? fuel entries rest
        | some entries, '\x7d' :: rest => some (.table .braces entries, rest)
        | _, _ => none

/-- Reads a value inside fewer than `depth` brackets. -/
def readValue? : Nat → Text → Option (Value × Text)
  | 0, _ => none
  | depth + 1, t =>
    match t with
    | '"' :: _ => (readQuoted? true t).map fun (text, rest) => (.text text, rest)
    | '\'' :: _ => (readQuoted? true t).map fun (text, rest) => (.text text, rest)
    | '[' :: rest => if depth = 0 then none else readItems? (readValue? depth) (rest.length + 1) [] rest
    | '\x7b' :: rest =>
      if depth = 0 then none
      else
        match skipBlanks rest with
        | '\x7d' :: rest => some (.table .braces [], rest)
        | _ => readInline? (readValue? depth) (rest.length + 1) [] rest
    | _ => readWord? t

/-! ## Lines -/

/-- A document so far: the finished tables, and the open one with the path and kind of its header. -/
structure Builder where
  root : Entries := []
  path : List Text := []
  repeats : Bool := false
  entries : Entries := []

namespace Builder

/-- Puts the open table in its place. -/
def close? (b : Builder) : Option Entries :=
  match b.path.getLast? with
  | none => some b.entries
  | some key =>
    b.root.changeAt? false (fun _ es =>
      match b.repeats, es.lookup key with
      | false, none => some (es ++ [(key, .table .header b.entries)])
      | true, none => some (es ++ [(key, .tables [b.entries])])
      | true, some (.tables items) => some (es.replace key (.tables (items ++ [b.entries])))
      | _, _ => none) b.path.dropLast .header

/-- The entries of the table at a path that only headers of inner tables have made so far; there are none if it is
not there. Any other value at the path is refused. -/
def adopted? : List Text → Entries → Option Entries
  | [], es => some es
  | key :: path, es =>
    match es.lookup key with
    | none => some []
    | some (.table origin inner) =>
      if origin = .braces ∨ (path = [] ∧ origin ≠ .innerHeader) then none else adopted? path inner
    | some (.tables items) => if path = [] then none else items.getLast?.bind (adopted? path)
    | some _ => none

/-- Opens a table by its header. It takes up what headers of inner tables have put into it, and leaves the place
that it had because of them. -/
def openTable? (root : Entries) (path : List Text) : Option Builder := do
  let key ← path.getLast?
  let entries ← adopted? path root
  let root ← root.changeAt? false (fun _ es => some (es.filter (·.1 ≠ key))) path.dropLast .header
  return { root, path, entries }

/-- Reads a header behind its opening bracket or brackets, and the rest of its line. -/
def readHeader? (b : Builder) (t : Text) : Option (Builder × Text) := do
  let root ← b.close?
  let repeats := t.head? == some '['
  let (path, rest) ← readKey? (maxDepth - 1) (if repeats then t.drop 1 else t)
  let closing : Text := if repeats then [']', ']'] else [']']
  let rest ← Text.dropPrefix? closing rest
  let rest ← endLine? rest
  let b ← if repeats then some { root, path, repeats } else openTable? root path
  return (b, rest)

/-- Reads a key with its value, and the rest of the line. -/
def readEntry? (b : Builder) (t : Text) : Option (Builder × Text) := do
  let (path, key, rest) ← readKeyOfValue? t
  let (value, rest) ← readValue? maxDepth rest
  let rest ← endLine? rest
  let entries ← b.entries.addDotted? .header path key value
  return ({ b with entries }, rest)

def readLines? : Nat → Builder → Text → Option Entries
  | 0, _, _ => none
  | fuel + 1, b, t =>
    match skipBlanks t with
    | [] => b.close?
    | '[' :: rest => (b.readHeader? rest).bind fun (b, rest) => readLines? fuel b rest
    | c :: rest =>
      if c = '#' ∨ c = '\n' ∨ c = '\r' then (endLine? (c :: rest)).bind fun rest => readLines? fuel b rest
      else (b.readEntry? (c :: rest)).bind fun (b, rest) => readLines? fuel b rest

end Builder

/-- The table that a document is, if it is well-formed. -/
def read? (t : Text) : Option Entries :=
  let t := if t.head? = some '\uFEFF' then t.drop 1 else t
  Builder.readLines? (t.length + 1) {} t

end BlockHarness.Toml
