import BlockHarness.Yaml.Property
import BlockHarness.Yaml.Scalar

/-! The tokens of a YAML text. Indentation is told by tokens that open and close block collections, so what follows
need not count columns. A scalar or collection may turn out to be a key only when the colon behind it is seen; its
token is held back until then. -/
namespace BlockHarness.Yaml
set_option autoImplicit false

inductive Token where
  | streamEnd
  | directive (directive : Directive)
  | documentStart
  | documentEnd
  | blockSequenceStart
  | blockMappingStart
  | blockEnd
  | flowSequenceStart
  | flowSequenceEnd
  | flowMappingStart
  | flowMappingEnd
  | blockEntry
  | flowEntry
  | key
  | value
  | «alias» (name : Text)
  | anchor (name : Text)
  | tag (handle suffix : Text)
  | scalar (isPlain : Bool) (text : Text)
  deriving DecidableEq, Repr

/-! ## The state between two tokens -/

/-- A token that may still turn out to begin a key, inside so many brackets. It is required to if it stands where
only a key may stand. -/
structure PendingKey where
  depth : Nat
  required : Bool
  number : Nat
  index : Nat
  line : Nat
  column : Nat
  deriving Repr

/-- The state between two tokens. `indents` are the columns of the open block collections and `keys` the pending
keys, of which every depth of brackets has at most one, both innermost first. `queue` are the tokens held back, the
first one with number `taken`, and `released` all before them, last one first. -/
structure Lexer where
  cursor : Cursor
  indents : List Nat := []
  depth : Nat := 0
  keys : List PendingKey := []
  keyAllowed : Bool := true
  taken : Nat := 0
  queue : List Token := []
  released : List Token := []
  finished : Bool := false

namespace Lexer

/-- Whether the position is inside brackets. -/
def inFlow (l : Lexer) : Bool := l.depth != 0

/-- Adds a token that ends at a position, and says whether a key may begin there. -/
def pushAt (l : Lexer) (c : Cursor) (keyAllowed : Bool) (t : Token) : Lexer :=
  { l with queue := l.queue ++ [t], cursor := c, keyAllowed }

/-- The pending key of the innermost brackets. -/
def ownKey? (l : Lexer) : Option PendingKey := l.keys.head?.filter (·.depth == l.depth)

/-- Gives up the pending key of the innermost brackets, which must not be a required one. -/
def dropKey? (l : Lexer) : Option Lexer :=
  match l.ownKey? with
  | some key => if key.required then none else some { l with keys := l.keys.drop 1 }
  | none => some l

/-- Remembers that the next token may begin a key. -/
def saveKey? (l : Lexer) : Option Lexer :=
  if l.keyAllowed then
    let key : PendingKey := {
      depth := l.depth
      required := !l.inFlow && l.indents.head? == some l.cursor.column
      number := l.taken + l.queue.length
      index := l.cursor.index
      line := l.cursor.line
      column := l.cursor.column }
    l.dropKey?.map fun l => { l with keys := key :: l.keys }
  else some l

/-- Gives up every pending key that is on an earlier line or too far back. -/
def dropStaleKeys? (l : Lexer) : Option Lexer :=
  let stale (key : PendingKey) : Bool := key.line < l.cursor.line || key.index + 1024 < l.cursor.index
  if l.keys.any fun key => stale key && key.required then none
  else some { l with keys := l.keys.filter fun key => !stale key }

/-- Opens a block collection at a column that is deeper than all open ones. -/
def openBlock (l : Lexer) (column position : Nat) (t : Token) : Lexer :=
  if !l.inFlow && l.indents.head?.all (· < column) then
    { l with indents := column :: l.indents, queue := l.queue.insertIdx position t }
  else l

/-- Closes every open block collection that is deeper than a column; all of them without a column. -/
def closeBlocks (l : Lexer) (column : Option Nat) : Lexer :=
  if l.inFlow then l
  else
    let deeper (indent : Nat) : Bool := column.all (· < indent)
    { l with
      indents := l.indents.dropWhile deeper
      queue := l.queue ++ (l.indents.takeWhile deeper).map fun _ => .blockEnd }

/-- Releases the tokens in front of the first one that may begin a key. -/
def release (l : Lexer) : Lexer :=
  let n := (l.keys.map (·.number - l.taken)).foldl min l.queue.length
  { l with
    taken := l.taken + n
    queue := l.queue.drop n
    released := (l.queue.take n).reverse ++ l.released }

/-! ## One token -/

/-- Passes blanks, comments and line breaks. In block context a line break allows a key, and a tab may not stand
where a key may. -/
def skipSpace : Nat → Lexer → Lexer
  | 0, l => l
  | fuel + 1, l =>
    let c := if l.cursor.column = 0 ∧ l.cursor.peek? = some '\uFEFF' then l.cursor.skip 1 else l.cursor
    let c := c.skipWhile fun ch => ch == ' ' || ((l.inFlow || !l.keyAllowed) && ch == '\t')
    let c := if c.peek? = some '#' then c.skipLine else c
    if c.peek?.any isBreak then
      skipSpace fuel { l with cursor := c.readBreak.2, keyAllowed := l.keyAllowed || !l.inFlow }
    else { l with cursor := c }

/-- The end of the text, which also ends its last line. -/
def readEnd? (l : Lexer) : Option Lexer :=
  let c := l.cursor
  let c := if c.column = 0 then c else { c with line := c.line + 1, column := 0 }
  (l.closeBlocks none).dropKey?.map fun l => { l.pushAt c false .streamEnd with finished := true }

/-- An item that closes all block collections: a directive or a document marker. -/
def atTopLevel? (l : Lexer) : Option Lexer := (l.closeBlocks none).dropKey?

def openFlow? (l : Lexer) (t : Token) : Option Lexer :=
  l.saveKey?.map fun l => { l.pushAt (l.cursor.skip 1) true t with depth := l.depth + 1 }

def closeFlow? (l : Lexer) (t : Token) : Option Lexer :=
  l.dropKey?.map fun l => { l.pushAt (l.cursor.skip 1) false t with depth := l.depth - 1 }

/-- The dash of a block sequence. -/
def readDash? (l : Lexer) : Option Lexer :=
  if !l.inFlow && !l.keyAllowed then none
  else
    let l := l.openBlock l.cursor.column l.queue.length .blockSequenceStart
    l.dropKey?.map fun l => l.pushAt (l.cursor.skip 1) true .blockEntry

/-- The question mark of a key. -/
def readKey? (l : Lexer) : Option Lexer :=
  if !l.inFlow && !l.keyAllowed then none
  else
    let l := l.openBlock l.cursor.column l.queue.length .blockMappingStart
    l.dropKey?.map fun l => l.pushAt (l.cursor.skip 1) (!l.inFlow) .key

/-- The colon of a value. The pending key, if there is one, becomes the key. -/
def readValue? (l : Lexer) : Option Lexer :=
  match l.ownKey? with
  | some key =>
    let position := key.number - l.taken
    let l := { l with queue := l.queue.insertIdx position .key, keys := l.keys.drop 1 }
    let l := l.openBlock key.column position .blockMappingStart
    some (l.pushAt (l.cursor.skip 1) false .value)
  | none =>
    if !l.inFlow && !l.keyAllowed then none
    else
      let l := l.openBlock l.cursor.column l.queue.length .blockMappingStart
      some (l.pushAt (l.cursor.skip 1) (!l.inFlow) .value)

/-- An alias, an anchor, a tag or a scalar on one line: it may begin a key, and none may follow it. -/
def readItem? (l : Lexer) (read : Cursor → Option (Token × Cursor)) : Option Lexer := do
  let l ← l.saveKey?
  let (t, c) ← read l.cursor
  return l.pushAt c false t

/-- A plain scalar. After a line break behind it a key may follow. -/
def readPlainToken? (fuel : Nat) (l : Lexer) : Option Lexer := do
  let l ← l.saveKey?
  let indent := l.indents.head?.elim 0 (· + 1)
  let (text, broken, c) ← readPlain? l.inFlow indent fuel [] {} l.cursor
  return l.pushAt c broken (.scalar true text)

def readBlockToken? (fuel : Nat) (isLiteral : Bool) (l : Lexer) : Option Lexer := do
  let l ← l.dropKey?
  let (text, c) ← readBlock? isLiteral l.indents.head? fuel l.cursor
  return l.pushAt c true (.scalar false text)

/-- Whether a plain scalar may begin with `ch` before `next`. -/
def beginsPlain (inFlow : Bool) (ch : Char) (next : Option Char) : Bool :=
  !(isSpace ch || "-?:,[]\x7b\x7d#&*!|>'\"%@\x60".toList.contains ch)
    || (ch == '-' && !next.any isBlank)
    || (!inFlow && (ch == '?' || ch == ':') && !endsWord next)

def next? (fuel : Nat) (l : Lexer) : Option Lexer := do
  let l ← (skipSpace fuel l).dropStaleKeys?
  let l := l.closeBlocks (some l.cursor.column)
  let c := l.cursor
  let flow := l.inFlow
  let alone := endsWord (c.peekAt? 1)
  match c.peek? with
  | none => l.readEnd?
  | some ch =>
    if c.column = 0 ∧ ch = '%' then do
      let l ← l.atTopLevel?
      let (directive, c) ← readDirective? fuel c
      return l.pushAt c false (.directive directive)
    else if c.atLineMarker "---" then l.atTopLevel?.map (·.pushAt (c.skip 3) false .documentStart)
    else if c.atLineMarker "..." then l.atTopLevel?.map (·.pushAt (c.skip 3) false .documentEnd)
    else if ch = '[' then l.openFlow? .flowSequenceStart
    else if ch = '\x7b' then l.openFlow? .flowMappingStart
    else if ch = ']' then l.closeFlow? .flowSequenceEnd
    else if ch = '\x7d' then l.closeFlow? .flowMappingEnd
    else if ch = ',' then l.dropKey?.map (·.pushAt (c.skip 1) true .flowEntry)
    else if ch = '-' ∧ alone then l.readDash?
    else if ch = '?' ∧ (flow ∨ alone) then l.readKey?
    else if ch = ':' ∧ (flow ∨ alone) then l.readValue?
    else if ch = '*' then l.readItem? fun c => (readAnchor? c).map fun (name, c) => (.«alias» name, c)
    else if ch = '&' then l.readItem? fun c => (readAnchor? c).map fun (name, c) => (.anchor name, c)
    else if ch = '!' then
      l.readItem? fun c => (readTag? flow fuel c).map fun (handle, suffix, c) => (.tag handle suffix, c)
    else if ch = '|' ∧ ¬ flow then l.readBlockToken? fuel true
    else if ch = '>' ∧ ¬ flow then l.readBlockToken? fuel false
    else if ch = '\'' ∨ ch = '"' then
      l.readItem? fun c => (readQuoted? (ch == '\'') fuel c).map fun (text, c) => (.scalar false text, c)
    else if beginsPlain flow ch (c.peekAt? 1) then l.readPlainToken? fuel
    else none

/-- Reads tokens until the end of the text or the first malformed one, and gives all that were released by then. -/
def run : Nat → Lexer → List Token
  | 0, l => l.released.reverse
  | fuel + 1, l =>
    match (l.next? (fuel + 1)).bind dropStaleKeys? with
    | none => l.released.reverse
    | some l =>
      let l := l.release
      if l.finished then l.released.reverse else run fuel l

end Lexer

/-- The tokens of a text up to the first place where it is malformed; they end in `streamEnd` only if there is no
such place. -/
def Token.ofText (t : Text) : List Token :=
  if t.all isAllowed then Lexer.run (t.length + 2) { cursor := Cursor.start t } else []

end BlockHarness.Yaml
