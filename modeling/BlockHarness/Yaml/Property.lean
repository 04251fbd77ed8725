import BlockHarness.Text.Utf8
import BlockHarness.Yaml.Cursor

/-! Names, tags and directives. Each reader takes the position at which the item starts and gives what it says and
the position behind it, or nothing when the item is malformed. -/
namespace BlockHarness.Yaml
set_option autoImplicit false

/-! ## Anchors and aliases -/

/-- Reads the name of an anchor or an alias behind its indicator. -/
def readAnchor? (c : Cursor) : Option (Text × Cursor) :=
  let c := c.skip 1
  let name := c.rest.takeWhile isNameChar
  let c := c.skip name.length
  if name ≠ [] ∧ (endsWord c.peek? || c.peek?.any ("?:,]\x7d%@\x60".toList.contains ·)) then
    some (name, c)
  else none

/-! ## Tags -/

/-- Reads the percent-encoded octets of one character, given how many are still owed; none before the first. -/
def readEscapedOctets? (owed : Option Nat) (octets : Octets) : Nat → Cursor → Option (Text × Cursor)
  | 0, _ => none
  | fuel + 1, c =>
    match c.rest with
    | '%' :: high :: low :: _ =>
      match Text.toNat? 16 [high, low] with
      | none => none
      | some octet =>
        let later? : Option Nat :=
          match owed with
          | none =>
            if octet < 0x80 then some 0
            else if octet / 0x20 = 6 then some 1
            else if octet / 0x10 = 14 then some 2
            else if octet / 0x08 = 30 then some 3
            else none
          | some n => if octet / 0x40 = 2 then some (n - 1) else none
        let octets := octets ++ [octet.toUInt8]
        match later? with
        | none => none
        | some 0 => some (Utf8.decodeLossy octets, c.skip 3)
        | some later => readEscapedOctets? (some later) octets fuel (c.skip 3)
    | _ => none

/-- Whether a character may stand in a tag; inside `<` and `>` the flow indicators may, too. -/
def isTagChar (verbatim : Bool) (c : Char) : Bool :=
  isNameChar c || ";/?:@&=+$.%!~*'()".toList.contains c || (verbatim && ",[]".toList.contains c)

/-- Reads the characters of a tag, behind the reversed text `before`. -/
def readTagText? (verbatim : Bool) : Nat → Text → Cursor → Option (Text × Cursor)
  | 0, before, c => some (before.reverse, c)
  | fuel + 1, before, c =>
    match c.peek? with
    | none => some (before.reverse, c)
    | some ch =>
      if isTagChar verbatim ch then
        if ch = '%' then
          match readEscapedOctets? none [] 4 c with
          | none => none
          | some (text, c) => readTagText? verbatim fuel (text.reverse ++ before) c
        else readTagText? verbatim fuel (ch :: before) (c.skip 1)
      else some (before.reverse, c)

/-- Reads the handle of a tag: an exclamation mark, or a name between two of them. The name may lack the second
mark, and is then the beginning of the tag itself. -/
def readHandle? (c : Cursor) : Option (Text × Cursor) :=
  if c.peek? = some '!' then
    let c := c.skip 1
    let name := c.rest.takeWhile isNameChar
    let c := c.skip name.length
    if c.peek? = some '!' then some ('!' :: (name ++ ['!']), c.skip 1) else some ('!' :: name, c)
  else none

/-- Reads a tag as handle and suffix. A verbatim tag and the tag `!` have an empty handle. -/
def readTag? (inFlow : Bool) (fuel : Nat) (c : Cursor) : Option (Text × Text × Cursor) := do
  let (handle, suffix, c) ←
    if c.peekAt? 1 = some '<' then do
      let start := c.skip 2
      let (suffix, c) ← readTagText? true fuel [] start
      if c.index = start.index ∨ c.peek? ≠ some '>' then failure
      pure ([], suffix, c.skip 1)
    else do
      let (handle, c) ← readHandle? c
      if 1 < handle.length ∧ handle.getLast? = some '!' then
        let (suffix, next) ← readTagText? false fuel [] c
        if next.index = c.index then failure
        pure (handle, suffix, next)
      else
        let (suffix, c) ← readTagText? false fuel (handle.drop 1).reverse c
        pure (if suffix = [] then ([], ['!'], c) else (['!'], suffix, c))
  if (inFlow && c.peek? = some ',') || endsWord c.peek? then some (handle, suffix, c) else none

/-! ## Directives -/

/-- A directive in front of a document. -/
inductive Directive where
  | version (major minor : Nat)
  | tag (handle expansion : Text)
  deriving DecidableEq, Repr

/-- Reads a version number of at most nine digits. -/
def readVersionNumber? (c : Cursor) : Option (Nat × Cursor) :=
  let digits := c.rest.takeWhile fun ch => '0' ≤ ch && ch ≤ '9'
  if 9 < digits.length then none
  else (Text.toNat? 10 digits).map fun n => (n, c.skip digits.length)

/-- Reads a directive and the rest of its line. -/
def readDirective? (fuel : Nat) (c : Cursor) : Option (Directive × Cursor) := do
  let c := c.skip 1
  let name := c.rest.takeWhile isNameChar
  let c := c.skip name.length
  if name = [] ∨ ¬ endsWord c.peek? then failure
  let c := c.skipWhile isBlank
  let (directive, c) ←
    if name = "YAML" then do
      let (major, c) ← readVersionNumber? c
      if c.peek? ≠ some '.' then failure
      let (minor, c) ← readVersionNumber? (c.skip 1)
      pure (.version major minor, c)
    else if name = "TAG" then do
      let (handle, c) ← readHandle? c
      if handle ≠ ['!'] ∧ handle.getLast? ≠ some '!' then failure
      if ¬ c.peek?.any isBlank then failure
      let c := c.skipWhile isBlank
      let (expansion, next) ← readTagText? true fuel [] c
      if next.index = c.index ∨ ¬ endsWord next.peek? then failure
      pure (.tag handle expansion, next)
    else failure
  let c ← c.endLine?
  return (directive, c)

end BlockHarness.Yaml
