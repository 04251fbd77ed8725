import BlockHarness.Yaml.Cursor

/-! Scalars as they are written: plain, quoted and block. Each reader takes the position at which the scalar starts
and gives the text it stands for and the position behind it, or nothing when the scalar is malformed. -/
namespace BlockHarness.Yaml
set_option autoImplicit false

/-! ## Gaps between words -/

/-- Blanks and breaks between two words of a scalar. Texts in it are reversed; once a line is broken, blanks count
for nothing. -/
structure Gap where
  blanks : Text := []
  broken : Bool := false
  first : Text := []
  more : Text := []

namespace Gap

def addBreak (g : Gap) (text : Text) : Gap :=
  if g.broken then { g with more := text ++ g.more } else { g with blanks := [], broken := true, first := text }

/-- What a gap stands for, reversed: one line feed folds into a blank, and into nothing when more breaks follow. -/
def folded (g : Gap) : Text :=
  if !g.broken then g.blanks
  else if g.first = ['\n'] then (if g.more = [] then [' '] else g.more)
  else g.more ++ g.first

/-- Reads a gap. After a line break a tab before column `tabLimit` is refused. -/
def read? (tabLimit : Nat) : Nat → Gap → Cursor → Option (Gap × Cursor)
  | 0, g, c => some (g, c)
  | fuel + 1, g, c =>
    match c.peek? with
    | none => some (g, c)
    | some ch =>
      if isBlank ch then
        if g.broken && ch == '\t' && c.column < tabLimit then none
        else read? tabLimit fuel (if g.broken then g else { g with blanks := ch :: g.blanks }) (c.skip 1)
      else if isBreak ch then
        let (text, c) := c.readBreak
        read? tabLimit fuel (g.addBreak text) c
      else some (g, c)

end Gap

/-! ## Plain scalars -/

/-- The reversed run of characters up to a space or an indicator that ends a plain scalar, behind those in `run`.
Inside brackets a colon before an indicator is refused. -/
def plainRun? (inFlow : Bool) (run : Text) : Text → Option Text
  | [] => some run
  | ch :: rest =>
    if isSpace ch then some run
    else if inFlow && ch == ':' && rest.head?.any (",?[]\x7b\x7d".toList.contains ·) then none
    else if (ch == ':' && endsWord rest.head?) || (inFlow && ",[]\x7b\x7d".toList.contains ch) then some run
    else plainRun? inFlow (ch :: run) rest

/-- Reads a plain scalar, whose further lines must be indented by `indent`, behind the reversed text `before`.
The flag tells whether a line was broken behind the last word. -/
def readPlain? (inFlow : Bool) (indent : Nat) : Nat → Text → Gap → Cursor → Option (Text × Bool × Cursor)
  | 0, before, g, c => some (before.reverse, g.broken, c)
  | fuel + 1, before, g, c =>
    if c.atDocumentMarker || c.peek? = some '#' then some (before.reverse, g.broken, c)
    else
      match plainRun? inFlow [] c.rest with
      | none => none
      | some [] => some (before.reverse, g.broken, c)
      | some run =>
        let before := run ++ (g.folded ++ before)
        let c := c.skip run.length
        if c.peek?.any isSpace then
          match Gap.read? indent fuel {} c with
          | none => none
          | some (g, c) =>
            if !inFlow && c.column < indent then some (before.reverse, g.broken, c)
            else readPlain? inFlow indent fuel before g c
        else some (before.reverse, false, c)

/-! ## Quoted scalars -/

/-- The character of an escape sequence behind its backslash, and the number of characters that spell it. -/
def readEscape? : Text → Option (Char × Nat)
  | [] => none
  | ch :: rest =>
    let hex (n : Nat) : Option (Char × Nat) :=
      let digits := rest.take n
      if digits.length < n then none
      else (Text.toNat? 16 digits).bind fun v =>
        if (0xD800 ≤ v ∧ v ≤ 0xDFFF) ∨ 0x10FFFF < v then none else some (Char.ofNat v, n + 1)
    match ch with
    | '0' => some ('\x00', 1)
    | 'a' => some ('\x07', 1)
    | 'b' => some ('\x08', 1)
    | 't' => some ('\t', 1)
    | '\t' => some ('\t', 1)
    | 'n' => some ('\n', 1)
    | 'v' => some ('\x0b', 1)
    | 'f' => some ('\x0c', 1)
    | 'r' => some ('\r', 1)
    | 'e' => some ('\x1b', 1)
    | ' ' => some (' ', 1)
    | '"' => some ('"', 1)
    | '/' => some ('/', 1)
    | '\\' => some ('\\', 1)
    | 'N' => some ('\u0085', 1)
    | '_' => some ('\u00a0', 1)
    | 'L' => some ('\u2028', 1)
    | 'P' => some ('\u2029', 1)
    | 'x' => hex 2
    | 'u' => hex 4
    | 'U' => hex 8
    | _ => none

/-- Reads the characters of a quoted scalar up to a space or the closing quote, behind the reversed text `before`.
The flag tells whether the run ended in an escaped line break. -/
def quotedRun? (single : Bool) : Nat → Text → Cursor → Option (Text × Bool × Cursor)
  | 0, before, c => some (before, false, c)
  | fuel + 1, before, c =>
    match c.rest with
    | [] => some (before, false, c)
    | ch :: rest =>
      if isSpace ch then some (before, false, c)
      else if single then
        if ch = '\'' then
          if rest.head? = some '\'' then quotedRun? single fuel ('\'' :: before) (c.skip 2)
          else some (before, false, c)
        else quotedRun? single fuel (ch :: before) (c.skip 1)
      else if ch = '"' then some (before, false, c)
      else if ch = '\\' then
        if rest.head?.any isBreak then some (before, true, (c.skip 1).readBreak.2)
        else
          match readEscape? rest with
          | none => none
          | some (escaped, n) => quotedRun? single fuel (escaped :: before) (c.skip (n + 1))
      else quotedRun? single fuel (ch :: before) (c.skip 1)

/-- Reads the rest of a quoted scalar, behind the reversed text `before`. A document marker may not stand at the
start of a line in it. -/
def readQuotedRest? (single : Bool) : Nat → Text → Cursor → Option (Text × Cursor)
  | 0, _, _ => none
  | fuel + 1, before, c =>
    if c.atDocumentMarker || c.rest.isEmpty then none
    else
      match quotedRun? single fuel before c with
      | none => none
      | some (before, escaped, c) =>
        if c.peek? = some (if single then '\'' else '"') then some (before.reverse, c.skip 1)
        else
          match Gap.read? 0 fuel { broken := escaped } c with
          | none => none
          | some (g, c) => readQuotedRest? single fuel (g.folded ++ before) c

def readQuoted? (single : Bool) (fuel : Nat) (c : Cursor) : Option (Text × Cursor) :=
  readQuotedRest? single fuel [] (c.skip 1)

/-! ## Block scalars -/

/-- What becomes of the line breaks at the end of a block scalar. -/
inductive Chomping where
  | strip
  | clip
  | keep
  deriving DecidableEq, Repr

/-- Reads the line breaks between lines of a block scalar, reversed behind `breaks`. Indentation is passed up to
`indent`, or all of it while `indent` is still open, and then the deepest is given too. -/
def blockBreaks? (indent : Option Nat) : Nat → Nat → Text → Cursor → Option (Nat × Text × Cursor)
  | 0, deepest, breaks, c => some (deepest, breaks, c)
  | fuel + 1, deepest, breaks, c =>
    let spaces := (c.rest.takeWhile (· == ' ')).length
    let c := c.skip (match indent with
      | none => spaces
      | some indent => min spaces (indent - c.column))
    let deepest := max deepest c.column
    if indent.all (c.column < ·) && c.peek? = some '\t' then none
    else if c.peek?.any isBreak then
      let (text, c) := c.readBreak
      blockBreaks? indent fuel deepest (text ++ breaks) c
    else some (deepest, breaks, c)

/-- Reads the lines of a block scalar, behind the reversed text `before`; `last` is the break of the line before
and `breaks` the reversed ones of empty lines behind it. Only lines without blanks in front are folded. -/
def blockLines? (isLiteral : Bool) (indent : Nat) :
    Nat → Text → Bool → Text → Text → Cursor → Option (Text × Text × Text × Cursor)
  | 0, before, _, last, breaks, c => some (before, last, breaks, c)
  | fuel + 1, before, wasIndented, last, breaks, c =>
    if c.column = indent ∧ ¬ c.rest.isEmpty then
      let isIndented := c.peek?.any isBlank
      let before :=
        if !isLiteral && last = ['\n'] && !wasIndented && !isIndented then
          (if breaks = [] then [' '] else breaks) ++ before
        else breaks ++ (last ++ before)
      let line := c.rest.takeWhile fun ch => !isBreak ch
      let (last, c) := (c.skip line.length).readBreak
      match blockBreaks? (some indent) fuel 0 [] c with
      | none => none
      | some (_, breaks, c) => blockLines? isLiteral indent fuel (line.reverse ++ before) isIndented last breaks c
    else some (before, last, breaks, c)

/-- Reads the header of a block scalar behind its indicator: chomping and indentation, in either order. -/
def blockHeader? (c : Cursor) : Option (Chomping × Option Nat × Cursor) :=
  let chomping (c : Cursor) : Option Chomping × Cursor :=
    match c.peek? with
    | some '+' => (some .keep, c.skip 1)
    | some '-' => (some .strip, c.skip 1)
    | _ => (none, c)
  let (before, c) := chomping c
  let (indent, c) :=
    match c.peek? with
    | some ch => if '0' ≤ ch ∧ ch ≤ '9' then (some (ch.toNat - 48), c.skip 1) else (none, c)
    | none => (none, c)
  let (behind, c) := if before.isNone && indent.isSome then chomping c else (none, c)
  if indent = some 0 then none
  else c.endLine?.map fun c => ((before.or behind).getD .clip, indent, c)

/-- Reads a block scalar inside a collection of indentation `parent`. -/
def readBlock? (isLiteral : Bool) (parent : Option Nat) (fuel : Nat) (c : Cursor) : Option (Text × Cursor) := do
  let (chomping, increment, c) ← blockHeader? (c.skip 1)
  let fixed := increment.map (· + parent.getD 0)
  let (deepest, breaks, c) ← blockBreaks? fixed fuel 0 [] c
  let indent := fixed.getD (max deepest (max 1 (parent.elim 0 (· + 1))))
  let (text, last, breaks, c) ← blockLines? isLiteral indent fuel [] false [] breaks c
  let text := if chomping = .strip then text else last ++ text
  let text := if chomping = .keep then breaks ++ text else text
  return (text.reverse, c)

end BlockHarness.Yaml
