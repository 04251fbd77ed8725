import BlockHarness.Text.Utf8

/-! A position in a YAML text, with what is left of the text and the line and column reached, and the classes of
characters that YAML tells apart. -/
namespace BlockHarness.Yaml
set_option autoImplicit false

/-! ## Characters -/

/-- Whether a text may hold a character at all. -/
def isAllowed (c : Char) : Bool :=
  let n := c.toNat
  c == '\t' || c == '\n' || c == '\r' || (0x20 ≤ n && n ≤ 0x7E) || n == 0x85 || (0xA0 ≤ n && n ≤ 0xD7FF)
    || (0xE000 ≤ n && n ≤ 0xFFFD) || 0x10000 ≤ n

/-- A blank inside a line. -/
def isBlank (c : Char) : Bool := c == ' ' || c == '\t'

def isBreak (c : Char) : Bool :=
  c == '\n' || c == '\r' || c == '\u0085' || c == '\u2028' || c == '\u2029'

/-- A blank or a line break. -/
def isSpace (c : Char) : Bool := isBlank c || isBreak c

/-- A character of names: anchors, handles and directives. -/
def isNameChar (c : Char) : Bool :=
  ('0' ≤ c && c ≤ '9') || ('A' ≤ c && c ≤ 'Z') || ('a' ≤ c && c ≤ 'z') || c == '_' || c == '-'

/-- Whether a word ends here: before a space or at the end of the text. -/
def endsWord : Option Char → Bool
  | none => true
  | some c => isSpace c

/-- Whether a line ends here: before a break or at the end of the text. -/
def endsLine : Option Char → Bool
  | none => true
  | some c => isBreak c

/-! ## Positions -/

/-- A position in a text. The index counts octets from the start of the text, and the column characters from the
start of the line. -/
structure Cursor where
  rest : Text
  index : Nat
  line : Nat
  column : Nat
  deriving Repr

namespace Cursor

/-- The position before a text. -/
def start (t : Text) : Cursor := ⟨t, 0, 0, 0⟩

def peek? (c : Cursor) : Option Char := c.rest.head?

/-- The character `n` places after the next one. -/
def peekAt? (c : Cursor) (n : Nat) : Option Char := c.rest[n]?

/-- Whether the text goes on with `t`. -/
def sees (c : Cursor) (t : Text) : Bool := t.isPrefixOf c.rest

/-- Passes `n` characters of the line. -/
def skip (c : Cursor) (n : Nat) : Cursor :=
  ⟨c.rest.drop n, c.index + Utf8.size (c.rest.take n), c.line, c.column + n⟩

/-- Passes the longest run of characters of the line that satisfy `p`. -/
def skipWhile (p : Char → Bool) (c : Cursor) : Cursor := c.skip (c.rest.takeWhile p).length

/-- Passes the rest of the line up to its break. -/
def skipLine (c : Cursor) : Cursor := c.skipWhile fun ch => !isBreak ch

/-- Passes one line break, if there is one, and gives what it stands for: the two separators stand for themselves
and all other breaks for a line feed. -/
def readBreak (c : Cursor) : Text × Cursor :=
  match c.rest with
  | '\r' :: '\n' :: rest => (['\n'], ⟨rest, c.index + 2, c.line + 1, 0⟩)
  | ch :: rest =>
    if isBreak ch then
      (if ch = '\u2028' ∨ ch = '\u2029' then [ch] else ['\n'], ⟨rest, c.index + Utf8.size [ch], c.line + 1, 0⟩)
    else ([], c)
  | [] => ([], c)

/-- Whether a line starts here with a given marker as its first word. -/
def atLineMarker (marker : Text) (c : Cursor) : Bool :=
  c.column == 0 && c.sees marker && endsWord (c.peekAt? marker.length)

/-- Whether a line starts here with one of the document markers. -/
def atDocumentMarker (c : Cursor) : Bool := c.atLineMarker "---" || c.atLineMarker "..."

/-- Passes blanks and a comment to the end of the line and its break; nothing else may stand there. -/
def endLine? (c : Cursor) : Option Cursor :=
  let c := c.skipWhile isBlank
  let c := if c.peek? = some '#' then c.skipLine else c
  if endsLine c.peek? then some c.readBreak.2 else none

end Cursor
end BlockHarness.Yaml
