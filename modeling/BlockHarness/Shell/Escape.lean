import BlockHarness.Shell.Character

/-! What commands print: escapes, which are a backslash with a letter, with octal digits, or with another backslash,
and texts as a script would write them. -/
namespace BlockHarness.Shell
set_option autoImplicit false

namespace Escape

/-- The value of at most `n` octal digits at the front of a text as a character for one octet, and the rest. -/
def octal (n : Nat) (t : Text) : Char × Text :=
  let digits := (t.take n).takeWhile isOctalDigit
  (Char.ofNat (((Text.toNat? 8 digits).getD 0) % 256), t.drop digits.length)

/-- An escape with one letter behind the backslash. -/
def letter? (c : Char) : Option Char :=
  [('a', '\x07'), ('b', '\x08'), ('e', '\x1b'), ('f', '\x0c'), ('n', '\n'), ('r', '\r'), ('t', '\t'), ('v', '\x0b'),
    ('\\', '\\')].lookup c

/-- The character that an escape stands for, given the text behind its backslash, and what follows it. A backslash
that begins no escape stands for itself. -/
def take (t : Text) : Char × Text :=
  match t with
  | [] => ('\\', [])
  | c :: rest =>
    if isOctalDigit c then octal 3 t
    else
      match letter? c with
      | some e => (e, rest)
      | none => ('\\', t)

/-- Replaces the escapes of an argument, where a zero may stand in front of octal digits, behind the reversed text
`before`. The flag tells whether an escape ended the output. -/
def replaceOnto : Nat → Text → Text → Text × Bool
  | 0, before, _ => (before.reverse, false)
  | _, before, [] => (before.reverse, false)
  | fuel + 1, before, '\\' :: rest =>
    match rest with
    | 'c' :: _ => (before.reverse, true)
    | '0' :: digits => let (c, rest) := octal 3 digits; replaceOnto fuel (c :: before) rest
    | rest => let (c, rest) := take rest; replaceOnto fuel (c :: before) rest
  | fuel + 1, before, c :: rest => replaceOnto fuel (c :: before) rest

def replace (t : Text) : Text × Bool := replaceOnto (t.length + 1) [] t

end Escape

/-! ## Quotes -/

/-- Pieces of a text in quotes: quotes in runs between double ones, all else between single ones. -/
def quotedPieces : Nat → Text → Text
  | 0, _ => []
  | fuel + 1, t =>
    let plain := t.takeWhile (· ≠ '\'')
    let rest := t.drop plain.length
    let quotes := rest.takeWhile (· == '\'')
    let behind := rest.drop quotes.length
    let first := ['\''] ++ plain ++ ['\'']
    if quotes = [] then first
    else first ++ ['"'] ++ quotes ++ ['"'] ++ (if behind = [] then [] else quotedPieces fuel behind)

/-- A text in quotes, so that a script that reads it means the text itself. -/
def singleQuoted (t : Text) : Text := quotedPieces (t.length + 1) t

end BlockHarness.Shell
