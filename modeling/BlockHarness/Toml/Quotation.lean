import BlockHarness.Text.Basic

/-! TOML texts in quotes, of one line or of several lines. Each reader takes the text behind the opening quotes and
gives what it stands for and what follows the closing quotes. -/
namespace BlockHarness.Toml
set_option autoImplicit false

/-- A character that may stand in a text or a comment: no control character but the tab. -/
def isPrintable (c : Char) : Bool := c == '\t' || (' ' ≤ c && c ≠ '\x7f')

def readBreak? : Text → Option Text
  | '\n' :: rest => some rest
  | '\r' :: '\n' :: rest => some rest
  | _ => none

def skipBlanks (t : Text) : Text := t.dropWhile fun c => c == ' ' || c == '\t'

/-- The character of an escape sequence behind its backslash, and what follows. -/
def readEscape? : Text → Option (Char × Text)
  | [] => none
  | c :: rest =>
    let hex (n : Nat) : Option (Char × Text) :=
      if rest.length < n then none
      else (Text.toNat? 16 (rest.take n)).bind fun v =>
        if v < 0xD800 ∨ (0xDFFF < v ∧ v ≤ 0x10FFFF) then some (Char.ofNat v, rest.drop n) else none
    match c with
    | 'b' => some ('\x08', rest)
    | 'f' => some ('\x0c', rest)
    | 'n' => some ('\n', rest)
    | 'r' => some ('\r', rest)
    | 't' => some ('\t', rest)
    | 'u' => hex 4
    | 'U' => hex 8
    | '\\' => some ('\\', rest)
    | '"' => some ('"', rest)
    | _ => none

/-- Passes line breaks and the blanks around them. -/
def skipBreaks : Nat → Text → Text
  | 0, t => t
  | fuel + 1, t =>
    match readBreak? (skipBlanks t) with
    | some rest => skipBreaks fuel rest
    | none => skipBlanks t

/-- Reads a text of one line, behind the reversed text `before`. -/
def readLine? (isLiteral : Bool) : Nat → Text → Text → Option (Text × Text)
  | 0, _, _ => none
  | _, _, [] => none
  | fuel + 1, before, c :: rest =>
    if c = (if isLiteral then '\'' else '"') then some (before.reverse, rest)
    else if c = '\\' ∧ ¬ isLiteral then
      match readEscape? rest with
      | some (escaped, rest) => readLine? isLiteral fuel (escaped :: before) rest
      | none => none
    else if isPrintable c then readLine? isLiteral fuel (c :: before) rest
    else none

/-- Reads a text of several lines, behind the reversed text `before`. Three quotes end it; up to two more in front
of them belong to it. -/
def readLines? (isLiteral : Bool) : Nat → Text → Text → Option (Text × Text)
  | 0, _, _ => none
  | _, _, [] => none
  | fuel + 1, before, c :: rest =>
    let quote := if isLiteral then '\'' else '"'
    if c = quote then
      let quotes := ((c :: rest).takeWhile (· == quote)).length
      if quotes < 3 then readLines? isLiteral fuel (c :: before) rest
      else
        let own := min (quotes - 3) 2
        some ((List.replicate own quote ++ before).reverse, (c :: rest).drop (own + 3))
    else if c = '\\' ∧ ¬ isLiteral then
      match readBreak? (skipBlanks rest), readEscape? rest with
      | some rest, _ => readLines? isLiteral fuel before (skipBreaks fuel rest)
      | none, some (escaped, rest) => readLines? isLiteral fuel (escaped :: before) rest
      | none, none => none
    else
      match readBreak? (c :: rest) with
      | some rest => readLines? isLiteral fuel ('\n' :: before) rest
      | none => if isPrintable c then readLines? isLiteral fuel (c :: before) rest else none

/-- Reads a text in quotes from its opening quote on. A line break right behind three quotes is not part of it. -/
def readQuoted? (severalLines : Bool) : Text → Option (Text × Text)
  | [] => none
  | quote :: rest =>
    let isLiteral := quote == '\''
    if severalLines ∧ rest.take 2 = [quote, quote] then
      let rest := rest.drop 2
      readLines? isLiteral (rest.length + 1) [] ((readBreak? rest).getD rest)
    else readLine? isLiteral (rest.length + 1) [] rest

end BlockHarness.Toml
