/-! Texts as lists of characters, so that every law about them goes by induction on the list.
A string literal stands for its list of characters; numbers are written in decimal or lower-case hexadecimal. -/
namespace BlockHarness
set_option autoImplicit false

/-- A text is the list of its characters. -/
abbrev Text := List Char

abbrev Octets := List UInt8

instance : Coe String Text := ⟨String.toList⟩

namespace Text

/-! ## Numbers -/

/-- The digit of value `d` in bases up to sixteen, with small letters above nine. -/
def digit (d : Nat) : Char :=
  if d < 10 then Char.ofNat (48 + d) else Char.ofNat (87 + d)

/-- The digits of `n` in base `base`, most significant first, written in front of `rest`. -/
def digitsOnto (base : Nat) : Nat → Nat → Text → Text
  | 0, _, rest => rest
  | fuel + 1, n, rest =>
    if n < base then digit n :: rest else digitsOnto base fuel (n / base) (digit (n % base) :: rest)

/-- A natural number in decimal, without leading zeros. -/
def ofNat (n : Nat) : Text := digitsOnto 10 (n + 1) n []

/-- A natural number in hexadecimal, small letters, without leading zeros. -/
def ofNatHex (n : Nat) : Text := digitsOnto 16 (n + 1) n []

/-- An integer in decimal, with a minus sign when negative. -/
def ofInt (i : Int) : Text := if i < 0 then '-' :: ofNat i.natAbs else ofNat i.natAbs

/-- The value of a digit in bases up to sixteen, either case of letters. -/
def digitValue? (c : Char) : Option Nat :=
  if '0' ≤ c ∧ c ≤ '9' then some (c.toNat - 48)
  else if 'a' ≤ c ∧ c ≤ 'f' then some (c.toNat - 87)
  else if 'A' ≤ c ∧ c ≤ 'F' then some (c.toNat - 55)
  else none

/-- Reads a non-empty run of digits of base `base`; anything else is refused. -/
def toNat? (base : Nat) (t : Text) : Option Nat :=
  if t = [] then none
  else t.foldlM (fun n c => (digitValue? c).bind fun d => if d < base then some (n * base + d) else none) 0

/-! ## Pieces -/

/-- Puts a character in front of pieces: a separator starts a new piece. -/
def splitStep (sep c : Char) (pieces : List Text) : List Text :=
  if c = sep then [] :: pieces
  else
    match pieces with
    | [] => [[c]]
    | piece :: rest => (c :: piece) :: rest

/-- The pieces of `t` between the characters `sep`: one more piece than there are separators. -/
def splitOn (sep : Char) (t : Text) : List Text := t.foldr (splitStep sep) [[]]

/-- The texts one after the other with `sep` between two of them. -/
def joinWith (sep : Text) : List Text → Text
  | [] => []
  | [t] => t
  | t :: u :: rest => t ++ sep ++ joinWith sep (u :: rest)

/-- Drops one trailing `'\r'`. -/
def dropCarriageReturn : Text → Text
  | [] => []
  | ['\r'] => []
  | c :: rest => c :: dropCarriageReturn rest

/-- The lines of a text, given the reversed start of the current line.
A line ends in `"\n"` or `"\r\n"`; a last line without a line feed keeps what it has. -/
def linesFrom (line : Text) : Text → List Text
  | [] => if line = [] then [] else [line.reverse]
  | '\n' :: rest => dropCarriageReturn line.reverse :: linesFrom [] rest
  | c :: rest => linesFrom (c :: line) rest

/-- The lines of a text without their line ends. -/
def lines (t : Text) : List Text := linesFrom [] t

/-- Drops the longest run at the end of `t` whose characters all satisfy `p`. -/
def dropEndWhile (p : Char → Bool) (t : Text) : Text := (t.reverse.dropWhile p).reverse

/-- What is left of `t` after `front`, if `t` starts with it. -/
def dropPrefix? (front t : Text) : Option Text :=
  if front.isPrefixOf t then some (t.drop front.length) else none

/-! ## White space -/

/-- Whether a character is white space: whether it has the Unicode property `White_Space`. -/
def isBlank (c : Char) : Bool :=
  let n := c.toNat
  (0x9 ≤ n && n ≤ 0xD) || n == 0x20 || n == 0x85 || n == 0xA0 || n == 0x1680 || (0x2000 ≤ n && n ≤ 0x200A)
    || n == 0x2028 || n == 0x2029 || n == 0x202F || n == 0x205F || n == 0x3000

/-- A text without the white space at its end. -/
def trimEnd (t : Text) : Text := dropEndWhile isBlank t

end Text
end BlockHarness
