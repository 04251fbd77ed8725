import BlockHarness.Text.Basic

/-! UTF-8: the octets of a text, and reading octets back. Reading is a machine that takes one octet at a time
and owes the rest of a character; it yields a character for every well-formed sequence and a gap for every
maximal part of an ill-formed one, so strict and lossy reading are two views of the same result. -/
namespace BlockHarness.Utf8
set_option autoImplicit false

/-! ## Writing -/

def encodeChar (c : Char) : Octets :=
  let n := c.toNat
  if n < 0x80 then [n.toUInt8]
  else if n < 0x800 then [(0xC0 + n / 64).toUInt8, (0x80 + n % 64).toUInt8]
  else if n < 0x10000 then
    [(0xE0 + n / 4096).toUInt8, (0x80 + n / 64 % 64).toUInt8, (0x80 + n % 64).toUInt8]
  else
    [(0xF0 + n / 262144).toUInt8, (0x80 + n / 4096 % 64).toUInt8, (0x80 + n / 64 % 64).toUInt8,
      (0x80 + n % 64).toUInt8]

def encode (t : Text) : Octets := t.flatMap encodeChar

/-! ## Reading -/

/-- What is still owed in the middle of a character: the range of the next octet, how many continuation
octets come after it, and the bits read so far. -/
structure Owed where
  lo : Nat
  hi : Nat
  later : Nat
  bits : Nat

/-- A reader between two octets: what it owes, and the characters and gaps read so far, last one first. -/
structure Reader where
  owed : Option Owed
  read : List (Option Char)

/-- The reader before the first octet. -/
def Reader.start : Reader := ⟨none, []⟩

/-- Takes an octet that begins a character. The ranges exclude overlong forms, surrogates and values
above `U+10FFFF` at the earliest octet that shows them. -/
def Reader.lead (read : List (Option Char)) (b : Nat) : Reader :=
  if b < 0x80 then ⟨none, some (Char.ofNat b) :: read⟩
  else if b < 0xC2 then ⟨none, none :: read⟩
  else if b < 0xE0 then ⟨some ⟨0x80, 0xBF, 0, b - 0xC0⟩, read⟩
  else if b = 0xE0 then ⟨some ⟨0xA0, 0xBF, 1, 0⟩, read⟩
  else if b = 0xED then ⟨some ⟨0x80, 0x9F, 1, 0xD⟩, read⟩
  else if b < 0xF0 then ⟨some ⟨0x80, 0xBF, 1, b - 0xE0⟩, read⟩
  else if b = 0xF0 then ⟨some ⟨0x90, 0xBF, 2, 0⟩, read⟩
  else if b < 0xF4 then ⟨some ⟨0x80, 0xBF, 2, b - 0xF0⟩, read⟩
  else if b = 0xF4 then ⟨some ⟨0x80, 0x8F, 2, 4⟩, read⟩
  else ⟨none, none :: read⟩

/-- Takes one octet. An octet outside the owed range leaves a gap and begins anew. -/
def Reader.feed (r : Reader) (octet : UInt8) : Reader :=
  let b := octet.toNat
  match r.owed with
  | none => lead r.read b
  | some o =>
    if o.lo ≤ b ∧ b ≤ o.hi then
      let bits := o.bits * 64 + (b - 0x80)
      match o.later with
      | 0 => ⟨none, some (Char.ofNat bits) :: r.read⟩
      | later + 1 => ⟨some ⟨0x80, 0xBF, later, bits⟩, r.read⟩
    else lead (none :: r.read) b

/-- The characters and gaps at the end of input, where an unfinished character is a gap. -/
def Reader.finish (r : Reader) : List (Option Char) :=
  match r.owed with
  | none => r.read.reverse
  | some _ => (none :: r.read).reverse

/-- The characters and gaps of a string of octets. -/
def pieces (octets : Octets) : List (Option Char) := (octets.foldl Reader.feed Reader.start).finish

/-- The character written for a gap. -/
def replacement : Char := '\uFFFD'

/-- Lossy reading: every gap becomes the replacement character. -/
def decodeLossy (octets : Octets) : Text := (pieces octets).map fun piece => piece.getD replacement

/-- Strict reading: a text only if there is no gap. -/
def decode? (octets : Octets) : Option Text :=
  let read := pieces octets
  if read.all Option.isSome then some (read.filterMap id) else none

/-- The number of octets of a text. -/
def size (t : Text) : Nat := t.foldl (fun n c => n + (encodeChar c).length) 0

end BlockHarness.Utf8
