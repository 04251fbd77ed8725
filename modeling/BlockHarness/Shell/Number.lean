import BlockHarness.Shell.Character

/-! Integers at the front of texts, as programs read their arguments: white space, a sign and digits. What does not
fit into 64 bits is replaced by the nearest number that does. -/
namespace BlockHarness.Shell
set_option autoImplicit false

/-- What has been read at the front of a text: a number, whether the digits meant another one that is out of range,
and the rest of the text. -/
structure Numeral where
  value : Int
  isOutOfRange : Bool
  rest : Text

namespace Numeral

/-- The greatest integer of 64 bits. -/
def maxSigned : Int := 9223372036854775807

/-- The greatest natural number of 64 bits. -/
def maxUnsigned : Int := 18446744073709551615

/-- A sign, if there is one, and what follows it; the flag is set for a minus. -/
def splitSign : Text → Bool × Text
  | '-' :: t => (true, t)
  | '+' :: t => (false, t)
  | t => (false, t)

/-- The base of a number and its digits with all that follows. Base zero leaves the base to the number. -/
def splitBase (base : Nat) (t : Text) : Nat × Text :=
  if base ≠ 0 then (base, t)
  else
    match t with
    | '0' :: x :: d :: rest =>
      if (x == 'x' || x == 'X') && isHexDigit d then (16, d :: rest)
      else if (x == 'b' || x == 'B') && (d == '0' || d == '1') then (2, d :: rest)
      else (8, t)
    | '0' :: _ => (8, t)
    | t => (10, t)

/-- The magnitude of a number at the front of a text, whether it is negative, and the rest. -/
def magnitude? (base : Nat) (t : Text) : Option (Bool × Nat × Text) :=
  let (isNegative, t) := splitSign (t.dropWhile isSpace)
  let (base, t) := splitBase base t
  let digits := t.takeWhile fun c => (Text.digitValue? c).any (· < base)
  (Text.toNat? base digits).map fun n => (isNegative, n, t.drop digits.length)

def readSigned? (base : Nat) (t : Text) : Option Numeral :=
  (magnitude? base t).map fun (isNegative, n, rest) =>
    let value : Int := if isNegative then -n else n
    if maxSigned < value then ⟨maxSigned, true, rest⟩
    else if value < -maxSigned - 1 then ⟨-maxSigned - 1, true, rest⟩
    else ⟨value, false, rest⟩

/-- Reads a natural number; a negative one counts from the greatest one down. -/
def readUnsigned? (base : Nat) (t : Text) : Option Numeral :=
  (magnitude? base t).map fun (isNegative, n, rest) =>
    if maxUnsigned < n then ⟨maxUnsigned, true, rest⟩
    else ⟨if isNegative then (-n : Int) % (maxUnsigned + 1) else n, false, rest⟩

end Numeral

/-- A whole text as an integer of 64 bits in a base. -/
def integerOf? (base : Nat) (t : Text) : Option Int :=
  match Numeral.readSigned? base t with
  | some n => if n.isOutOfRange || !n.rest.all isSpace then none else some n.value
  | none => none

/-- A whole text as a count: a decimal number that is not negative and fits into 31 bits. -/
def countOf? (t : Text) : Option Nat :=
  match integerOf? 10 t with
  | some n => if 0 ≤ n ∧ n < 2147483648 then some n.natAbs else none
  | none => none

/-- An integer in 64 bits. -/
def wrapSigned (n : Int) : Int := n.bmod (Nat.pow 2 64)

end BlockHarness.Shell
