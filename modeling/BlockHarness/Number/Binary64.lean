import BlockHarness.Text.Basic

/-! Binary floating-point numbers of 64 bits in exact arithmetic: the nearest one to a decimal, and the
shortest decimal that reads back as a given one. A number is a natural mantissa below `2 ^ 53` times a power of
two not below `2 ^ (-1074)`, so every comparison is one of natural numbers. -/
namespace BlockHarness
set_option autoImplicit false

/-- A number of the binary format with 53 bits of precision. -/
inductive Binary64 where
  | nan
  | infinite (negative : Bool)
  | finite (negative : Bool) (mantissa : Nat) (exponent : Int)
  deriving DecidableEq, Repr

namespace Binary64

/-! ## From decimal -/

/-- The power of two that every mantissa is below. -/
def mantissaBound : Nat := Nat.pow 2 53

/-- The scale factor `base ^ e` as numerator and denominator. -/
def scale (base : Nat) (e : Int) : Nat × Nat :=
  if e < 0 then (1, base.pow e.natAbs) else (base.pow e.natAbs, 1)

/-- The natural number nearest to `p / q`; of two equally near ones the even one. -/
def roundToEven (p q : Nat) : Nat :=
  let floor := p / q
  let twice := 2 * (p % q)
  if twice < q then floor
  else if q < twice then floor + 1
  else if floor % 2 = 0 then floor else floor + 1

/-- The number nearest to `p / q`; from the middle above the largest finite number on it is infinite. -/
def ofRatio (negative : Bool) (p q : Nat) : Binary64 :=
  if p = 0 then .finite negative 0 (-1074)
  else
    let low : Int := (Nat.log2 p : Int) - (Nat.log2 q : Int) - 53
    let fits (e : Int) : Bool := let (u, d) := scale 2 e; p * d < q * u * mantissaBound
    let e := max (-1074) (if fits low then low else low + 1)
    let (u, d) := scale 2 e
    let m := roundToEven (p * d) (q * u)
    let (m, e) := if m = mantissaBound then (mantissaBound / 2, e + 1) else (m, e)
    if 971 < e then .infinite negative else .finite negative m e

/-- The number nearest to `digits * 10 ^ exponent`. Exponents far outside the range are decided by size. -/
def ofDecimal (negative : Bool) (digits : Nat) (exponent : Int) : Binary64 :=
  let size : Int := (Text.ofNat digits).length + exponent
  if digits = 0 ∨ size < -400 then .finite negative 0 (-1074)
  else if 400 < size then .infinite negative
  else let (u, d) := scale 10 exponent; ofRatio negative (digits * u) d

/-- The digits at the front of a text, and the rest. -/
def takeDigits (t : Text) : Text × Text := t.span fun c => '0' ≤ c && c ≤ '9'

/-- Reads the exponent part of a decimal, which may be missing. -/
def readExponent? : Text → Option Int
  | [] => some 0
  | c :: rest =>
    if c = 'e' ∨ c = 'E' then
      match rest with
      | '-' :: ds => (Text.toNat? 10 ds).map fun n => -(n : Int)
      | '+' :: ds => (Text.toNat? 10 ds).map fun n => (n : Int)
      | ds => (Text.toNat? 10 ds).map fun n => (n : Int)
    else none

/-- Reads a decimal without a sign: digits with a point before, among or after them, and an exponent. -/
def readUnsigned? (negative : Bool) (t : Text) : Option Binary64 :=
  let (whole, rest) := takeDigits t
  let (part, rest) := match rest with
    | '.' :: more => takeDigits more
    | rest => ([], rest)
  match Text.toNat? 10 (whole ++ part), readExponent? rest with
  | some digits, some e => some (ofDecimal negative digits (e - part.length))
  | _, _ => none

/-- Reads a decimal with at most one sign. -/
def read? : Text → Option Binary64
  | '-' :: t => readUnsigned? true t
  | '+' :: t => readUnsigned? false t
  | t => readUnsigned? false t

/-! ## To decimal -/

/-- The decimal exponent of `p / q`, that is, the place of its first digit. -/
def decimalPlace (p q : Nat) : Int :=
  if q ≤ p then ((Text.ofNat (p / q)).length : Int) - 1
  else
    let places := (Text.ofNat (q / p)).length
    if q ≤ p * Nat.pow 10 (places - 1) then 1 - (places : Int) else -(places : Int)

/-- The decimal with the digits `n` at place `10 ^ k` that lies in the interval of those which read back as
`mantissa * 2 ^ exponent`: within half a unit above and below, a quarter below a power of two, ends included
for an even mantissa. -/
def readsBack (mantissa : Nat) (exponent : Int) (n : Nat) (k : Int) : Bool :=
  let (tu, td) := scale 10 k
  let (bu, bd) := scale 2 exponent
  let x := 4 * n * tu * bd
  let unit := bu * td
  let below := if mantissa = mantissaBound / 2 ∧ -1074 < exponent then 1 else 2
  let lo := (4 * mantissa - below) * unit
  let hi := (4 * mantissa + 2) * unit
  if mantissa % 2 = 0 then lo ≤ x && x ≤ hi else lo < x && x < hi

/-- The shortest digits that read back, with the place of the last one; `count` digits are tried first and at
most `fuel` more. -/
def shortestFrom (mantissa : Nat) (exponent : Int) (p q : Nat) (place : Int) : Nat → Nat → Nat × Int
  | 0, count => (p / q, count)
  | fuel + 1, count =>
    let k := place - (count : Int) + 1
    let (tu, td) := scale 10 k
    let floor := p * td / (q * tu)
    let down := readsBack mantissa exponent floor k && floor != 0
    let up := readsBack mantissa exponent (floor + 1) k
    let nearUp := q * tu ≤ 2 * (p * td % (q * tu))
    if down && up then (if nearUp then floor + 1 else floor, k)
    else if down then (floor, k)
    else if up then (floor + 1, k)
    else shortestFrom mantissa exponent p q place fuel (count + 1)

/-- Moves zeros at the end of the digits into the place of the last one; at most `fuel` of them. -/
def dropZeros : Nat → Nat → Int → Nat × Int
  | 0, digits, place => (digits, place)
  | fuel + 1, digits, place =>
    if digits % 10 = 0 then dropZeros fuel (digits / 10) (place + 1) else (digits, place)

/-- Digits with the place of the last one, written with a decimal point and at least one digit on each side. -/
def positional (digits : Nat) (place : Int) : Text :=
  let ds := Text.ofNat digits
  if 0 ≤ place then ds ++ List.replicate place.natAbs '0' ++ ".0"
  else
    let behind := place.natAbs
    let ds := List.replicate (behind + 1 - ds.length) '0' ++ ds
    let ahead := ds.length - behind
    ds.take ahead ++ "." ++ ds.drop ahead

/-- The shortest decimal that reads back, always with a decimal point and never with an exponent. -/
def render : Binary64 → Text
  | .nan => "NaN"
  | .infinite negative => if negative then "-inf" else "inf"
  | .finite negative m e =>
    let sign : Text := if negative then "-" else []
    if m = 0 then sign ++ "0.0"
    else
      let (p, q) := let (u, d) := scale 2 e; (m * u, d)
      let (digits, place) := shortestFrom m e p q (decimalPlace p q) 20 1
      let (digits, place) := dropZeros 20 digits place
      sign ++ positional digits place

end Binary64
end BlockHarness
