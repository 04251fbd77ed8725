import BlockHarness.Number.Binary64

/-! Binary floating-point numbers with a given number of digits: positional, with an exponent, or in base sixteen.
A number that lies in the middle between two results goes to the even one. -/
namespace BlockHarness.Binary64
set_option autoImplicit false

/-! ## Decimal -/

/-- How a number is written: its digits without a sign, and the exponent behind them if it has one. -/
structure Written where
  digits : Text
  exponent : Text := []

/-- The ratio `p / q` with `places` digits behind the point; `keepsPoint` keeps a point with nothing behind it. -/
def fixed (keepsPoint : Bool) (places p q : Nat) : Text :=
  let ds := Text.ofNat (roundToEven (p * Nat.pow 10 places) q)
  let ds := List.replicate (places + 1 - ds.length) '0' ++ ds
  let ahead := ds.length - places
  ds.take ahead ++ (if places = 0 ∧ ¬ keepsPoint then [] else '.' :: ds.drop ahead)

/-- An exponent with its sign and at least two digits. -/
def exponentText (letter : Char) (e : Int) : Text :=
  let ds := Text.ofNat e.natAbs
  letter :: (if e < 0 then '-' else '+') :: (List.replicate (2 - ds.length) '0' ++ ds)

/-- The `places + 1` first digits of `p / q` and the place of the first one. -/
def leading (places p q : Nat) : Nat × Int :=
  if p = 0 then (0, 0)
  else
    let k := decimalPlace p q
    let (u, d) := scale 10 (places - k)
    let n := roundToEven (p * u) (q * d)
    if n = Nat.pow 10 (places + 1) then (n / 10, k + 1) else (n, k)

/-- The ratio `p / q` with one digit in front of the point and an exponent. -/
def scientific (keepsPoint : Bool) (letter : Char) (places p q : Nat) : Written :=
  let (n, k) := leading places p q
  ⟨fixed keepsPoint places n (Nat.pow 10 places), exponentText letter k⟩

/-- Digits without zeros at the end of those behind the point. -/
def withoutZeros (t : Text) : Text :=
  if t.contains '.' then Text.dropEndWhile (· == '.') (Text.dropEndWhile (· == '0') t) else t

/-- The ratio `p / q` with so many digits in all, with an exponent only where that is shorter. -/
def general (keepsPoint : Bool) (letter : Char) (digits p q : Nat) : Written :=
  let digits := max 1 digits
  let k := (leading (digits - 1) p q).2
  let w : Written :=
    if -4 ≤ k ∧ k < digits then ⟨fixed keepsPoint (digits - 1 - k).toNat p q, []⟩
    else scientific keepsPoint letter (digits - 1) p q
  if keepsPoint then w else { w with digits := withoutZeros w.digits }

/-! ## Base sixteen -/

/-- A number in base sixteen with the power of two that scales it. Without `places` no digit is left out. -/
def hexadecimal (keepsPoint : Bool) (places : Option Nat) (mantissa : Nat) (exponent : Int) : Written :=
  let power : Int := if mantissa = 0 then 0 else exponent + 52
  let dropped := 13 - (places.getD 13)
  let n := roundToEven mantissa (Nat.pow 16 dropped)
  let ds := Text.digitsOnto 16 (n + 1) n []
  let kept := 13 - dropped
  let ds := List.replicate (kept + 1 - ds.length) '0' ++ ds
  let ahead := ds.take (ds.length - kept)
  let behind := ds.drop (ds.length - kept)
  let behind := match places with
    | none => Text.dropEndWhile (· == '0') behind
    | some places => behind ++ List.replicate (places - 13) '0'
  let point : Text := if behind = [] ∧ ¬ keepsPoint then [] else ['.']
  let sign : Char := if power < 0 then '-' else '+'
  ⟨ahead ++ point ++ behind, 'p' :: sign :: Text.ofNat power.natAbs⟩

/-! ## Reading -/

/-- A number at the front of a text: its sign, its value, whether that is out of range, and the rest of the text. -/
structure Read where
  isNegative : Bool
  value : Binary64
  isOutOfRange : Bool
  rest : Text

/-- The exponent behind a letter; without digits there is none, and the text is left as it is. -/
def exponentOf (letter : Char) (t : Text) : Int × Text :=
  match t with
  | c :: rest =>
    if c.toLower = letter then
      let (isNegative, ds) : Bool × Text :=
        match rest with
        | '-' :: ds => (true, ds)
        | '+' :: ds => (false, ds)
        | ds => (false, ds)
      let (digits, behind) := takeDigits ds
      match Text.toNat? 10 digits with
      | some n => (if isNegative then -(n : Int) else n, behind)
      | none => (0, t)
    else (0, t)
  | [] => (0, t)

/-- A ratio that is scaled by a power of two, unless it is far outside the range. -/
def ofScaled (negative : Bool) (mantissa : Nat) (power : Int) : Binary64 :=
  let size : Int := Nat.log2 mantissa + power
  if mantissa = 0 ∨ size < -1200 then .finite negative 0 (-1074)
  else if 1200 < size then .infinite negative
  else let (u, d) := scale 2 power; ofRatio negative (mantissa * u) d

/-- Whether a number that is not zero as written has no exact and no normal counterpart. -/
def isBeyond (isZero isExact : Bool) : Binary64 → Bool
  | .finite _ m _ => !isZero && !isExact && m < mantissaBound / 2
  | _ => true

/-- Reads digits with a point in some base. -/
def pointDigits (isDigit : Char → Bool) (t : Text) : Text × Nat × Text :=
  let (whole, rest) := t.span isDigit
  match rest with
  | '.' :: more =>
    let (part, behind) := more.span isDigit
    if whole = [] ∧ part = [] then ([], 0, t) else (whole ++ part, part.length, behind)
  | rest => (whole, 0, rest)

/-- Reads a number without a sign. -/
def readMagnitude? (isNegative : Bool) (t : Text) : Option Read :=
  let word (w : Text) : Bool := (t.take w.length).map Char.toLower == w
  let isHex (c : Char) : Bool := (Text.digitValue? c).isSome
  let hex : Option Read :=
    match t with
    | '0' :: x :: rest =>
      if x = 'x' ∨ x = 'X' then
        let (digits, places, behind) := pointDigits isHex rest
        (Text.toNat? 16 digits).map fun n =>
          let (power, behind) := exponentOf 'p' behind
          let power := power - 4 * places
          let value := ofScaled isNegative n power
          ⟨isNegative, value, isBeyond (n = 0) (-1074 ≤ power) value, behind⟩
      else none
    | _ => none
  if word "infinity" then some ⟨isNegative, .infinite isNegative, false, t.drop 8⟩
  else if word "inf" then some ⟨isNegative, .infinite isNegative, false, t.drop 3⟩
  else if word "nan" then
    let rest := t.drop 3
    let inner := (rest.drop 1).takeWhile fun c => c.isAlphanum || c == '_'
    let isClosed := rest.head? == some '(' && (rest.drop (inner.length + 1)).head? == some ')'
    some ⟨isNegative, .nan, false, if isClosed then rest.drop (inner.length + 2) else rest⟩
  else if hex.isSome then hex
  else
    let (digits, places, behind) := pointDigits (fun c => '0' ≤ c && c ≤ '9') t
    (Text.toNat? 10 digits).map fun n =>
      let (e, behind) := exponentOf 'e' behind
      let value := ofDecimal isNegative n (e - places)
      ⟨isNegative, value, isBeyond (n = 0) false value, behind⟩

/-- Reads a number at the front of a text, behind a sign. -/
def readFront? : Text → Option Read
  | '-' :: t => readMagnitude? true t
  | '+' :: t => readMagnitude? false t
  | t => readMagnitude? false t

end BlockHarness.Binary64
