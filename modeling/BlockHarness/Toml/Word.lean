import BlockHarness.Toml.Table

/-! TOML values that are written as one word: booleans, numbers, dates and times. -/
namespace BlockHarness.Toml
set_option autoImplicit false

/-! ## Numbers -/

def isDigit (c : Char) : Bool := '0' ≤ c && c ≤ '9'

/-- Removes the underscores of a number, each of which must stand between two digits. -/
def dropUnderscores? : Text → Option Text
  | [] => none
  | [c] => if c = '_' then none else some [c]
  | c :: '_' :: rest => if c = '_' then none else (dropUnderscores? rest).map (c :: ·)
  | c :: rest => if c = '_' then none else (dropUnderscores? rest).map (c :: ·)

/-- Digits of a base, with underscores between them. -/
def readDigits? (base : Nat) (t : Text) : Option Nat := (dropUnderscores? t).bind (Text.toNat? base)

/-- A sign, if there is one, and what follows it; the flag is set for a minus. -/
def splitSign : Text → Bool × Text
  | '-' :: t => (true, t)
  | '+' :: t => (false, t)
  | t => (false, t)

/-- Whether digits have no needless zero in front. -/
def isUnpadded : Text → Bool
  | '0' :: rest => rest = []
  | _ => true

/-- An integer, which must fit into 64 bits. Other bases take no sign. -/
def readInteger? (t : Text) : Option Int :=
  let value? : Option Int :=
    match t with
    | '0' :: 'x' :: digits => (readDigits? 16 digits).map fun n => (n : Int)
    | '0' :: 'o' :: digits => (readDigits? 8 digits).map fun n => (n : Int)
    | '0' :: 'b' :: digits => (readDigits? 2 digits).map fun n => (n : Int)
    | _ =>
      let (negative, digits) := splitSign t
      if isUnpadded digits then (readDigits? 10 digits).map fun n => if negative then -(n : Int) else n else none
  value?.filter fun i => -(Nat.pow 2 63 : Int) ≤ i && i < Nat.pow 2 63

/-- A floating-point number: a decimal integer, then a fraction or an exponent or both, or a special word. A
decimal too large for a finite number is refused unless it is negative. -/
def readFloating? (t : Text) : Option Binary64 :=
  let (negative, digits) := splitSign t
  if digits = "inf" then some (.infinite negative)
  else if digits = "nan" then some .nan
  else
    let (whole, rest) := digits.span fun c => isDigit c || c == '_'
    let (fraction?, rest) : Option Text × Text :=
      match rest with
      | '.' :: rest => let (part, rest) := rest.span fun c => isDigit c || c == '_'; (some part, rest)
      | _ => (none, rest)
    let exponent? : Option Text :=
      match rest with
      | 'e' :: rest => some (splitSign rest).2
      | 'E' :: rest => some (splitSign rest).2
      | _ => none
    let wellFormed (part : Option Text) : Bool := part.all fun part => (readDigits? 10 part).isSome
    if (fraction?.isSome || exponent?.isSome) && (exponent?.isSome || rest = []) && isUnpadded whole
        && wellFormed (some whole) && wellFormed fraction? && wellFormed exponent? then
      (Binary64.read? (t.filter (· ≠ '_'))).filter (· ≠ .infinite false)
    else none

/-! ## Dates and times -/

/-- A number of exactly `n` digits. -/
def readFixed? (n : Nat) (t : Text) : Option Nat := if t.length = n then Text.toNat? 10 t else none

def daysIn (year month : Nat) : Nat :=
  if month = 2 then (if year % 4 = 0 ∧ (year % 100 ≠ 0 ∨ year % 400 = 0) then 29 else 28)
  else if month = 4 ∨ month = 6 ∨ month = 9 ∨ month = 11 then 30
  else 31

/-- Whether a text is a date, year first. -/
def isDate (t : Text) : Bool :=
  match (t.splitOn '-').zip [4, 2, 2] |>.map fun (part, n) => readFixed? n part with
  | [some year, some month, some day] =>
    t.length == 10 && 1 ≤ month && month ≤ 12 && 1 ≤ day && day ≤ daysIn year month
  | _ => false

/-- Whether a text is hours and minutes. -/
def isClock (t : Text) : Bool :=
  match (t.splitOn ':').map (readFixed? 2) with
  | [some hour, some minute] => hour ≤ 23 && minute ≤ 59
  | _ => false

/-- Whether a text is a time of day with seconds and, maybe, a fraction of them. -/
def isTime (t : Text) : Bool :=
  let fractionOk :=
    match t.drop 8 with
    | [] => true
    | '.' :: digits => digits ≠ [] && digits.all isDigit
    | _ => false
  isClock (t.take 5) && fractionOk && t[5]? == some ':'
    && (readFixed? 2 ((t.drop 6).take 2)).any fun second => second ≤ 60

/-- Whether a text is a time of day, maybe with its distance from the meridian. -/
def isTimeWithOffset (t : Text) : Bool :=
  let time := t.takeWhile fun c => c ≠ 'Z' && c ≠ 'z' && c ≠ '+' && c ≠ '-'
  let offset := t.drop time.length
  isTime time &&
    match offset with
    | [] => true
    | ['Z'] | ['z'] => true
    | _ :: clock => isClock clock && !(offset.head? == some 'Z' || offset.head? == some 'z')

/-- Whether a text is a date, a time, or both with a letter between them. -/
def isDatetime (t : Text) : Bool :=
  isDate t || isTime t ||
    (isDate (t.take 10) && (t[10]? == some 'T' || t[10]? == some 't') && isTimeWithOffset (t.drop 11))

/-! ## Words -/

/-- A character that ends a word. -/
def endsWord (c : Char) : Bool := " \t\r\n,]\x7d#".toList.contains c

def Value.ofWord? (t : Text) : Option Value :=
  if t = "true" then some (.boolean true)
  else if t = "false" then some (.boolean false)
  else if isDatetime t then some .datetime
  else ((readFloating? t).map .floating).or ((readInteger? t).map .integer)

/-- Reads a word. Behind a date, a time may follow after a blank. -/
def readWord? (t : Text) : Option (Value × Text) :=
  let word := t.takeWhile fun c => !endsWord c
  let rest := t.drop word.length
  let time := (rest.drop 1).takeWhile fun c => !endsWord c
  if isDate word && rest.head? == some ' ' && isTimeWithOffset time then
    some (.datetime, rest.drop (1 + time.length))
  else (Value.ofWord? word).map fun value => (value, rest)

end BlockHarness.Toml
