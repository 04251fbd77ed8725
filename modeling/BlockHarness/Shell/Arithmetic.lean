import BlockHarness.Shell.State

/-! Arithmetic expressions of the shell: integers of 64 bits and variables, with the operators of C other than those
that count up and down. An expression is worked out while it is read, so that what is wrong in front is told first. -/
namespace BlockHarness.Shell
set_option autoImplicit false

namespace Arithmetic

/-! ## Symbols -/

/-- A symbol of an expression; `unknown` stands for a character that has no place in one. -/
inductive Symbol where
  | number (value : Int)
  | named (name : Text)
  | sign (operator : Text)
  | unknown
  deriving DecidableEq, Repr

/-- The operators, longest first. -/
def operators : List Text :=
  Text.splitOn ' ' "<<= >>= <= >= << >> == != && || += -= *= /= %= &= ^= |= < > = ! & | + - * / % ^ ~ ( ) ? :"

/-- The symbols of a text. Nothing is read behind a character that is none. -/
def symbols : Nat → Text → List Symbol
  | 0, _ => []
  | _, [] => []
  | fuel + 1, c :: rest =>
    if c = ' ' ∨ c = '\t' ∨ c = '\n' then symbols fuel rest
    else if isDigit c then
      match Numeral.readSigned? 0 (c :: rest) with
      | some n => .number n.value :: symbols fuel n.rest
      | none => [.unknown]
    else if isNameStart c then
      let name := c :: rest.takeWhile isNameChar
      .named name :: symbols fuel ((c :: rest).drop name.length)
    else
      match operators.find? (·.isPrefixOf (c :: rest)) with
      | some op => .sign op :: symbols fuel ((c :: rest).drop op.length)
      | none => [.unknown]

/-! ## Operators -/

/-- The binary operators by how tightly they bind, from the loosest on. -/
def levels : List (List Text) :=
  [["|"], ["^"], ["&"], ["==", "!="], ["<=", ">=", "<", ">"], ["<<", ">>"], ["+", "-"], ["*", "/", "%"]]

/-- The operators of assignments with the operator that is applied first. -/
def assignments : List (Text × Text) := [
  ("=", ""), ("+=", "+"), ("-=", "-"), ("*=", "*"), ("/=", "/"), ("%=", "%"), ("<<=", "<<"), (">>=", ">>"),
  ("&=", "&"), ("^=", "^"), ("|=", "|")]

/-- Tells of a mistake in the expression `source`. -/
def fault {α : Type} (source message : Text) : Run α :=
  Run.fail ("arithmetic expression: " ++ message ++ ": \"" ++ source ++ "\"")

/-- The value of an operator with two operands. The quotient that does not fit into 64 bits is fatal. -/
def operate (source operator : Text) (a b : Int) : Run Int := do
  let truth (b : Bool) : Run Int := pure (if b then 1 else 0)
  let bits (f : Nat → Nat → Nat) : Run Int :=
    let word (n : Int) : Nat := (n % (Nat.pow 2 64 : Int)).natAbs
    pure (wrapSigned (f (word a) (word b)))
  let divided (f : Int → Int → Int) : Run Int := do
    if b = 0 then fault source "division by zero"
    else if b = -1 ∧ a = -Numeral.maxSigned - 1 then Run.stop (.killed 8)
    else return f a b
  match operator with
  | ['+'] => return wrapSigned (a + b)
  | ['-'] => return wrapSigned (a - b)
  | ['*'] => return wrapSigned (a * b)
  | ['/'] => divided Int.tdiv
  | ['%'] => divided Int.tmod
  | ['<', '<'] => return wrapSigned (a * Nat.pow 2 (b % 64).natAbs)
  | ['>', '>'] => return a.fdiv (Nat.pow 2 (b % 64).natAbs)
  | ['<'] => truth (a < b)
  | ['>'] => truth (b < a)
  | ['<', '='] => truth (a ≤ b)
  | ['>', '='] => truth (b ≤ a)
  | ['=', '='] => truth (a = b)
  | ['!', '='] => truth (a ≠ b)
  | ['&'] => bits Nat.land
  | ['^'] => bits Nat.xor
  | ['|'] => bits Nat.lor
  | _ => return b

/-- The value of a variable as a number; one without a value counts as zero. -/
def valueOf (name : Text) : Run Int := do
  let t := (← get).value name
  match integerOf? 0 t with
  | some n => return n
  | none => if t.all isSpace then return 0 else Run.fail ("Illegal number: " ++ t)

/-! ## Expressions -/

mutual

/-- A number, a variable, an operator with one operand or an expression in brackets. What is `idle` is read and not
worked out. -/
def primary : Nat → Text → Bool → List Symbol → Run (Int × List Symbol)
  | 0, source, _, _ => fault source "expecting primary"
  | fuel + 1, source, idle, symbols =>
    match symbols with
    | .number n :: rest => return (n, rest)
    | .named name :: rest => do
      let n ← if idle then pure 0 else valueOf name
      return (n, rest)
    | .sign ['('] :: rest => do
      match ← assignment fuel source idle rest with
      | (n, .sign [')'] :: rest) => return (n, rest)
      | _ => fault source "expecting ')'"
    | .sign ['+'] :: rest => primary fuel source idle rest
    | .sign ['-'] :: rest => do
      let (n, rest) ← primary fuel source idle rest
      return (wrapSigned (-n), rest)
    | .sign ['!'] :: rest => do
      let (n, rest) ← primary fuel source idle rest
      return (if n = 0 then 1 else 0, rest)
    | .sign ['~'] :: rest => do
      let (n, rest) ← primary fuel source idle rest
      return (-n - 1, rest)
    | _ => fault source "expecting primary"

/-- Operands of the operators of a level and all tighter ones. -/
def level : Nat → Text → Bool → List (List Text) → List Symbol → Run (Int × List Symbol)
  | 0, source, _, _, _ => fault source "expecting primary"
  | fuel + 1, source, idle, [], symbols => primary fuel source idle symbols
  | fuel + 1, source, idle, operators :: tighter, symbols => do
    let (a, rest) ← level fuel source idle tighter symbols
    operands fuel source idle operators tighter a rest

/-- The operands of a level behind the first one. -/
def operands : Nat → Text → Bool → List Text → List (List Text) → Int → List Symbol → Run (Int × List Symbol)
  | 0, source, _, _, _, _, _ => fault source "expecting primary"
  | fuel + 1, source, idle, operators, tighter, a, symbols =>
    match symbols with
    | .sign op :: rest =>
      if operators.contains op then do
        let (b, rest) ← level fuel source idle tighter rest
        let n ← if idle then pure b else operate source op a b
        operands fuel source idle operators tighter n rest
      else return (a, symbols)
    | _ => return (a, symbols)

/-- Expressions that all have to hold. -/
def conjunction : Nat → Text → Bool → List Symbol → Run (Int × List Symbol)
  | 0, source, _, _ => fault source "expecting primary"
  | fuel + 1, source, idle, symbols => do
    match ← level fuel source idle levels symbols with
    | (a, .sign ['&', '&'] :: rest) =>
      let (b, rest) ← conjunction fuel source (idle || a == 0) rest
      return (if a ≠ 0 ∧ b ≠ 0 then 1 else 0, rest)
    | result => return result

/-- Expressions of which one has to hold. -/
def disjunction : Nat → Text → Bool → List Symbol → Run (Int × List Symbol)
  | 0, source, _, _ => fault source "expecting primary"
  | fuel + 1, source, idle, symbols => do
    match ← conjunction fuel source idle symbols with
    | (a, .sign ['|', '|'] :: rest) =>
      let (b, rest) ← disjunction fuel source (idle || a != 0) rest
      return (if a ≠ 0 ∨ b ≠ 0 then 1 else 0, rest)
    | result => return result

/-- A choice between two expressions, or an expression that is none. -/
def choice : Nat → Text → Bool → List Symbol → Run (Int × List Symbol)
  | 0, source, _, _ => fault source "expecting primary"
  | fuel + 1, source, idle, symbols => do
    match ← disjunction fuel source idle symbols with
    | (a, .sign ['?'] :: rest) =>
      match ← assignment fuel source (idle || a == 0) rest with
      | (b, .sign [':'] :: rest) =>
        let (c, rest) ← choice fuel source (idle || a != 0) rest
        return (if a = 0 then c else b, rest)
      | _ => fault source "expecting ':'"
    | result => return result

/-- An assignment, or an expression that is none. -/
def assignment : Nat → Text → Bool → List Symbol → Run (Int × List Symbol)
  | 0, source, _, _ => fault source "expecting primary"
  | fuel + 1, source, idle, symbols =>
    match symbols with
    | .named name :: .sign sign :: rest =>
      match assignments.lookup sign with
      | none => choice fuel source idle symbols
      | some operator => do
        let (b, rest) ← assignment fuel source idle rest
        if idle then return (b, rest)
        else
          let n ← if operator = [] then pure b else do operate source operator (← valueOf name) b
          Run.assign name (Text.ofInt n)
          return (n, rest)
    | symbols => choice fuel source idle symbols

end

/-- The value of the expression that a text is. -/
def evaluate (t : Text) : Run Int := do
  match ← assignment (16 * t.length + 32) t false (symbols (t.length + 1) t) with
  | (n, []) => return n
  | _ => fault t "expecting EOF"

end Arithmetic
end BlockHarness.Shell
