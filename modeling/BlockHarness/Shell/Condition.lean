import BlockHarness.Shell.State

/-! The conditions that a script can test: about texts, numbers and files, joined by operators. -/
namespace BlockHarness.Shell
set_option autoImplicit false

namespace Condition

/-! ## Words -/

/-- What a word of a condition is. -/
inductive Kind where
  | ending
  | operand
  | unary (letter : Char)
  | binary (operator : Text)
  | negation
  | conjunction
  | disjunction
  | opening
  | closing
  deriving DecidableEq, Repr

def binaryOperators : List Text :=
  Text.splitOn ' ' "= != < > -eq -ne -ge -gt -le -lt -nt -ot -ef"

def operator? (word : Text) : Option Kind :=
  match word with
  | ['-', 'a'] => some .conjunction
  | ['-', 'o'] => some .disjunction
  | ['!'] => some .negation
  | ['('] => some .opening
  | [')'] => some .closing
  | _ =>
    if binaryOperators.contains word then some (.binary word)
    else
      match word with
      | ['-', c] => if "rwxefdcbpugkstznhOGLS".toList.contains c then some (.unary c) else none
      | _ => none

def isBinary (word : Text) : Bool :=
  match operator? word with
  | some (.binary _) => true
  | _ => false

/-- What the first of some words is. An operator without an operand, or with an operator between two operands
behind it, is an operand itself. -/
def kindOf : List Text → Kind
  | [] => .ending
  | word :: rest =>
    match operator? word with
    | some (.unary c) =>
      let isOperand :=
        match rest with
        | [] => true
        | [_] => false
        | next :: _ => isBinary next
      if isOperand then .operand else .unary c
    | some .opening => if rest = [] then .operand else .opening
    | some kind => kind
    | none => .operand

/-! ## Files -/

/-- What stands at the end of a path for a process; the name of an open descriptor stands for what that leads to. -/
def entry? (s : State) (path : Text) : Option (Location × Entry) :=
  match s.files.resolve false (toText path) with
  | .error _ => none
  | .ok l =>
    match s.files.at? l with
    | none => none
    | some (.device (.opened n)) =>
      match s.stream? n with
      | none => none
      | some (_, .file l _ _) => (s.files.at? l).map fun entry => (l, entry)
      | some (_, .folder l) => some (l, .directory)
      | some (_, .device device) => some (l, .device device)
      | some _ => some (l, .device (.opened n))
    | some entry => some (l, entry)

def isPipe (s : State) (path : Text) : Bool :=
  match entry? s path with
  | some (_, .device (.opened _)) => true
  | _ => false

def isLink (s : State) (path : Text) : Bool :=
  match s.files.resolve false (toText path) with
  | .error _ => false
  | .ok l =>
    ([["bin"], ["lib"], ["sbin"]] : List Location).contains l ||
      (match s.files.at? l with
        | some (.device (.opened _)) => true
        | _ => false)

/-- Whether a file has the property that a letter names. -/
def fileHolds (s : State) (letter : Char) (path : Text) : Bool :=
  let entry := entry? s path
  match letter with
  | 'd' => entry.any fun e => e.2 == .directory
  | 'f' =>
    entry.any fun e => match e.2 with
      | .file _ _ | .utility _ => true
      | _ => false
  | 's' =>
    entry.any fun e => match e.2 with
      | .file content _ => content ≠ []
      | .directory | .utility _ => true
      | .device _ => false
  | 'x' =>
    entry.any fun e => match e.2 with
      | .file _ isExecutable => isExecutable
      | .directory | .utility _ => true
      | .device _ => false
  | 'c' =>
    entry.any fun e => match e.2 with
      | .device (.opened _) => false
      | .device _ => true
      | _ => false
  | 'p' => isPipe s path
  | 'h' | 'L' => isLink s path
  | 'k' => entry.any fun e => ([["tmp"], ["var", "tmp"]] : List Location).contains e.1
  | 'b' | 'u' | 'g' | 'S' => false
  | _ => entry.isSome

/-! ## Operators -/

def numberOf (t : Text) : Run Int :=
  match integerOf? 10 t with
  | some n => pure n
  | none => Run.fail ("Illegal number: " ++ t)

/-- Whether an operand fulfils the operator with a letter. -/
def unaryHolds (letter : Char) (operand : Text) : Run Bool := do
  match letter with
  | 'n' => return operand ≠ []
  | 'z' => return operand = []
  | 't' => do
    let _ ← numberOf operand
    return false
  | letter => return fileHolds (← get) letter operand

/-- Whether an operator holds between two operands. -/
def binaryHolds (left operator right : Text) : Run Bool := do
  let compare (holds : Int → Int → Bool) : Run Bool := do
    let n ← numberOf left
    let m ← numberOf right
    return holds n m
  let files (holds : State → Location → Location → Bool) : Run Bool := do
    let s ← get
    match entry? s left, entry? s right with
    | some (l, _), some (m, _) => return holds s l m
    | _, _ => return false
  match operator with
  | ['='] => return left = right
  | ['!', '='] => return left ≠ right
  | ['<'] => return left < right
  | ['>'] => return right < left
  | ['-', 'e', 'q'] => compare fun n m => n = m
  | ['-', 'n', 'e'] => compare fun n m => n ≠ m
  | ['-', 'l', 't'] => compare fun n m => n < m
  | ['-', 'l', 'e'] => compare fun n m => n ≤ m
  | ['-', 'g', 't'] => compare fun n m => m < n
  | ['-', 'g', 'e'] => compare fun n m => m ≤ n
  | ['-', 'n', 't'] => files State.isNewer
  | ['-', 'o', 't'] => files fun s l m => s.isNewer m l
  | _ => files fun _ l m => l = m

/-- Says that an operator is out of place or lacks an operand. -/
def fault {α : Type} (operator message : Text) : Run α :=
  Run.fail (if operator = [] then message else operator ++ ": " ++ message)

/-! ## Conditions -/

mutual

/-- Conditions of which one has to hold. The first word is of the kind `kind`; of the words, those from the last one
that was used on are given back. -/
def anyHolds : Nat → Kind → List Text → Run (Bool × List Text)
  | 0, _, words => return (false, words)
  | fuel + 1, kind, words => do
    let (a, words) ← allHold fuel kind words
    if kindOf (words.drop 1) = .disjunction then
      let words := words.drop 2
      let (b, words) ← anyHolds fuel (kindOf words) words
      return (a || b, words)
    else return (a, words)

def allHold : Nat → Kind → List Text → Run (Bool × List Text)
  | 0, _, words => return (false, words)
  | fuel + 1, kind, words => do
    let (a, words) ← negationHolds fuel kind words
    if kindOf (words.drop 1) = .conjunction then
      let words := words.drop 2
      let (b, words) ← allHold fuel (kindOf words) words
      return (a && b, words)
    else return (a, words)

/-- A condition that may be negated. -/
def negationHolds : Nat → Kind → List Text → Run (Bool × List Text)
  | 0, _, words => return (false, words)
  | fuel + 1, kind, words =>
    if kind = .negation then do
      let next := kindOf (words.drop 1)
      let (a, words) ← negationHolds fuel next (if next = .ending then words else words.drop 1)
      return (!a, words)
    else singleHolds fuel kind words

/-- A condition that is not made of others, or one in brackets. -/
def singleHolds : Nat → Kind → List Text → Run (Bool × List Text)
  | 0, _, words => return (false, words)
  | fuel + 1, kind, words =>
    match kind with
    | .ending => return (false, words)
    | .opening => do
      let words := words.drop 1
      let next := kindOf words
      if next = .closing then return (false, words)
      else
        let (a, words) ← anyHolds fuel next words
        let words := words.drop 1
        if kindOf words ≠ .closing then fault [] "closing paren expected"
        return (a, words)
    | .unary c =>
      match words.drop 1 with
      | [] => fault ['-', c] "argument expected"
      | operand :: rest => return (← unaryHolds c operand, operand :: rest)
    | _ =>
      match words with
      | [] => return (false, [])
      | left :: rest =>
        match kindOf rest, rest with
        | .binary operator, _ :: right :: behind => return (← binaryHolds left operator right, right :: behind)
        | .binary operator, _ => fault operator "argument expected"
        | _, _ => return (left ≠ [], words)

end

/-- Whether a condition holds. Three words with an operator in the middle are always a comparison, and brackets
around up to four words or a negation in front of them come first. -/
def holds (words : List Text) : Run Bool := do
  if words = [] then return false
  let isComparison := words.length = 3 && (words[1]?).any isBinary
  let isShort := words.length = 3 || words.length = 4
  let (isNegated, words) : Bool × List Text :=
    if isComparison || !isShort then (false, words)
    else if words.head? = some ['('] ∧ words.getLast? = some [')'] then (false, (words.drop 1).dropLast)
    else if words.head? = some ['!'] then (true, words.drop 1)
    else (false, words)
  let kind := if isComparison then .operand else kindOf words
  let (a, rest) ← anyHolds (4 * words.length + 8) kind words
  match rest with
  | word :: _ :: _ => fault word "unexpected operator"
  | _ => return a != isNegated

end Condition
end BlockHarness.Shell
