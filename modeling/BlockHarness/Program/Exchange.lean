import BlockHarness.Program.Basic

/-! The program that replaces characters by others, removes them, or leaves one of each run. Sets of characters are
written with ranges, classes, escapes and repetitions. -/
namespace BlockHarness.Program
set_option autoImplicit false

open Shell (State Run)

namespace Exchange

/-! ## Sets -/

/-- A part of a set: a character, a range, a class, a class of equivalent characters, or a repetition, which fills up
the set if it has no count. -/
inductive Part where
  | one (c : Char)
  | range (first last : Char)
  | named (name : Text)
  | like (c : Char)
  | repeated (c : Char) (count : Nat)
  deriving DecidableEq, Repr

/-- A computation that may end with a message. -/
abbrev Reading := ExceptT Text (StateM (List Text))

def refuse {m : Type → Type} [MonadExcept Text m] {α : Type} (message : Text) : m α := throw message

def warn (message : Text) : Reading Unit := modify (message :: ·)

/-- Replaces escapes; a character from one is marked. -/
def unescape : Nat → Text → Reading (List (Char × Bool))
  | 0, _ => return []
  | _, [] => return []
  | _, ['\\'] => do
    warn "warning: an unescaped backslash at end of string is not portable"
    return [('\\', false)]
  | fuel + 1, '\\' :: c :: rest => do
    let value (t : Text) : Nat := (Text.toNat? 8 t).getD 0
    let digits := ((c :: rest).take 3).takeWhile Shell.isOctalDigit
    if digits = [] then
      let c := ([('a', '\x07'), ('b', '\x08'), ('f', '\x0c'), ('n', '\n'), ('r', '\r'), ('t', '\t'),
        ('v', '\x0b')] : List (Char × Char)).lookup c |>.getD c
      return (c, true) :: (← unescape fuel rest)
    else if value digits < 256 then
      return (Char.ofNat (value digits), true) :: (← unescape fuel ((c :: rest).drop digits.length))
    else
      let two := digits.take 2
      let third := digits.drop 2
      warn (("warning: the ambiguous octal escape \\" : Text) ++ digits ++
        " is being\n\tinterpreted as the 2-byte sequence \\0" ++ two ++ ", " ++ third)
      return (Char.ofNat (value two), true) :: (← unescape fuel ((c :: rest).drop 2))
  | fuel + 1, c :: rest => return (c, false) :: (← unescape fuel rest)

/-- A character as messages show it. -/
def printable (c : Char) : Text := if Shell.isVisible c || c == ' ' then [c] else
  '\\' :: [c.toNat / 64 % 8, c.toNat / 8 % 8, c.toNat % 8].map Text.digit

def printableText (t : List (Char × Bool)) : Text := t.flatMap fun c => printable c.1

/-- The text up to a closing mark, and what is behind its bracket. -/
def upTo? (mark : Char) (before : List (Char × Bool)) :
    List (Char × Bool) → Option (List (Char × Bool) × List (Char × Bool))
  | (c, false) :: (']', false) :: rest =>
    if c = mark then some (before.reverse, rest) else upTo? mark ((c, false) :: before) ((']', false) :: rest)
  | c :: rest => upTo? mark (c :: before) rest
  | [] => none

/-- Whether a text begins with an asterisk, digits and a closing bracket. -/
def isCount : List (Char × Bool) → Bool
  | ('*', false) :: rest => (rest.dropWhile fun c => Shell.isDigit c.1).head? == some (']', false)
  | _ => false

/-- The repetition that a text behind a bracket is, and what follows it. -/
def repetition? (t : List (Char × Bool)) : Reading (Option (Part × List (Char × Bool))) := do
  match t with
  | (c, _) :: ('*', false) :: rest =>
    let inner := rest.takeWhile fun d => d != (']', false) && !d.2
    if (rest.drop inner.length).head? = some (']', false) then
      let digits := inner.map (·.1)
      let behind := rest.drop (inner.length + 1)
      if digits = [] then return some (.repeated c 0, behind)
      else
        let base := if digits.head? = some '0' then 8 else 10
        match Text.toNat? base digits with
        | some n => return some (.repeated c n, behind)
        | none =>
          refuse (("invalid repeat count " : Text) ++ quoted (printableText inner) ++ " in [c*n] construct")
    else return none
  | _ => return none

def parts : Nat → List (Char × Bool) → Reading (List Part)
  | 0, _ => return []
  | fuel + 1, t =>
    match t with
    | a :: b :: c :: rest => do
      let repeated ← if a = ('[', false) then repetition? (b :: c :: rest) else pure none
      let goOn : Reading (List Part) := do
        match repeated with
        | some (part, rest) => return part :: (← parts fuel rest)
        | none =>
          if b = ('-', false) then
            if c.1 < a.1 then
              refuse (("range-endpoints of '" : Text) ++ printable a.1 ++ "-" ++ printable c.1 ++
                "' are in reverse collating sequence order")
            else return .range a.1 c.1 :: (← parts fuel rest)
          else return .one a.1 :: (← parts fuel (b :: c :: rest))
      let bracketed := if a = ('[', false) ∧ (b = (':', false) ∨ b = ('=', false)) then
        upTo? b.1 [] (c :: rest) else none
      match bracketed with
      | none => goOn
      | some (inner, behind) =>
        let name := inner.map (·.1)
        if b.1 = ':' then
          if name = [] then refuse "missing character class name '[::]'"
          else if (Shell.characterClasses.lookup name).isSome then
            return .named name :: (← parts fuel behind)
          else if isCount (c :: rest) then goOn
          else refuse (("invalid character class " : Text) ++ quoted (printableText inner))
        else
          match name with
          | [] => refuse "missing equivalence class character '[==]'"
          | [d] => return .like d :: (← parts fuel behind)
          | _ =>
            if isCount (c :: rest) then goOn
            else refuse (printableText inner ++ ": equivalence class operand must be a single character")
    | rest => return rest.map fun c => .one c.1

def ofText (t : Text) : Reading (List Part) := do parts (t.length + 1) (← unescape (t.length + 1) t)

/-! ## Members -/

def octets : List Char := (List.range 256).map Char.ofNat

def Part.members : Part → List Char
  | .one c | .like c => [c]
  | .range a b => (List.range (b.toNat + 1 - a.toNat)).map fun n => Char.ofNat (a.toNat + n)
  | .named name => octets.filter ((Shell.characterClasses.lookup name).getD fun _ => false)
  | .repeated c n => List.replicate n c

/-- The name of a class that letters can be changed to. -/
def Part.case? : Part → Option Text
  | .named name => if name = "lower" ∨ name = "upper" then some name else none
  | _ => none

/-- A member with the class that it comes from, if letters can be changed to it, and whether it is the first one of
its part. -/
structure Member where
  char : Char
  case : Option Text
  isFirst : Bool
  part : Nat

def members (set : List Part) : List Member :=
  set.zipIdx.flatMap fun (part, k) =>
    part.members.zipIdx.map fun (c, n) => ⟨c, part.case?, n = 0, k⟩

/-- The number of members, not counting a repetition that fills up. -/
def size (set : List Part) : Nat := (set.map fun part => part.members.length).foldl (· + ·) 0

def Part.isFilling : Part → Bool
  | .repeated _ 0 => true
  | _ => false

/-- Whether a part is a class. -/
def Part.isNamed : Part → Bool
  | .named _ => true
  | _ => false

/-- Whether the classes of letters in both sets begin at the same places; the members that they have more than one
are not counted. The answer is the sizes that count. -/
def alignCases : Nat → List Member → List Member → Nat → Nat → Except Text (Nat × Nat)
  | 0, _, _, n, m => .ok (n, m)
  | fuel + 1, a, b, n, m =>
    match a, b with
    | a, y :: b =>
      let isAligned : Bool := match a with
        | x :: _ => x.isFirst && x.case.isSome
        | [] => false
      if y.isFirst && y.case.isSome && !isAligned then
        .error "misaligned [:upper:] and/or [:lower:] construct"
      else
        match a with
        | [] => .ok (n, m)
        | x :: a =>
          if y.case.isSome then
            alignCases fuel (a.dropWhile (·.part = x.part)) (b.dropWhile (·.part = y.part)) (n - 25) (m - 25)
          else alignCases fuel a b n m
    | _, [] => .ok (n, m)

/-- The pairs of characters that are exchanged, later ones first. -/
def pairs : Nat → List Member → List Member → List (Char × Char) → List (Char × Char)
  | 0, _, _, found => found
  | fuel + 1, x :: a, y :: b, found =>
    let skip (new : List (Char × Char)) : List (Char × Char) :=
      pairs fuel (a.dropWhile (·.part = x.part)) (b.dropWhile (·.part = y.part)) (new ++ found)
    if x.case = some "lower" ∧ y.case = some "upper" then
      skip ((octets.filter Shell.isLower).map fun c => (c, c.toUpper))
    else if x.case = some "upper" ∧ y.case = some "lower" then
      skip ((octets.filter Shell.isUpper).map fun c => (c, c.toLower))
    else pairs fuel a b ((x.char, y.char) :: found)
  | _, _, _, found => found

/-! ## Changes -/

structure Request where
  complements : Bool
  deletes : Bool
  squeezes : Bool
  truncates : Bool

/-- A text in which each run of a character that fulfils a condition is a single one. -/
def squeeze (holds : Char → Bool) : Text → Text
  | a :: b :: rest => if a = b ∧ holds a then squeeze holds (b :: rest) else a :: squeeze holds (b :: rest)
  | t => t

/-- The second set filled up to a size. -/
def filled (set : List Part) (n : Nat) : List Part :=
  if n < size set then set
  else set.map fun part =>
    match part with
    | .repeated c 0 => .repeated c (n - size set)
    | part => part

/-- The character by which a set goes on. -/
def lastOf : Part → Except Text Char
  | .one c | .like c | .range _ c | .repeated c _ => .ok c
  | .named _ => .error ("when translating with string1 longer than string2,\n" ++
      "the latter string must not end with a character class")

/-- The change that two sets describe. -/
def exchange (r : Request) (first second : List Part) : Except Text (Text → Text) := do
  let own := (members first).map (·.char)
  let count := if r.complements then (octets.filter fun c => !own.contains c).length else own.length
  if first.any Part.isFilling then refuse "the [c*] repeat construct may not appear in string1"
  let fills := (second.filter Part.isFilling).length
  let second := if fills = 1 then filled second count else second
  if 1 < fills then refuse "only one [c*] repeat construct may appear in string2"
  if second.any fun part => match part with | .like _ => true | _ => false then
    refuse "[=c=] expressions may not appear in string2 when translating"
  if second.any fun part => part.isNamed && part.case?.isNone then
    refuse ("when translating, the only character classes that may appear in\n" ++
      "string2 are 'upper' and 'lower'")
  let (n, m) ←
    if r.complements || !second.any Part.isNamed then pure (count, size second)
    else alignCases 600 (members first) (members second) count (size second)
  let second ←
    if m < n && !r.truncates then do
      if m = 0 then refuse "when not truncating set1, string2 must be non-empty"
      match second.getLast? with
      | some part => pure (second ++ [.repeated (← lastOf part) (n - m)])
      | none => pure second
    else pure second
  let targets := (members second).map (·.char)
  if r.complements && first.any Part.isNamed
      && !(targets.length = count && targets.all fun c => some c == targets.head?) then
    refuse ("when translating with complemented character classes,\n" ++
      "string2 must map all characters in the domain to one")
  let table : List (Char × Char) :=
    if r.complements then ((octets.filter fun c => !own.contains c).zip targets)
    else pairs 600 (members first) (members second) []
  let change (t : Text) : Text := t.map fun c => (table.lookup c).getD c
  return fun t => if r.squeezes then squeeze targets.contains (change t) else change t

def change (r : Request) (sets : List (List Part)) : Except Text (Text → Text) := do
  let holds (first : List Part) : Char → Bool :=
    let own := (members first).map (·.char)
    fun c => own.contains c != r.complements
  let filling : Except Text Unit := refuse "the [c*] repeat construct may not appear in string1"
  match sets with
  | [first] =>
    if first.any Part.isFilling then filling
    let holds := holds first
    return fun t => if r.deletes then t.filter fun c => !holds c else squeeze holds t
  | [first, second] =>
    if r.deletes then
      if first.any Part.isFilling then filling
      if second.any Part.isFilling then
        refuse "the [c*] construct may appear in string2 only when translating"
      let holds := holds first
      let kept := (members second).map (·.char)
      return fun t => squeeze kept.contains (t.filter fun c => !holds c)
    else exchange r first second
  | _ => return id

def options : Options where
  letters := "AcCdst"
  words := [⟨"complement", 'c', .none⟩, ⟨"delete", 'd', .none⟩, ⟨"squeeze-repeats", 's', .none⟩,
    ⟨"truncate-set1", 't', .none⟩]

/-- What is wrong with the number of sets, if anything is. -/
def countFault (r : Request) (operands : List Text) : Option Text :=
  let least := if r.deletes = r.squeezes then 2 else 1
  let most := if r.deletes ∧ ¬ r.squeezes then 1 else 2
  let given := operands.length
  if given = 0 then some "missing operand"
  else if given < least then
    some (("missing operand after " : Text) ++ quoted (operands.getLast?.getD []) ++
      (if r.squeezes then "\nTwo strings must be given when both deleting and squeezing repeats."
        else "\nTwo strings must be given when translating."))
  else if most < given then
    some (("extra operand " : Text) ++ quoted ((operands[most]?).getD []) ++
      (if given = 2 then ("\nOnly one string may be given when deleting without squeezing repeats." : Text) else []))
  else none

end Exchange

/-- Replaces, removes or squeezes characters of the input. -/
def exchange (args : List Text) : Run Unit := do
  let a := Exchange.options.read true (args.length + 1) args
  match a.fault with
  | some fault => misuse fault 1
  | none =>
    let r : Exchange.Request := ⟨a.has 'c' || a.has 'C', a.has 'd', a.has 's', a.has 't'⟩
    match Exchange.countFault r a.operands with
    | some fault => misuse fault 1
    | none =>
      let rec readSets : List Text → Run (Option (List (List Exchange.Part)))
        | [] => return some []
        | t :: rest => do
          let (result, warnings) := (Exchange.ofText t).run.run []
          warnings.reverse.forM complain
          match result with
          | .error fault =>
            mishap fault 1
            return none
          | .ok set => return (← readSets rest).map (set :: ·)
      match ← readSets a.operands with
      | none => pure ()
      | some sets =>
        match Exchange.change r sets with
        | .error fault => mishap fault 1
        | .ok change =>
          match ← Run.receive 0 .all with
          | .error e => mishap ("read error: " ++ reason e) 1
          | .ok t =>
            Run.print (change t)
            finish

end BlockHarness.Program
