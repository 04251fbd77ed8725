import BlockHarness.Number.Places
import BlockHarness.Program.Basic
import BlockHarness.Shell.Escape

/-! The small programs of the system: one that prints its arguments, and one that lets time pass. -/
namespace BlockHarness.Program
set_option autoImplicit false

open Shell (State Run)

/-! ## Printing -/

/-- The letters in front of the arguments that are printed, and the rest. -/
def echoLetters : List Text → Text × List Text
  | ('-' :: c :: cs) :: rest =>
    if (c :: cs).all ("neE".toList.contains ·) then
      let (letters, args) := echoLetters rest
      (c :: cs ++ letters, args)
    else ([], ('-' :: c :: cs) :: rest)
  | args => ([], args)

/-- Replaces escapes behind the reversed text `before`. The flag tells whether one of them has ended the output. -/
def replaceEscapes : Nat → Text → Text → Text × Bool
  | 0, before, _ => (before.reverse, false)
  | _, before, [] => (before.reverse, false)
  | fuel + 1, before, '\\' :: c :: rest =>
    let hex := (rest.take 2).takeWhile Shell.isHexDigit
    if c = 'c' then (before.reverse, true)
    else if c = 'x' ∧ hex ≠ [] then
      replaceEscapes fuel (Char.ofNat ((Text.toNat? 16 hex).getD 0) :: before) (rest.drop hex.length)
    else if c = '0' then let (d, rest) := Shell.Escape.octal 3 rest; replaceEscapes fuel (d :: before) rest
    else if Shell.isOctalDigit c then
      let (d, rest) := Shell.Escape.octal 3 (c :: rest); replaceEscapes fuel (d :: before) rest
    else
      match Shell.Escape.letter? c with
      | some d => replaceEscapes fuel (d :: before) rest
      | none => replaceEscapes fuel (c :: '\\' :: before) rest
  | fuel + 1, before, c :: rest => replaceEscapes fuel (c :: before) rest

/-- Prints the arguments; escapes in them mean nothing unless that is asked for. -/
def echo (args : List Text) : Run Unit := do
  let (letters, args) := echoLetters args
  let t := Text.joinWith [' '] args
  let isEscaped : Bool := (letters.reverse.find? (· ≠ 'n')) == some 'e'
  let (t, isEnded) := if isEscaped then replaceEscapes (t.length + 1) [] t else (t, false)
  Run.print (if isEnded || letters.contains 'n' then t else t ++ ['\n'])
  finish

/-! ## Time -/

/-- The number of microseconds that a text stands for: a number with a unit. -/
def timeOf? (t : Text) : Option Nat :=
  let units : List (Text × Nat) := [([], 1), (['s'], 1), (['m'], 60), (['h'], 3600), (['d'], 86400)]
  match Binary64.readFront? (t.dropWhile Shell.isSpace) with
  | none => none
  | some n =>
    match n.value, units.lookup n.rest with
    | .finite isNegative mantissa exponent, some unit =>
      if isNegative ∧ mantissa ≠ 0 then none
      else let (p, q) := Binary64.scale 2 exponent; some (mantissa * p * unit * 1000000 / q)
    | _, _ => none

/-- Lets the time pass that the arguments name. -/
def sleep (args : List Text) : Run Unit := do
  let a := Arguments.ofList ⟨[], []⟩ args
  match a.fault with
  | some fault => misuse fault 1
  | none =>
    if a.operands = [] then misuse "missing operand" 1
    else
      let wrong := a.operands.filter fun t => (timeOf? t).isNone
      if wrong ≠ [] then
        wrong.forM fun t => mishap (("invalid time interval " : Text) ++ quoted t) 1
        modify fun s => s.complain (("Try '" : Text) ++ s.name ++ " --help' for more information.")
      else
        let time := (a.operands.filterMap timeOf?).foldl (· + ·) 0
        modify fun s => { s with clock := s.clock + time }

end BlockHarness.Program
