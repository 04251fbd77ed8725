import BlockHarness.Shell.Pattern

/-! Commands of the shell in which the programs under test are written. A script is a text with one character for
each octet of its file, and so is every value in it. -/
namespace BlockHarness.Shell
set_option autoImplicit false

/-- What a redirection opens a file for: reading, writing to an empty file, to a new one or one that may be
overwritten, to the end of one, or reading and writing. -/
inductive Opening where
  | read
  | write
  | overwrite
  | append
  | update
  deriving DecidableEq, Repr

mutual

/-- A part of a word: text outside quotes, text that stands for itself, a quote, the value of a parameter, what a
command prints, or the value of an expression. -/
inductive Part where
  | plain (text : Text)
  | guarded (text : Text)
  | mark
  | parameter (name : Text) (change : Change)
  | output (body : Command)
  | arithmetic (expression : List Part)

/-- What is made of the value of a parameter. With `orEmpty` an empty value counts as an absent one, and `unknown`
is a change that does not mean anything. -/
inductive Change where
  | keep
  | unknown
  | length
  | orElse (orEmpty : Bool) (word : List Part)
  | orAssign (orEmpty : Bool) (word : List Part)
  | orFail (orEmpty : Bool) (word : List Part)
  | andThen (orEmpty : Bool) (word : List Part)
  | cut (side : Side) (longest : Bool) (pattern : List Part)

/-- A redirection of a descriptor to a file, to a text that the script holds, or to where another one leads. -/
inductive Redirection where
  | file (descriptor : Nat) (opening : Opening) (path : List Part)
  | document (descriptor : Nat) (number : Nat)
  | duplicate (descriptor : Nat) (target : List Part)

/-- A command. Those that can fail on their own know their line. -/
inductive Command where
  | nothing
  | simple (line : Nat) (assignments : List (Text × List Part)) (words : List (List Part))
      (redirections : List Redirection)
  | sequence (first second : Command)
  | ifOk (first second : Command)
  | ifFailed (first second : Command)
  | negation (body : Command)
  | pipe (inBackground : Bool) (members : List Command)
  | background (line : Nat) (body : Command) (redirections : List Redirection)
  | subshell (line : Nat) (body : Command) (redirections : List Redirection)
  | redirected (line : Nat) (body : Command) (redirections : List Redirection)
  | loop (untilOk : Bool) (condition body : Command)
  | forEach (line : Nat) (name : Text) (words : List (List Part)) (body : Command)
  | branch (condition yes no : Command)
  | choose (line : Nat) (word : List Part) (cases : List (List (List Part) × Command))
  | define (line : Nat) (name : Text) (body : Command)

end

/-- The commands of the shell whose names no function may have. -/
def specialCommands : List Text :=
  [".", ":", "break", "continue", "eval", "exec", "exit", "export", "local", "readonly", "return", "set", "shift",
    "times", "trap", "unset"]

abbrev Word := List Part

namespace Word

/-- The name and the value of a word that is an assignment. -/
def assignment? : Word → Option (Text × Word)
  | .plain t :: parts =>
    let name := t.takeWhile isNameChar
    match t.drop name.length with
    | '=' :: rest => if isName name then some (name, if rest = [] then parts else .plain rest :: parts) else none
    | _ => none
  | _ => none

/-- The text of a word that is nothing but text outside quotes. -/
def plainText? : Word → Option Text
  | [.plain t] => some t
  | _ => none

/-- The text of a word without its quotes, where nothing in it means anything else. -/
def literalText (word : Word) : Text :=
  word.flatMap fun part => match part with
    | .plain t | .guarded t => t
    | _ => []

end Word
end BlockHarness.Shell
