import BlockHarness.Shell.Character
import BlockHarness.World.Files

/-! What runs when a file is executed: a program of the system, or the interpreter that the file names in its first
line. Of that line only the beginning counts. -/
namespace BlockHarness.Shell
set_option autoImplicit false

/-- A program that is about to run: what it does, the name that it is called by, and its arguments. -/
structure Image where
  utility : Utility
  name : Text
  args : List Text

namespace Image

/-! ## Interpreters -/

/-- The number of octets in which the first line of a script is looked for. -/
def headSize : Nat := 256

/-- A blank between the words of a first line. -/
def isGap (c : Char) : Bool := c == ' ' || c == '\t'

/-- The end of a word of a first line. -/
def isStop (c : Char) : Bool := isGap c || c == '\x00'

/-- The part of a file behind its first two characters in which an interpreter is named. Without the end of the line
the name has to end before the part does. -/
def firstLine? (content : Text) : Option Text :=
  let head := content.take headSize
  let head := head ++ List.replicate (headSize - head.length) '\x00'
  let text := head.takeWhile (· ≠ '\x00')
  if text.contains '\n' then some ((head.takeWhile (· ≠ '\n')).drop 2)
  else
    let body := head.drop 2
    let named := body.dropWhile isGap
    if named = [] ∨ ¬ named.any isStop then none else some body.dropLast

/-- The interpreter that a script names, and its argument if there is one. -/
def interpreter? (content : Text) : Option (Text × Option Text) :=
  if content.take 2 = ['#', '!'] then
    (firstLine? content).bind fun line =>
      let named := (Text.dropEndWhile isGap line).dropWhile isGap
      if named = [] then none
      else
        let name := named.takeWhile fun c => !isStop c
        let behind := named.drop name.length
        let argument := if behind.head?.any isGap then behind.dropWhile isGap else []
        some (name, if argument = [] then none else some (argument.takeWhile (· ≠ '\x00')))
  else none

/-! ## Programs -/

/-- The greatest number of interpreters that lead to a program. -/
def maxInterpreters : Nat := 5

/-- What runs when a path is executed under a name, found through at most `depth` interpreters. -/
def find (fs : Files) : Nat → Text → Text → List Text → Except Errno Image
  | depth, path, name, args => do
    match ← fs.find (toText path) with
    | .utility u => return ⟨u, name, args⟩
    | .file content true =>
      match interpreter? (ofOctets content) with
      | none => throw .notExecutableFormat
      | some (interpreter, argument) =>
        match depth with
        | 0 =>
          let _ ← fs.find (toText interpreter)
          throw .tooManyLinks
        | depth + 1 => find fs depth interpreter interpreter (argument.toList ++ path :: args)
    | _ => throw .permissionDenied

/-! ## Sizes -/

/-- The greatest length of one argument with its end. -/
def maxArgument : Nat := 131072

/-- The greatest length of all arguments and variables together, their places counted. -/
def maxArguments : Nat := 2097152

/-- Whether arguments and variables fit into a new process. -/
def fits (path : Text) (arguments : List Text) (env : List (Text × Text)) : Bool :=
  let strings := arguments ++ env.map fun (name, value) => name ++ '=' :: value
  let sizes := strings.map fun t => t.length + 1
  sizes.all (· ≤ maxArgument) &&
    path.length + 1 + sizes.foldl (· + ·) 0 + 8 * (max 1 arguments.length + env.length) ≤ maxArguments

/-- What runs when a path is executed with arguments and variables. -/
def load (fs : Files) (path name : Text) (args : List Text) (env : List (Text × Text)) : Except Errno Image := do
  match ← fs.find (toText path) with
  | .utility _ | .file _ true =>
    if fits path (name :: args) env then find fs maxInterpreters path name args else throw .argumentsTooLong
  | _ => throw .permissionDenied

end Image
end BlockHarness.Shell
