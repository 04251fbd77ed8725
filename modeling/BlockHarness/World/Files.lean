import BlockHarness.Text.Utf8
import BlockHarness.World.Errno
import BlockHarness.World.Path

/-! A tree of files as the operations of the operating system show it. -/
namespace BlockHarness
set_option autoImplicit false

/-- A program that comes with the system; a foreign one is only known to be there. -/
inductive Utility where
  | shell
  | cat
  | head
  | list
  | exchange
  | count
  | echo
  | succeed
  | fail
  | sleep
  | foreign
  deriving DecidableEq, Repr

/-- A file that is not on a disk: one that swallows everything, endless zeros, one that never has room, the
terminal, or what a descriptor of the process that asks for it leads to. -/
inductive Device where
  | null
  | zero
  | full
  | terminal
  | opened (descriptor : Nat)
  deriving DecidableEq, Repr

/-- What a name in a directory stands for. -/
inductive Entry where
  | directory
  | file (content : Octets) (isExecutable : Bool)
  | utility (utility : Utility)
  | device (device : Device)
  deriving DecidableEq, Repr

/-- The beginning of the file that a program of the system is in; it is no text. -/
def programImage : Octets :=
  [0x7f, 0x45, 0x4c, 0x46, 2, 1, 1, 0, 0, 0, 0, 0, 0, 0, 0, 0, 3, 0, 0x3e, 0, 1, 0, 0, 0, 0xff, 0xff]

/-- A location as the list of names from the root, without detours. -/
abbrev Location := List Text

/-- A tree of files: everything below the root, and the current directory. -/
structure Files where
  entries : List (Location × Entry)
  current : Location

namespace Files

/-! ## Finding -/

/-- What stands at a location. -/
def at? (fs : Files) (l : Location) : Option Entry := if l = [] then some .directory else fs.entries.lookup l

def isDirectory (fs : Files) (l : Location) : Bool := fs.at? l == some .directory

/-- The greatest length of a name and of a path in octets. -/
def maxName : Nat := 255

/-- The length in octets that a path must not reach. -/
def maxPath : Nat := 4096

/-- Follows the pieces of a path from a location. The last name need not exist if `mayMiss` is set. -/
def walk (fs : Files) (mayMiss : Bool) : Location → List Text → Except Errno Location
  | l, [] => .ok l
  | l, piece :: rest =>
    if !fs.isDirectory l then .error (if (fs.at? l).isNone then .notFound else .notDirectory)
    else if Path.isIdle piece then walk fs mayMiss l rest
    else if piece = ['.', '.'] then walk fs mayMiss l.dropLast rest
    else if maxName < Utf8.size piece then .error .nameTooLong
    else
      let next := l ++ [piece]
      if (fs.at? next).isNone && !(mayMiss && rest.isEmpty) then .error .notFound
      else walk fs mayMiss next rest

/-- The location that a path leads to. -/
def resolve (fs : Files) (mayMiss : Bool) (p : Text) : Except Errno Location :=
  if p = [] then .error .notFound
  else if maxPath ≤ Utf8.size p then .error .nameTooLong
  else fs.walk mayMiss (if Path.isAbsolute p then [] else fs.current) (p.splitOn '/')

/-- What stands at the end of a path. -/
def find (fs : Files) (p : Text) : Except Errno Entry := do
  let l ← fs.resolve false p
  match fs.at? l with
  | some entry => return entry
  | none => throw .notFound

/-- Whether anything stands at the end of a path. A name with a zero character is never there. -/
def isPresent (fs : Files) (p : Text) : Bool :=
  !p.contains '\x00' && (match fs.find p with | .ok _ => true | .error _ => false)

/-- Whether the end of a path is a file that may be run. -/
def isProgram (fs : Files) (p : Text) : Bool :=
  !p.contains '\x00' && (match fs.find p with
    | .ok (.file _ isExecutable) => isExecutable
    | .ok (.utility _) => true
    | _ => false)

/-! ## Reading and changing -/

/-- The octets of the file at the end of a path, given what can be read from the descriptors that are open. -/
def read (fs : Files) (p : Text) (opened : List (Nat × Octets) := []) : Except Errno Octets := do
  match ← fs.find p with
  | .directory => throw .isDirectory
  | .file content _ => return content
  | .utility _ => return programImage
  | .device .terminal => throw .noDevice
  | .device (.opened n) =>
    match opened.lookup n with
    | some octets => return octets
    | none => throw .noDevice
  | .device _ => return []

def put (fs : Files) (l : Location) (entry : Entry) : Files :=
  { fs with entries := (l, entry) :: fs.entries.filter (·.1 ≠ l) }

/-- Removes a location and everything below it. -/
def remove (fs : Files) (l : Location) : Files :=
  { fs with entries := fs.entries.filter fun e => !l.isPrefixOf e.1 }

/-- Makes every directory on the way to a location. -/
def makeParents (fs : Files) (l : Location) : Files :=
  (List.range l.length).foldl
    (fun fs n => if (fs.at? (l.take n)).isNone then fs.put (l.take n) .directory else fs) fs

/-- Empties the file at a location, or makes an empty one; a file keeps its mode. -/
def truncate (fs : Files) (l : Location) : Except Errno Files :=
  match fs.at? l with
  | some .directory => .error .isDirectory
  | some (.file _ isExecutable) => .ok (fs.put l (.file [] isExecutable))
  | some (.utility _) => .error .permissionDenied
  | some (.device _) => .ok fs
  | none => .ok (fs.put l (.file [] false))

/-- The names in a directory, in the order of their characters. -/
def namesIn (fs : Files) (l : Location) : List Text :=
  let names := fs.entries.filterMap fun (m, _) => if m.dropLast = l then m.getLast? else none
  names.mergeSort fun a b => !(decide (b < a))

end Files
end BlockHarness
