import BlockHarness.Text.Basic

/-! Paths as texts, with `/` between names. Repeated separators and inner `.` count for nothing, but the text of a
path stays as it is when it is joined to another one. -/
namespace BlockHarness.Path
set_option autoImplicit false

/-- Whether a path starts at the root. -/
def isAbsolute (p : Text) : Bool := p.head? == some '/'

/-- Whether a piece between separators leads nowhere. -/
def isIdle (piece : Text) : Bool := piece == [] || piece == ['.']

/-- The names of a path below its start. A `.` counts only in front of a relative path. -/
def names (p : Text) : List Text :=
  match p.splitOn '/' with
  | [] => []
  | first :: rest => (if first = [] then [] else [first]) ++ rest.filter fun piece => !isIdle piece

/-- The number of components: the names, and the root if the path starts there. -/
def depth (p : Text) : Nat := (if isAbsolute p then 1 else 0) + (names p).length

/-- A path as seen from a directory. -/
def join (base p : Text) : Text :=
  if isAbsolute p then p
  else if base = [] ∨ base.getLast? = some '/' then base ++ p
  else base ++ '/' :: p

/-- Drops idle pieces at the end of a path, given in reverse; the first piece stays. -/
def dropIdle : List Text → List Text
  | piece :: before :: rest => if isIdle piece then dropIdle (before :: rest) else piece :: before :: rest
  | pieces => pieces

/-- The directory that a path lies in; the root and the empty path lie in none. -/
def parent? (p : Text) : Option Text :=
  match dropIdle (p.splitOn '/').reverse with
  | [] => none
  | [piece] => if piece = [] then none else some []
  | _ :: rest =>
    match dropIdle rest with
    | [[]] => some ['/']
    | rest => some (Text.joinWith ['/'] rest.reverse)

end BlockHarness.Path
