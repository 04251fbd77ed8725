import BlockHarness.Failure
import BlockHarness.World.System

/-! Where things are looked for: programs on the search path, and the settings file. -/
namespace BlockHarness
set_option autoImplicit false

/-- The variables that decide where things are looked for. -/
structure Environment where
  searchPath : Option Text
  home : Option Text
  configHome : Option Text
  deriving DecidableEq, Repr

/-- A tree of files, the environment in which it is used, and what can be read from the standard input. -/
structure World where
  files : Files
  env : Environment
  input : Octets := []

namespace Environment

/-! ## Programs -/

/-- A directory of the search path, with the home directory for a leading `~` if there is one. -/
def expandHome (env : Environment) (directory : Text) : Text :=
  match Path.names directory, env.home.filter (· ≠ []) with
  | ['~'] :: rest, some home => if Path.isAbsolute directory then directory else rest.foldl Path.join home
  | _, _ => directory

/-- The paths that a name may have on the search path, if there is a search path. -/
def candidates? (env : Environment) (name : Text) : Option (List Text) :=
  env.searchPath.map fun path => (path.splitOn ':').map fun directory => Path.join (env.expandHome directory) name

/-! ## Settings -/

/-- The name of the directory that holds the settings file. -/
def applicationName : Text := "conformance-harness"

/-- The home directory: the one that the environment gives, or else that of the account. -/
def homeDirectory (env : Environment) : Text := (env.home.filter (· ≠ [])).getD accountHome

/-- The directory of the settings file. A relative or missing configuration directory is replaced by the one in the
home directory. -/
def configDirectory (env : Environment) : Text :=
  let base := (env.configHome.filter fun base => Path.isAbsolute base).getD (Path.join env.homeDirectory ".config")
  Path.join base applicationName

def configPath (env : Environment) : Text := Path.join env.configDirectory "config.toml"

end Environment

namespace World

/-- The program that is run for an executable. A path of several components, or an absolute one, is taken as it is,
from the base directory if there is one; a bare name is looked for on the search path. -/
def resolveProgram (w : World) (program : Text) (baseDir : Option Text) : Except LaunchReason Text :=
  if 1 < Path.depth program ∨ Path.isAbsolute program then .ok (Path.join (baseDir.getD []) program)
  else
    match w.env.candidates? program with
    | none => .error .noSearchPath
    | some candidates =>
      match candidates.find? w.files.isProgram with
      | none => .error .notOnPath
      | some path => .ok path

/-- The text of the file at the end of a path. -/
def readText (w : World) (path : Text) : Except ReadReason Text :=
  if path.contains '\x00' then .error .nulInName
  else
    match w.files.read path [(0, w.input)] with
    | .error errno => .error (.system errno)
    | .ok octets =>
      match Utf8.decode? octets with
      | none => .error .notUtf8
      | some t => .ok t

end World
end BlockHarness
