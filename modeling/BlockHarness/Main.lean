import BlockHarness.Command.Line
import BlockHarness.World.System

/-! The program. It takes a picture of the files it may need, lets the library decide what to do with them, prints
the output and writes down the files that have changed. -/
namespace BlockHarness
set_option autoImplicit false

/-- The location of an absolute path. -/
def locationOf (path : String) : Location := Path.names path

/-- The text of a location as an absolute path. -/
def pathOf (l : Location) : String := String.ofList (l.flatMap ('/' :: ·))

/-- Adds a file and the directories above it. A script that names its interpreter may be run. -/
def Files.addFile (fs : Files) (path : String) (bytes : ByteArray) : Files :=
  let content := bytes.toList
  (fs.makeParents (locationOf path)).put (locationOf path)
    (.file content (Shell.Image.interpreter? (Shell.ofOctets content)).isSome)

/-- Adds the file at an absolute path, if it can be read. -/
def addFileAt (fs : Files) (path : String) : IO Files := do
  try return fs.addFile path (← IO.FS.readBinFile path) catch _ => return fs

/-- A picture of the current directory, and of the files at some absolute paths besides. -/
def takePicture (others : List Text) : IO Files := do
  let directory ← IO.currentDir
  let here := locationOf directory.toString
  let start := (Files.system.makeParents here).put here .directory
  let found ← directory.walkDir
  let fs ← found.foldlM (fun fs path => do
    if ← path.isDir then return fs.put (locationOf path.toString) .directory
    else addFileAt fs path.toString) { start with current := here }
  (others.filter Path.isAbsolute).foldlM (fun fs path => addFileAt fs (String.ofList path)) fs

/-- Writes down every file that is not as it was. -/
def writeChanges (before after : Files) : IO Unit :=
  after.entries.forM fun (l, entry) =>
    match entry with
    | .file content _ =>
      if before.at? l = some entry then pure () else IO.FS.writeBinFile (pathOf l) ⟨content.toArray⟩
    | _ => pure ()

def readEnvironment : IO Environment := do
  let text (name : String) : IO (Option Text) := return (← IO.getEnv name).map String.toList
  return ⟨← text "PATH", ← text "HOME", ← text "XDG_CONFIG_HOME"⟩

/-- Whether the report is coloured: if it is forced, or goes to a terminal that nothing keeps from it. -/
def wantsColor : IO Bool := do
  if let some forced ← IO.getEnv "CLICOLOR_FORCE" then
    if forced ≠ "0" then return true
  if (← IO.getEnv "NO_COLOR").isSome ∨ (← IO.getEnv "CLICOLOR") = some "0" then return false
  (← IO.getStdout).isTty

partial def readAll (stream : IO.FS.Stream) (before : ByteArray) : IO ByteArray := do
  let piece ← stream.read 65536
  if piece.isEmpty then return before else readAll stream (before ++ piece)

end BlockHarness

open BlockHarness in
/-- Runs the program with the arguments, files and environment of the process. -/
def main (arguments : List String) : IO UInt32 := do
  let arguments := arguments.map String.toList
  let env ← readEnvironment
  let files ← takePicture (env.configPath :: arguments)
  let stdin ← if arguments.any isStandardInput then readAll (← IO.getStdin) .empty else pure .empty
  let (exit, world) := runProgram ⟨files, env, stdin.toList⟩ (← wantsColor) arguments
  IO.print (String.ofList exit.stdout)
  IO.eprint (String.ofList exit.stderr)
  writeChanges files world.files
  return exit.code.toUInt32
