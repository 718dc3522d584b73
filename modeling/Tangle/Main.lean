import Tangle.Host
import Tangle.Host.Settings.Source

/-! # The program

The files of the two directories are read into a tree, the compiler command works on the tree, and what
it has changed in the output directory is written back. The shell of the command sees nothing but the
tree. -/
namespace Tangle.Program

open CommandLine

/-- The environment variables that matter to the command. -/
def variableNames : List String := [
  "PATH", "HOME", "LANG", "LC_ALL", "COLUMNS", "MDSH_HOOK_PREFIX", "MDSH_DATA_PREFIX",
  "MDSH_HEREDOC_DELIMITER", "MDSH_EVAL_TRAILER", "MDSH_SHELL", "MDSH_MODULE_PATH"]

def environment : IO (List (Text × Text)) := do
  let values ← variableNames.mapM fun n => do return (n, ← IO.getEnv n)
  return values.filterMap fun (n, v) => v.map fun v => (Text.ofString n, Text.ofString v)

def bytesAt (path : String) : IO (Option Bytes) := do
  try return some (← IO.FS.readBinFile path).toList
  catch _ => return none

/-- The tree with what is at a path, and with all that is below it if it is a directory. -/
partial def gather (t : Tree) (place : Place) (path : String) : IO Tree := do
  match ← bytesAt path with
  | some bytes => return t.put place (.file bytes 0o644)
  | none =>
    try
      let entries ← ((← IO.currentDir) / path).readDir
      entries.foldlM (fun t e => gather t (place ++ [Text.ofString e.fileName]) (path ++ "/" ++ e.fileName))
        (t.put place (.directory 0o755))
    catch _ => return t

def pathString (p : Place) : String := Text.toDisplayString (Shell.Run.placeText p)

/-- The place of a path, if it can be followed without regard to what is there. -/
def placeOf (cwd : Place) (p : Path) : Place :=
  p.names.foldl (fun at_ n => if n = (".." : Text) then at_.dropLast else at_ ++ [n])
    (if p.root = .relative then cwd else [])

def withParents (t : Tree) (p : Place) : Tree :=
  (List.range p.length).foldl (fun t n =>
    let q := p.take (n + 1)
    if (t.node? q).isSome then t else t.put q (.directory 0o755)) t

def gatherPath (cwd : Place) (t : Tree) (p : Path) : IO Tree := do
  let place := placeOf cwd p
  let gathered ← gather t place (pathString place)
  return if (gathered.node? place).isSome then (withParents gathered place.dropLast) else gathered

/-- Writes what is new or changed in a tree. -/
def writeBack (before after : Tree) (root : Place) : IO Unit := do
  for (below, node) in after.below root do
    let place := root ++ below
    if before.node? place ≠ some node then
      match after.settled node with
      | .directory _ => IO.FS.createDirAll (pathString place)
      | .file content .. =>
        IO.FS.writeBinFile (pathString place) ⟨content.toArray⟩
        if (before.node? place).isNone then
          IO.setAccessRights (pathString place)
            ⟨⟨true, true, true⟩, ⟨true, false, true⟩, ⟨true, false, true⟩⟩
      | _ => pure ()

def writeText (h : IO.FS.Stream) (bs : Bytes) : IO Unit := do
  h.write ⟨bs.toArray⟩
  h.flush

/-- Reads all of a stream. -/
partial def readStream (h : IO.FS.Stream) (soFar : ByteArray) : IO ByteArray := do
  let more ← h.read 65536
  if more.isEmpty then return soFar else readStream h (soFar ++ more)

/-- The status of a program: a signal counts as its number above 128. -/
def exitCode (status : Int) : UInt32 := if status < 0 then (128 + status.natAbs).toUInt32 else status.toNat.toUInt32

def reasonOf : Compilation.Unreported → Text
  | .file e => e.reason
  | .hooks f => f.message
  | .compile e => e.message
  | .arguments f => f.message

def site : Site := ⟨"/tmp/mdsh", "mdsh-helpers"⟩

def compile (o : Options) (directories : List Text) : IO UInt32 := do
  let environment ← environment
  let table : Table Text := .ofList environment
  let cwd := placeOf [] (Path.ofText (Text.ofString (← IO.currentDir).toString))
  let inputDirectory := Path.ofText (directories.headD [])
  let outputDirectory := Path.ofText ((directories.drop 1).headD [])
  let input ← if o.document = Compilation.inputName then
      pure (← readStream (← IO.getStdin) .empty).toList
    else pure []
  let t ← gatherPath cwd (withParents Shell.systemTree cwd) inputDirectory
  let t ← gatherPath cwd t outputDirectory
  let stderr ← IO.getStderr
  match Settings.read { environment := table, file := ← bytesAt ".env" } with
  | .error _ =>
    writeText stderr (Text.encode "mdsh: invalid settings\n")
    return 1
  | .ok settings =>
    let order : Compilation.Order Host.State := {
      options := o, settings, site, commandPath := (table.get? "PATH").getD [], mask := 0o022
      directory := cwd, inputDirectory, outputDirectory, input := .ok input, parse := Host.parse
      shell := Host.shell, launcher := Host.launcher (site.directory ++ "-run") }
    let (result, d) := Host.run order ⟨{ tree := t }, environment, cwd⟩
    writeBack t d.surroundings.tree (placeOf cwd outputDirectory)
    for n in d.journal.notes do writeText stderr (n.message ++ "\n").encode
    match result with
    | .ok e =>
      writeText (← IO.getStdout) e.output
      writeText stderr e.complaint.encode
      return exitCode e.status
    | .error u =>
      writeText stderr (Text.encode ("mdsh: " ++ reasonOf u ++ "\n"))
      return 1

def usage : Text := "usage: mdsh [options] inputdir outputdir\n"

def run (arguments : List Text) : IO UInt32 := do
  match Options.readProgram arguments with
  | (.help, _) =>
    writeText (← IO.getStdout) usage.encode
    return 0
  | (.version, _) =>
    writeText (← IO.getStdout) Options.versionText.encode
    return 0
  | (.misused e, _) =>
    writeText (← IO.getStderr) (usage ++ e.message ++ "\n").encode
    return 2
  | (.compile o, directories) => compile o directories

end Tangle.Program

def main (arguments : List String) : IO UInt32 := Tangle.Program.run (arguments.map Tangle.Text.ofString)
