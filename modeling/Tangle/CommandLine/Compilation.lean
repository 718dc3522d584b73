import Tangle.CommandLine.Options
import Tangle.CommandLine.Words
import Tangle.Files.Replace
import Tangle.Compiler
import Tangle.HookFile

/-! # The compiler command

The command is called with its options and two directories. It finds its files, reads the document, compiles it,
and then writes the script or runs it. A step that fails ends it, with a complaint and a status or with a fault that
the command leaves to its caller. What has been done to files by then stays done.

The programs that the command runs and the parser of its hook files are parameters, and so is what the system refuses
to do. The programs may do anything to the files, and to what else there is around them. -/
namespace Tangle.CommandLine.Compilation
variable {σ α : Type}

/-- A fault that the command does not report itself. -/
inductive Unreported where
  | file (e : FileError)
  | hooks (f : HookFile.Fault)
  | compile (e : CompileError)
  | arguments (f : SplitFault)
deriving DecidableEq

/-- The end of a command: its status, the output of the script that it ran, and its complaint. The complaint leaves
out which files an error is about where one of them has a name made up by the command, and the trace of calls that
the highest verbosity adds. -/
structure Ending where
  status : Int := 0
  output : Bytes := []
  complaint : Text := []
deriving DecidableEq, Repr

inductive Stop where
  | ended (e : Ending)
  | unreported (u : Unreported)

/-- An error of the system is complained of; the others are left to the caller. -/
def Stop.ofFile (e : FileError) (complaint : Text) : Stop :=
  if e.isOfSystem then .ended { status := 1, complaint } else .unreported (.file e)

/-- What programs work on: the files, and the rest. -/
structure Surroundings (σ : Type) where
  tree : Tree
  rest : σ

/-- What a command works on. -/
structure Desk (σ : Type) where
  surroundings : Surroundings σ
  journal : Journal := {}

abbrev Step (σ : Type) := ExceptT Stop (StateM (Desk σ))

/-- How a program has ended, with what it wrote to its output. -/
structure Execution where
  status : Int
  output : Bytes
deriving DecidableEq, Repr

/-- What a script is run by: the making of a directory and of a file in it, the start of a program by its words, and
the removal of the directory. -/
structure Launcher (σ : Type) where
  openDirectory : Surroundings σ → Except FileError Text × Surroundings σ
  write : (path : Text) → Bytes → Surroundings σ → Except FileError Unit × Surroundings σ
  start : (words : List Text) → Surroundings σ → Except FileError Execution × Surroundings σ
  removeDirectory : (path : Text) → Surroundings σ → Except FileError Unit × Surroundings σ

/-- What a command is told, and what it runs in. -/
structure Order (σ : Type) where
  options : Options
  settings : Settings
  site : Site
  commandPath : Text
  mask : Nat
  /-- The place that relative paths begin at. -/
  directory : Place
  inputDirectory : Path
  outputDirectory : Path
  /-- What reading the standard input comes to. -/
  input : Except FileError Bytes
  parse : HookFile.Parser
  /-- The shell of the blocks that run while the document is compiled. -/
  shell : Shell (Surroundings σ)
  launcher : Launcher σ
  /-- The directories that the system does not make. -/
  refused : Place → Option FileError := fun _ => none
  /-- The operations that fail while the script is written. -/
  circumstances : Replacement.Circumstances := {}

def fail (status : Int) (complaint : Text) : Step σ α := throw (.ended { status, complaint })

def note (depth : Nat) (m : Text) : Step σ Unit := modify fun d => { d with journal := d.journal.note depth m }

def tree : Step σ Tree := do return (← get).surroundings.tree

/-- Does something to the surroundings; what it has done stays even if it fails. -/
def act (f : Surroundings σ → Except FileError α × Surroundings σ) : Step σ α := fun d =>
  let (r, surroundings) := f d.surroundings
  (r.mapError fun e => .unreported (.file e), { d with surroundings })

/-- What is at a path. A path that cannot be asked about is a fault. -/
def nodeAt (o : Order σ) (p : Path) : Step σ (Option Node) := do
  match (← tree).lookup o.directory p with
  | .ok (_, n) => return some n
  | .error .nameTooLong => throw (.unreported (.file .nameTooLong))
  | .error _ => return none

/-- Makes a directory, and those above it, unless they are there. -/
def makeDirectories (o : Order σ) (p : Path) : Step σ Unit := act fun s =>
  let (r, tree) := s.tree.makeDirectories o.refused o.directory true p.root p.names
  (r, { s with tree })

/-! The steps of a compilation -/

/-- The name that stands for the standard input. -/
def inputName : Text := "-"

def title : Text := Text.join "\n" [
  "",
  "                 _     _",
  "  _ __ ___   __| |___| |__",
  " | '_ ` _ \\ / _` / __| '_ \\",
  " | | | | | | (_| \\__ \\ | | |",
  " |_| |_| |_|\\__,_|___/_| |_|",
  "",
  "  Markdown to bash compiler",
  ""]

/-- The files of a compilation, and the bindings that it starts with. -/
structure Plan where
  document : Path
  script : Path
  bindings : Bindings

def findDocument (o : Order σ) : Step σ Path := do
  if o.options.document = inputName then return .ofText inputName
  let p := o.inputDirectory / o.options.document
  if (← nodeAt o p).any Node.isRegular then return p
  else fail 1 ("Error: no such document: " ++ p.text ++ "\n")

def loadHooks (o : Order σ) (name : Text) : Step σ Bindings := do
  let p := o.inputDirectory / name
  match HookFile.loadWith o.parse (← tree) o.directory p with
  | .ok b =>
    note 2 ("Hooks: " ++ p.text)
    return b
  | .error f =>
    if f.isOfFile then fail 1 ("Error: " ++ f.message ++ "\n") else throw (.unreported (.hooks f))

def given (t : Option Text) : Option Text := t.filter (!·.isEmpty)

/-- The bindings of the hook file, if one is given. -/
def findBindings (o : Order σ) : Step σ Bindings :=
  match given o.options.hooks with
  | some name => loadHooks o name
  | none => pure {}

/-- The name of the script: the one asked for, or that of the document with another extension. -/
def scriptName (o : Options) (document : Path) : Text :=
  (given o.script).getD ((if o.document = inputName then ("stdin" : Text) else document.stem) ++ ".sh")

/-- Makes the directories for a script that is to be written. -/
def makeWay (o : Order σ) (script : Path) : Step σ Unit := do
  if !o.options.runs then
    makeDirectories o script.parent
    note 2 ("Script: " ++ script.text)

def plan (o : Order σ) : Step σ Plan := do
  note 2 title
  note 2 "Resolving paths..."
  let document ← findDocument o
  note 2 ("Document: " ++ document.text)
  let bindings ← findBindings o
  let script := o.outputDirectory / scriptName o.options document
  makeWay o script
  return ⟨document, script, bindings⟩

/-- The bytes at a path, which is the standard input if its last name is that of the input. -/
def bytesAt (o : Order σ) (t : Tree) (p : Path) : Except FileError Bytes :=
  if p.name = inputName then o.input else t.read o.directory p

/-- What keeps the bytes of a document from being read. -/
def unreadable (p : Path) (e : FileError) : Stop :=
  .ofFile e ("Error: cannot read document: " ++
    (if p.name = inputName then e.message else e.messageFor p.text) ++ "\n")

def readDocument (o : Order σ) (p : Path) : Step σ Text := do
  note 1 "Reading document..."
  let bytes ← MonadExcept.ofExcept ((bytesAt o (← tree) p).mapError (unreadable p))
  let t := Text.decode bytes
  note 2 (Text.ofNat t.length ++ " characters read")
  return t

def isReported : CompileError → Bool
  | .scan _ | .hook _ | .definition _ => true
  | .file _ | .delimiter _ | .notText .. => false

def compiler (o : Order σ) (bindings : Bindings) : Compiler :=
  { bindings, searchPath := o.settings.searchPath o.commandPath o.options.modulePath }

/-- The end of a command whose document does not compile. -/
def stopFor (e : CompileError) : Stop :=
  if isReported e then .ended { status := 2, complaint := "Compilation error: " ++ e.message ++ "\n" }
  else .unreported (.compile e)

/-- Compiles a document; the script and the number of its blocks. -/
def compile (o : Order σ) (bindings : Bindings) (document : Text) (endsCaller : Bool) : Step σ (Text × Nat) := do
  let d ← get
  let r := (compiler o bindings).compile o.shell o.site o.settings d.surroundings d.journal document endsCaller
  set ({ surroundings := r.world, journal := r.journal } : Desk σ)
  let script ← MonadExcept.ofExcept (r.script.mapError stopFor)
  return (script, r.compiler.blockCount)

/-! The end of a compilation to a file -/

/-- Tells where a script went, or why it could not be written. -/
def report (p : Path) (blocks : Nat) : Except FileError Unit → Step σ Unit
  | .error e => throw (.ofFile e ("Error: cannot write script: " ++ e.message ++ "\n"))
  | .ok () => do
    note 2 ("Wrote " ++ p.text)
    note 1 ("\n✓ Wrote " ++ p.text)
    note 1 ("  " ++ Text.ofNat blocks ++ " code blocks")
    note 1 ("  Run it with: bash " ++ p.text)

def deliver (o : Order σ) (p : Path) (script : Text) (blocks : Nat) : Step σ Unit := do
  let t ← tree
  let r := Replacement.runText o.circumstances o.mask t o.directory p script
  modify fun d => { d with surroundings := { d.surroundings with tree := r.last t } }
  report p blocks r.outcome

/-! Scripts that are run -/

/-- Does something, and then something else even if the first fails. A failure of the second one is what counts. -/
def thenAlways (x : Step σ α) (y : Step σ Unit) : Step σ α := fun d =>
  let (r, d) := x d
  match y d with
  | (.error e, d) => (.error e, d)
  | (.ok (), d) => (r, d)

/-- Writes a text to a file, if it has bytes. -/
def writeText (o : Order σ) (path t : Text) : Step σ Unit := act fun s =>
  match t.encoded with
  | .error f => (.error (.unencodable f), s)
  | .ok bytes => o.launcher.write path bytes s

/-- Starts a program, if its words can be handed to the system. -/
def start (o : Order σ) (words : List Text) : Step σ Execution := act fun s =>
  match words.forM FileError.checkText with
  | .error e => (.error e, s)
  | .ok () => o.launcher.start words s

/-- Writes a script to a file and runs it with arguments. -/
def runFile (o : Order σ) (path script : Text) (arguments : List Text) : Step σ Execution := do
  writeText o path script
  note 2 ("Running " ++ path ++ " with " ++ Text.ofNat arguments.length ++ " args")
  let e ← start o (o.settings.shell :: path :: arguments)
  note 2 ("Script exited with status " ++ Text.ofInt e.status)
  return e

/-- Runs a script under a name, in a directory that is there as long as the script runs. -/
def runScript (o : Order σ) (name script : Text) (arguments : List Text) : Step σ Execution := do
  let directory ← act o.launcher.openDirectory
  thenAlways (runFile o (directory ++ "/" ++ name) script arguments) (act (o.launcher.removeDirectory directory))

/-- Compiles and runs a document; its end is that of the script. -/
def runDocument (o : Order σ) (p : Plan) (document : Text) : Step σ Ending := do
  let arguments ← MonadExcept.ofExcept
    ((splitWords o.options.scriptArguments).mapError fun f => .unreported (.arguments f))
  let (script, _) ← compile o p.bindings document false
  let e ← runScript o p.document.name script arguments
  return { status := e.status, output := e.output }

/-! The whole command -/

/-- All that is done before the document is compiled. -/
def prepare (o : Order σ) : Step σ (Plan × Text) := do
  modify fun d => { d with journal := { verbosity := some o.options.verbosity } }
  let p ← plan o
  let document ← readDocument o p.document
  if !o.options.runs then note 1 "Compiling document to bash..."
  return (p, document)

def steps (o : Order σ) : Step σ Ending := do
  let (p, document) ← prepare o
  if o.options.runs then runDocument o p document
  else
    let (script, blocks) ← compile o p.bindings document o.options.endsCaller
    deliver o p.script script blocks
    return {}

/-- What a command that stops comes to. -/
def Stop.result : Stop → Except Unreported Ending
  | .ended e => .ok e
  | .unreported u => .error u

/-- Carries out an order. -/
def run (o : Order σ) (s : Surroundings σ) : Except Unreported Ending × Desk σ :=
  match (steps o).run.run { surroundings := s } with
  | (.ok e, d) => (.ok e, d)
  | (.error stop, d) => (stop.result, d)

end Tangle.CommandLine.Compilation
