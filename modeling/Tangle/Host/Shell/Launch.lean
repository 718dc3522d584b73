import Tangle.Host.Shell.Execution
import Tangle.Session.Run

/-! # Starting a program from outside

A program is started with an environment, in a directory, with no input. What it writes to its output
is collected, and what it writes about errors is dropped. The compile-time shell is such a program,
whose files are put into the tree before it starts. -/
namespace Tangle.Shell
open Run

/-- What programs are started in. -/
structure Surroundings where
  world : World
  environment : List (Text × Text)
  directory : Place

structure Outcome where
  status : Int
  output : Bytes
deriving DecidableEq, Repr

/-- The directories of the system. The memory of a process is a file, whose beginning cannot be read. -/
def systemTree : Tree :=
  ([["bin"], ["dev"], ["etc"], ["home"], ["opt"], ["proc"], ["proc", "self"], ["root"], ["tmp"], ["usr"], ["usr", "bin"], ["usr", "lib"],
    ["usr", "local"], ["usr", "local", "bin"], ["usr", "share"], ["var"], ["var", "tmp"]] : List (List String)).foldl
    (fun t p => t.put (p.map Text.ofString) (.directory 0o755))
    (devices.put ["proc", "self", "mem"] (.sealed .inputOutput 0o600))
where
  devices : Tree :=
    ([("null", .null), ("zero", .zero), ("full", .full), ("random", .random), ("urandom", .random),
      ("tty", .terminal)] : List (String × Device)).foldl
      (fun t d => t.put ["dev", Text.ofString d.1] (.device d.2)) {}

/-- How deep commands may be inside one another, calls of functions included. -/
def greatestDepth : Nat := 60000

def runCommand : Command → Run Unit := execute greatestDepth

/-- The status under which the end of a process is known outside: that of a signal is negative. -/
def endStatus : Ending → Int
  | .status n => n
  | .signal n => -(n : Int)

/-- How a program ends that goes beyond what can be run. -/
def overflow : Ending := .signal 11

/-- The process that starts a program. -/
def starter (s : Surroundings) (output : Nat) : Process where
  globals := s.environment.foldl (fun t e => t.set e.1 { value := .text e.2, isExported := true }) {}
  directory := s.directory
  descriptors := [(0, 0), (1, output), (2, 0)]

/-- What keeps a program from being started. -/
def launchFault? (words : List Text) : Run (Option FileError) := do
  match words with
  | [] => return some .notFound
  | name :: _ =>
    if name.isEmpty then return some .permissionDenied
    match ← program? name with
    | none => return some .notFound
    | some (_, .unusable _) => return some .permissionDenied
    | some (_, .installed _) => return none
    | some (_, .file _ bs) =>
      match interpreter? bs with
      | none => return some .notExecutable
      | some command =>
        return if (← program? (command.headD [])).isSome then none else some .notFound

/-- The number of turns that processes are given in all. -/
def greatestSchedule : Nat := 10000000

/-- Runs a program and those that it starts, until it has ended and nobody writes to its output any more. -/
def completed (words : List Text) (m : Machine) : World :=
  let identity := m.process.identity
  let task := (launchProgram runCommand words m).task fun r m => m.world.leave identity (match r with
    | .ok e => e
    | .error (.killed _ s) => .signal s
    | .error _ => overflow)
  Schedule.run (fun w => w.hasEnded identity && !w.isHeld 1) greatestSchedule (Schedule.follow task [])

def writtenTo (i : Nat) (w : World) : Bytes :=
  match w.streams[i]? with
  | some (.output written) => written.reverse.flatten
  | _ => []

/-- Starts a program and waits for its end. -/
def launch (s : Surroundings) (words : List Text) : Except FileError Outcome × Surroundings :=
  let process := starter s 1
  let world : World := { s.world with
    streams := #[.nothing, .output []], pipes := #[], endings := [], signals := []
    holders := [(process.identity, process.held)] }
  match launchFault? words ⟨process, world⟩ with
  | .over (.ok (some f)) _ => (.error f, s)
  | _ =>
    let after := completed words ⟨process, world⟩
    let e := (after.endings.lookup process.identity).getD overflow
    (.ok ⟨endStatus e, writtenTo 1 after⟩, { s with world := { after with streams := #[], pipes := #[] } })

/-! The compile-time shell -/

/-- Puts a file into a tree, and the directories above it. -/
def putFile (t : Tree) (path : Text) (content : Bytes) : Tree :=
  let p := Path.ofText path
  let t := (List.range p.names.length).foldl (fun t n =>
    if n = 0 || (t.node? (p.names.take n)).isSome then t else t.put (p.names.take n) (.directory 0o755)) t
  t.put p.names (.file content 0o644)

/-- What is left at the path of a file. -/
def entryAt? (t : Tree) (path : Text) : Option Entry :=
  let p := Path.ofText path
  if t.pathExists [] p then
    let isDirectory := (t.locate [] p).toOption.any t.isDirectoryAt
    some { content := t.read [] p, removal := if isDirectory then some .isDirectory else none }
  else none

def Surroundings.mapTree (s : Surroundings) (f : Tree → Tree) : Surroundings :=
  { s with world := { s.world with tree := f s.world.tree } }

/-- Runs the scripts of a session in a world of files. -/
def session : Shell Surroundings where
  openDirectory s := (.ok (), s)
  writeFile path content s := (.ok (), s.mapTree (putFile · path content))
  start s i :=
    let files := [i.optionsFile, i.variablesFile, i.functionsFile]
    let s := s.mapTree fun t => files.foldl (fun t path => t.drop (Path.ofText path).names) t
    match launch s [i.shell, i.scriptFile] with
    | (.error e, s) => (.unstartable e.reason, s)
    | (.ok e, s) =>
      let t := s.world.tree
      (.ended e.status e.output ⟨entryAt? t i.optionsFile, entryAt? t i.variablesFile, entryAt? t i.functionsFile⟩, s)

end Tangle.Shell
