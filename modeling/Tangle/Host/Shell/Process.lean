import Tangle.Host.Shell.Variable
import Tangle.Host.Shell.Option
import Tangle.Shell.Command
import Tangle.Host.Shell.World

/-! # Shell processes

A shell process has variables in scopes, functions, options, traps and descriptors. A subshell is a copy
of a process. -/
namespace Tangle.Shell

structure Function where
  body : Command
  documents : HereDocuments
  /-- Where it was defined. -/
  source : Text := []
  line : Nat := 1
  isExported : Bool := false
  isReadonly : Bool := false
  isTraced : Bool := false

/-- The variables of one call of a function, or those set for one command only. A call has a scope only from
its first variable on. -/
structure Scope where
  table : Table Variable := {}
  isCall : Bool := false
  /-- The number of calls that the scope is inside. -/
  level : Nat := 0
  /-- The options that are in force again after the call. -/
  options : Option (List Text) := none

structure Frame where
  function : Text
  source : Text
  line : Nat

/-- A command that was started beside the shell. -/
structure Job where
  number : Nat
  identity : Nat
  text : Text
  isTold : Bool := false
  /-- It has been started by the process that this one is a copy of. -/
  isForeign : Bool := false

/-- A command that reads from the shell and writes to it, with the descriptors of the shell for both. -/
structure Coprocess where
  name : Text
  identity : Nat
  source : Nat
  sink : Nat

/-- A program that has been found on the search path, and how often it has been called since. -/
structure Remembered where
  name : Text
  path : Text
  calls : Nat := 0

/-- What an enclosing process, which waits for this one, does about signals. -/
structure Enclosing where
  identity : Nat
  traps : Table Text

structure Process where
  /-- The scopes, innermost first. -/
  scopes : List Scope := []
  /-- The names that have been set in a scope. Others need not be looked for there. -/
  localNames : List Text := []
  /-- The number of calls that the process is inside. -/
  calls : Nat := 0
  globals : Table Variable := {}
  functions : Table Function := {}
  positional : List Text := []
  scriptName : Text := "bash"
  status : Nat := 0
  pipeStatus : List Nat := [0]
  options : List Text := Options.initial
  extended : List Text := Options.initialExtended
  /-- Those of the options that `posix` turns on that were on before it. -/
  lenient : List Text := []
  /-- The shell may not leave its directory, write to files or choose other programs. -/
  isRestricted : Bool := false
  descriptors : List (Nat × Nat) := []
  directory : Place := []
  /-- The path by which the process has come to its directory, links included. -/
  here : Text := "/"
  mask : Nat := 0o022
  traps : Table Text := {}
  /-- The traps that a subshell shows as long as it sets none itself: those of its parent. -/
  shownTraps : Option (Table Text) := none
  subshells : Nat := 0
  identity : Nat := 4000
  /-- The identity of the shell that this process is, or is a subshell of. -/
  shell : Nat := 4000
  /-- The process that runs on its own, of which this one is a part. -/
  task : Nat := 4000
  enclosing : List Enclosing := []
  /-- Streams held for the sake of enclosing processes, or put aside while a redirection is in force. -/
  aside : List Nat := []
  /-- Names of the signals whose traps are to be run. -/
  due : List Text := []
  frames : List Frame := []
  documents : HereDocuments := []
  line : Nat := 1
  source : Text := []
  /-- What messages call the source, beside its name: a text given to the shell or to `eval`. -/
  origin : Text := []
  /-- The command that is being run, as a text. -/
  command : Thunk Text := Thunk.pure []
  isGuarded : Bool := false
  /-- The traps whose actions are being run, innermost first, each with the status that it was met with. -/
  inTraps : List (Text × Nat) := []
  /-- How many texts are being run inside one another. -/
  depth : Nat := 0
  isInSubstitution : Bool := false
  loops : Nat := 0
  sourced : Nat := 0
  aliases : Table Text := {}
  /-- The programs that need not be looked for again, the latest first. -/
  remembered : List Remembered := []
  /-- The commands of the shell that are not in use. -/
  disabled : List Text := []
  lastArgument : Text := []
  lastBackground : Option Nat := none
  jobs : List Job := []
  coprocesses : List Coprocess := []
  /-- How the words that a command is given are completed: the arguments of `complete`. -/
  completions : Table Text := {}
  directoryStack : List Text := []
  optionOffset : Nat := 1
  seed : Nat := 20011
  lastRandom : Nat := 0
  /-- The moment, in microseconds, at which the shell was started. -/
  started : Int := 1700000000000000
  /-- The moment, in microseconds, from which `SECONDS` counts. -/
  secondsFrom : Int := 1700000000000000
  substitutionStatus : Option Nat := none
  /-- The names of computed variables that have become ordinary ones by being unset. -/
  ordinary : List Text := []
  /-- Descriptors that are closed once the current command is done. -/
  transient : List Nat := []

namespace Process

/-- The streams that a process keeps open. -/
def held (p : Process) : List Nat := p.descriptors.map (·.2) ++ p.aside

/-- The traps that a copy of a process keeps: those that ignore a signal, and those of occasions that
it is told to keep. -/
def keptTraps (p : Process) : Table Text :=
  p.traps.filter fun e =>
    e.2.isEmpty || (e.1 = ("ERR" : Text) && p.options.contains "errtrace") ||
      ((e.1 = ("DEBUG" : Text) || e.1 = ("RETURN" : Text)) && p.options.contains "functrace")

/-- A process without the descriptors that belong to others beside it. -/
def withoutCoprocesses (p : Process) : Process :=
  if p.coprocesses.isEmpty then p
  else { p with
    coprocesses := []
    descriptors := p.descriptors.filter fun d => !p.coprocesses.any fun c => c.source = d.1 || c.sink = d.1 }

/-- A copy of a process, to run beside it or while it waits. -/
def subshell (identity : Nat) (p : Process) : Process := { p with
  identity, subshells := p.subshells + 1, jobs := [], loops := 0, due := []
  traps := p.keptTraps, shownTraps := some (p.shownTraps.getD p.traps) }

/-- The jobs of a process as those of another, which cannot wait for them. -/
def foreignJobs (p : Process) : List Job := p.jobs.map fun j => { j with isForeign := true }

/-- A process with a name among those that are looked for in scopes. -/
def withLocalName (name : Text) (p : Process) : Process :=
  if p.localNames.contains name then p else { p with localNames := name :: p.localNames }

/-- The scopes in which a name may be. -/
def scopesOf (name : Text) (p : Process) : List Scope := if p.localNames.contains name then p.scopes else []

/-- A process with a descriptor open to a stream. -/
def withDescriptor (fd stream : Nat) (p : Process) : Process :=
  { p with descriptors := (fd, stream) :: p.descriptors.filter (·.1 ≠ fd) }

end Process

structure Machine where
  process : Process
  world : World

end Tangle.Shell
