import Tangle.CommandLine.Callback

/-! # The options of the compiler command

Which document is compiled, with which hooks, and what becomes of the script. -/
namespace Tangle.CommandLine

structure Options where
  document : Text := []
  script : Option Text := none
  hooks : Option Text := none
  modulePath : Option Text := none
  endsCaller : Bool := false
  runs : Bool := false
  scriptArguments : Text := []
  verbosity : Nat := 1
deriving DecidableEq, Repr

/-- What the arguments ask for. -/
inductive Asked where
  | help
  | version
  | misused (e : UsageError)
  | compile (o : Options)
deriving DecidableEq, Repr

namespace Options

def versionText : Text := "mdsh 1.0.0\n"

def versionOption : OptionSpec := ⟨["-V", "--version"], false, false⟩

/-- An option with a field that it sets. -/
structure Setter where
  option : OptionSpec
  set : Text → Options → Options

def setters : List Setter := [
  ⟨⟨["--inputFile"], true, true⟩, fun t o => { o with document := t }⟩,
  ⟨⟨["--outputFile"], true, false⟩, fun t o => { o with script := some t }⟩,
  ⟨⟨["--hooks"], true, false⟩, fun t o => { o with hooks := some t }⟩,
  ⟨⟨["--modulePath"], true, false⟩, fun t o => { o with modulePath := some t }⟩,
  ⟨⟨["--eval"], false, false⟩, fun _ o => { o with endsCaller := true }⟩,
  ⟨⟨["--run"], false, false⟩, fun _ o => { o with runs := true }⟩,
  ⟨⟨["--scriptArgs"], true, false⟩, fun t o => { o with scriptArguments := t }⟩,
  ⟨⟨["-v", "--verbosity"], false, false⟩, fun _ o => { o with verbosity := o.verbosity + 1 }⟩]

def grammar : Grammar where
  program := "mdsh"
  options := Callback.helpOption :: setters.map (·.option) ++ [versionOption]

/-- The options as an event of the reading leaves them. -/
def apply (o : Options) : Event → Options
  | .option spec value => match setters.find? (·.option == spec) with
    | some s => s.set (value.getD []) o
    | none => o
  | .positional .. => o

/-- An option that is answered at once, whatever follows it. -/
def answered? : Event → Option Asked
  | .option spec _ =>
    if spec == Callback.helpOption then some .help
    else if spec == versionOption then some .version
    else none
  | .positional .. => none

/-- Reads the events of a reading that may have ended in a fault. -/
def ofReading (program : Text) (r : Reading) (fault : Option UsageFault) : Asked :=
  match r.events.findSome? answered? with
  | some a => a
  | none =>
    match fault with
    | some f => .misused ⟨program, f⟩
    | none =>
      if r.extras.isEmpty then .compile (r.events.foldl apply {})
      else .misused ⟨program, .unrecognized r.extras⟩

def read (arguments : List Text) : Asked :=
  let (r, fault) := grammar.read arguments
  ofReading grammar.program r fault

/-- The arguments of the whole program: the options, and the two directories. -/
def programGrammar : Grammar := { grammar with positionals := [⟨"inputdir", .one⟩, ⟨"outputdir", .one⟩] }

/-- Reads the arguments of the whole program; the texts are the directories. -/
def readProgram (arguments : List Text) : Asked × List Text :=
  let (r, fault) := programGrammar.read arguments
  (ofReading programGrammar.program r fault, (Callback.positionalValues r).flatten)

end Options
end Tangle.CommandLine
