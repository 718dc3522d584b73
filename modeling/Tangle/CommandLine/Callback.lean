import Tangle.CommandLine.Grammar
import Tangle.Embedding
import Tangle.Definition
import Tangle.Settings
import Tangle.Table

/-! # The callback command

The command behind the helper functions of a session: compile-time code calls it to embed modules
and to rewrite functions. It fails with status 1 when there is no such module or function, and
leaves it to the caller whether that matters. -/
namespace Tangle.CommandLine

/-- A fault in the arguments of a program. -/
structure UsageError where
  program : Text
  fault : UsageFault
deriving DecidableEq, Repr

def UsageError.message (e : UsageError) : Text := e.program ++ ": error: " ++ e.fault.message

namespace Callback

inductive Request where
  | embed (modules : List Text)
  | rewrite (source : Text) (before after : Option Text)
deriving DecidableEq, Repr

inductive Outcome where
  | help (program : Text)
  | misused (e : UsageError)
  | failed (complaint : Text)
  | file (e : FileError)
  | written (t : Text)
deriving DecidableEq, Repr

/-- The status of a command and what it writes to its two streams. -/
structure Answer where
  status : Nat
  output : Bytes := []
  complaint : Text := []
deriving DecidableEq, Repr

/-- The answer that an outcome comes to. A file error and a text that has no bytes are left to the caller, and the
help texts are not spelled out here. -/
def Outcome.answer? : Outcome → Option Answer
  | .help _ | .file _ => none
  | .misused e => some { status := 2, complaint := e.message }
  | .failed complaint => some { status := 1, complaint }
  | .written t => t.encoded.toOption.map fun output => { status := 0, output }

def helpOption : OptionSpec := ⟨["-h", "--help"], false, false⟩

def commands : List Text := ["embed", "rewrite"]

def grammar : Grammar where
  program := "mdsh-helpers"
  options := [helpOption]
  positionals := [⟨"command", .rest⟩]

def embedGrammar : Grammar where
  program := "mdsh-helpers embed"
  options := [helpOption]
  positionals := [⟨"modules", .many⟩]

def rewriteGrammar : Grammar where
  program := "mdsh-helpers rewrite"
  options := [helpOption]
  positionals := [⟨"source", .one⟩, ⟨"before", .optional⟩, ⟨"after", .optional⟩]

def asksHelp : Event → Bool
  | .option o _ => o == helpOption
  | _ => false

/-- Reads arguments by a grammar; asking for help ends the reading at once. -/
def reading (g : Grammar) (arguments : List Text) : Except Outcome Reading :=
  match g.read arguments with
  | (r, fault) =>
    if r.events.any asksHelp then .error (.help g.program)
    else match fault with
      | some f => .error (.misused ⟨g.program, f⟩)
      | none => .ok r

def positionalValues (r : Reading) : List (List Text) :=
  r.events.filterMap fun
    | .positional _ vs => some vs
    | _ => none

/-- The request of a command, and the arguments that it does not know. -/
def commandRequest (command : Text) (arguments : List Text) : Except Outcome (Request × List Text) :=
  if command = ("embed" : Text) then do
    let r ← reading embedGrammar arguments
    return (.embed (positionalValues r).flatten, r.extras)
  else if command = ("rewrite" : Text) then do
    let r ← reading rewriteGrammar arguments
    let values := positionalValues r
    let value (i : Nat) : Option Text := values[i]?.bind List.head?
    return (.rewrite ((value 0).getD []) (value 1) (value 2), r.extras)
  else .error (.misused ⟨grammar.program, .invalidChoice "command" command commands⟩)

def request (arguments : List Text) : Except Outcome Request := do
  let start : Reading := { pending := grammar.positionals }
  let misused (f : UsageFault) : Outcome := .misused ⟨grammar.program, f⟩
  let r ← reading grammar arguments
  let (q, extras) ← match (positionalValues r).flatten with
    | command :: rest => commandRequest command rest
    | [] => .error (misused (.missing (start.pending.map (·.name))))
  match r.extras ++ extras with
  | [] => return q
  | unknown => .error (misused (.unrecognized unknown))

def embedAll (t : Tree) (cwd : Place) (searchPath : List Text) (names : List Text) : Outcome :=
  match names.mapM fun n => Embedding.embed t cwd n searchPath with
  | .ok statements => .written statements.flatten
  | .error (.file e) => .file e
  | .error e => .failed ("mdsh-embed: " ++ e.message ++ "\n")

def rewrite (source : Text) (before after : Option Text) : Outcome :=
  match rewriteDefinition source before after with
  | .ok t => .written (if t.endsInNewline then t else t ++ [Symbol.newline])
  | .error e => .failed ("mdsh-rewrite: " ++ e.message ++ "\n")

def run (t : Tree) (cwd : Place) (searchPath : List Text) (arguments : List Text) : Outcome :=
  match request arguments with
  | .error o => o
  | .ok (.embed names) => embedAll t cwd searchPath names
  | .ok (.rewrite source before after) => rewrite source before after

/-- How a program comes by its settings: from its environment, and from the files of the directory that it is
started in. -/
abbrev Reader (ε : Type) : Type := Tree → Place → Table Text → Except ε Settings

/-- Runs the command with settings of its own. -/
def start (read : Reader ε) (environment : Table Text) (t : Tree) (cwd : Place) (arguments : List Text) :
    Except ε Outcome := do
  let s ← read t cwd environment
  return run t cwd (s.searchPath ((environment.get? "PATH").getD []) none) arguments

end Callback
end Tangle.CommandLine
