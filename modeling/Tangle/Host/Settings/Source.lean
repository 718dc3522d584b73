import Tangle.Settings
import Tangle.Host.Settings.Assignment
import Tangle.Text.LetterCase
import Tangle.Text.Blank
import Tangle.Text.Utf8

/-! # Where settings come from

A setting is taken from the arguments, else from the environment, else from an assignment file, and
else has its default. In the environment and the file its name has a stem of its own. Names are read
without regard to case. -/
namespace Tangle.Settings

inductive Field where
  | hookStem
  | dataStem
  | heredocDelimiter
  | evalTrailer
  | shell
  | modulePath
deriving DecidableEq, Repr

namespace Field

def all : List Field := [hookStem, dataStem, heredocDelimiter, evalTrailer, shell, modulePath]

def name : Field → Text
  | hookStem => "hook_prefix"
  | dataStem => "data_prefix"
  | heredocDelimiter => "heredoc_delimiter"
  | evalTrailer => "eval_trailer"
  | shell => "shell"
  | modulePath => "module_path"

def ofName? (n : Text) : Option Field := all.find? (·.name = n.lowered)

/-- The name of a field in the environment, in lower case. -/
def variableName (f : Field) : Text := "mdsh_" ++ f.name

def ofVariable? (n : Text) : Option Field := all.find? (·.variableName = n)

end Field

/-- What an argument gives: a text, nothing at all, or something that is no setting. -/
inductive Given where
  | text (t : Text)
  | nothing
  | other
deriving DecidableEq, Repr

inductive Fault where
  | undecodable
  | invalid
deriving DecidableEq, Repr

structure Source where
  arguments : List (Text × Given) := []
  environment : Table Text := {}
  file : Option Bytes := none

def put (s : Settings) (f : Field) (t : Text) : Settings :=
  match f with
  | .hookStem => { s with hookStem := t }
  | .dataStem => { s with dataStem := t }
  | .heredocDelimiter => { s with heredocDelimiter := t }
  | .evalTrailer => { s with evalTrailer := t }
  | .shell => { s with shell := t }
  | .modulePath => { s with modulePath := some t }

/-- Sets a field; only text without undecoded bytes is a setting. -/
def take (s : Settings) (f : Field) (t : Text) : Except Fault Settings :=
  if t.chars?.isSome then .ok (s.put f t) else .error .invalid

def takeGiven (s : Settings) (f : Field) : Given → Except Fault Settings
  | .text t => s.take f t
  | .nothing => if f = .modulePath then .ok { s with modulePath := none } else .error .invalid
  | .other => .error .invalid

/-- A table with its names in lower case; of two that become alike the later prevails. -/
def loweredNames {α : Type} (t : Table α) : Table α := ({} : Table α).setAll (t.toList.map fun e => (e.1.lowered, e.2))

def fileText (b : Bytes) : Except Fault Text :=
  match (Text.decode b).chars? with
  | some cs => .ok (Text.ofChars (newlinesOnly cs))
  | none => .error .undecodable

/-- The assignments of the file. -/
def fileValues (src : Source) : Except Fault (Table (Option Text)) :=
  match src.file with
  | none => .ok {}
  | some b => do return loweredNames (Assignment.resolve src.environment (Assignment.read (← fileText b)))

/-- Whether the file may hold a name with a value: it belongs to a field, or is the bare name of
one. -/
def mayHold (n : Text) (v : Option Text) : Bool :=
  (v.getD []).isEmpty || (Field.ofVariable? n).isSome || (Field.ofName? n).isSome

def isArgument (src : Source) (f : Field) : Bool := src.arguments.any fun a => Field.ofName? a.1 = some f

/-- The value of a field in the environment, or else in the file. -/
def outer? (environment : Table Text) (file : Table (Option Text)) (f : Field) : Option Text :=
  environment.get? f.variableName <|> (file.get? f.variableName).join

def read (src : Source) : Except Fault Settings := do
  let file ← fileValues src
  if !file.toList.all fun e => mayHold e.1 e.2 then throw .invalid
  let environment := loweredNames src.environment
  let s ← Field.all.foldlM (fun s f =>
    match if isArgument src f then none else outer? environment file f with
    | some t => s.take f t
    | none => .ok s) ({} : Settings)
  src.arguments.foldlM (fun s a =>
    match Field.ofName? a.1 with
    | some f => s.takeGiven f a.2
    | none => .error .invalid) s

end Tangle.Settings
