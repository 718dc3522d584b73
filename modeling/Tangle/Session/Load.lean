import Tangle.Session.Basic
import Tangle.Text.Utf8
import Tangle.Text.Display
import Tangle.Journal

/-! # Loading a dump

A session takes over the state that a run has dumped, if all three files are there. One that cannot be read is a
fault. -/
namespace Tangle.Session

/-- The shell options that cannot be set. -/
def fixedOptions : List Text := ["login_shell", "restricted_shell"]

/-- Keeps the lines that set an option which can be set. -/
def keepsOption (line : Text) : Bool :=
  match line.words.getLast? with
  | none => false
  | some w => !fixedOptions.contains w

def readOptions (t : Text) : Text := Text.join "\n" (t.bareLines.filter keepsOption)

/-- The function texts of a dump, each ended by a null character, without the blanks around
them. -/
def functionChunks (t : Text) : List Text :=
  ((Text.pieces Symbol.nul t).map Text.trim).filter (!·.isEmpty)

def addFunction (fs : Table Text × Journal) (source : Text) : Table Text × Journal :=
  match definedName source with
  | .ok name => (fs.1.set name source, fs.2)
  | .error _ =>
    (fs.1, fs.2.note 3 ("Skipping unparseable function dump: " ++ Text.display (source.take 40)))

def readFunctions (t : Text) (j : Journal) : Table Text × Journal :=
  (functionChunks t).foldl addFunction ({}, j)

/-- Why a dump cannot be taken over. -/
inductive LoadFault where
  | file (e : FileError)
  | definition (f : DefinitionFault)
deriving DecidableEq, Repr

/-- Takes over a dump. The answer tells whether there was one; without all three files the state
stays what it was. -/
def load (s : Session) (d : Dump) (j : Journal) : Except LoadFault (Bool × Session × Journal) :=
  match d.contents? with
  | .error e => .error (.file e)
  | .ok none => .ok (false, s, j)
  | .ok (some c) =>
    let (fs, j) := readFunctions (Text.decode c.functions) j
    match harvest { s with
      functions := fs
      options := readOptions (Text.decode c.options)
      state := Text.decode c.values ++ "\n" ++ Text.join "\n" fs.values } with
    | .error f => .error (.definition f)
    | .ok s => .ok (true, s, j)

end Tangle.Session
