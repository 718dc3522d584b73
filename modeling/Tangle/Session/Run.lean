import Tangle.Session.Script
import Tangle.Session.Load
import Tangle.Collection

/-! # Runs

A run of the compile-time shell. The shell is a parameter, with what the program does for it in the file system:
any functions of the files of a run, and of whatever world they act on. -/
namespace Tangle

/-- What a shell is started with. -/
structure Invocation where
  shell : Text
  scriptFile : Text
  script : Bytes
  codeFile : Text
  code : Bytes
  optionsFile : Text
  variablesFile : Text
  functionsFile : Text
deriving DecidableEq, Repr

/-- What keeps a shell from being called by its name with the path of a script. -/
def Invocation.check (i : Invocation) : Except FileError Unit := do
  FileError.checkText i.shell
  FileError.checkText i.scriptFile

/-- How a shell answers. One that has started ends with a status, its output, and the files that it has
written of those it can leave behind. -/
inductive Answer where
  | unstartable (reason : Text)
  | ended (status : Int) (output : Bytes) (dump : Dump)
deriving Repr

/-- A shell, and the making of the directory and of the files that it is given. -/
structure Shell (σ : Type) where
  openDirectory : σ → Except FileError Unit × σ
  writeFile : (path : Text) → Bytes → σ → Except FileError Unit × σ
  start : σ → Invocation → Answer × σ

namespace Shell
variable {σ : Type}

/-- The shell that answers by its files alone. -/
def ofFiles (answer : Invocation → Answer) : Shell Unit where
  openDirectory _ := (.ok (), ())
  writeFile _ _ _ := (.ok (), ())
  start _ i := (answer i, ())

/-- Writes a text to a file, if it has bytes. -/
def writeText (shell : Shell σ) (path t : Text) (w : σ) : Except FileError Unit × σ :=
  match t.encoded with
  | .error f => (.error (.unencodable f), w)
  | .ok bytes => shell.writeFile path bytes w

theorem writeText_eq (shell : Shell σ) (path : Text) {t : Text} (h : t.isEncodable = true) :
    shell.writeText path t = shell.writeFile path t.encode := by
  funext w
  rw [writeText, Text.encoded, if_pos h]

end Shell

/-- Why code fails: by itself or for the shell, with a status or a detail, or for a file of its run. -/
inductive RunFault where
  | failed (status : Option Int) (detail : Text)
  | file (e : FileError)
deriving DecidableEq, Repr

/-- A failed run that is blamed on a block. An error of a file is blamed on none. -/
inductive RunError where
  | hook (f : HookFailure)
  | file (e : FileError)
deriving DecidableEq, Repr

def Session.LoadFault.ofRun : Session.LoadFault → RunFault
  | file e => .file e
  | definition f => .failed none f.message

/-- A session at work, with the world of its shell, the journal and the data collected so far. -/
structure Bench (σ : Type) where
  session : Session
  world : σ
  journal : Journal := {}
  data : Collection := {}

/-- A step on a bench: its effects stay when it fails. -/
abbrev Work (σ ε α : Type) := ExceptT ε (StateM (Bench σ)) α

/-- Code to run, and the block that a failure is blamed on. -/
structure Call where
  code : Text
  args : List Text := []
  label : Text := "mdsh"
  line : Nat := 0
deriving DecidableEq, Repr

def Call.failure (c : Call) (status : Option Int) (detail : Text) : HookFailure :=
  ⟨c.label, c.line, status, detail⟩

def Call.error (c : Call) : RunFault → RunError
  | .failed status detail => .hook (c.failure status detail)
  | .file e => .file e

namespace Session
variable {σ : Type}

/-- Makes the directory of a session that has none. -/
def makeDirectory (shell : Shell σ) (s : Session) (w : σ) : Except FileError Unit × σ :=
  if s.isOpen then (.ok (), w) else shell.openDirectory w

/-- Begins the next run: the session has its directory, and the files of the last run are gone. -/
def enter (shell : Shell σ) (s : Session) (w : σ) : Except FileError Unit × Session × σ :=
  match s.makeDirectory shell w with
  | (.error e, w) => (.error e, s, w)
  | (.ok (), w) =>
    let (cleared, dump) := s.dump.clear
    (cleared, { s with isOpen := true, runCount := s.runCount + 1, dump }, w)

/-- Writes the code and the script of a run. -/
def supply (shell : Shell σ) (s : Session) (script code : Text) (w : σ) : Except FileError Unit × σ :=
  match shell.writeText s.codeFile code w with
  | (.error e, w) => (.error e, w)
  | (.ok (), w) => shell.writeText s.scriptFile script w

def invocation (s : Session) (script code : Text) : Invocation where
  shell := s.settings.shell
  scriptFile := s.scriptFile
  script := script.encode
  codeFile := s.codeFile
  code := code.encode
  optionsFile := s.optionsFile
  variablesFile := s.variablesFile
  functionsFile := s.functionsFile

/-- Prepares a run, up to the start of the shell. -/
def ready (shell : Shell σ) (code : Text) (args : List Text) (s : Session) (w : σ) :
    Except RunFault Invocation × Session × σ :=
  match s.enter shell w with
  | (.error e, s, w) => (.error (.file e), s, w)
  | (.ok (), s, w) =>
    match s.script s.codeFile args with
    | .error e => (.error (.failed none e.message), s, w)
    | .ok script =>
      match s.supply shell script code w with
      | (.error e, w) => (.error (.file e), s, w)
      | (.ok (), w) => (.ok (s.invocation script code), s, w)

end Session

namespace Bench
variable {σ : Type}

def note (b : Bench σ) (depth : Nat) (m : Text) : Bench σ := { b with journal := b.journal.note depth m }

def writeNote {ε : Type} (depth : Nat) (m : Text) : Work σ ε Unit := fun b => (.ok (), b.note depth m)

/-- What the end of a run comes to, once its dump has been offered to the session. -/
def settle (status : Int) (output : Bytes) (b : Bench σ) : Except RunFault Text × Bench σ :=
  match b.session.load b.session.dump b.journal with
  | .error f => (.error f.ofRun, b)
  | .ok (saved, session, journal) =>
    let b := { b with session, journal }
    if status ≠ 0 then (.error (.failed (some status) []), b)
    else if saved then
      let text := Text.decode output
      (.ok text, b.note 3 ("Compile-time shell #" ++ Text.ofNat session.runCount ++ " produced " ++
        Text.ofNat text.length ++ " chars"))
    else (.error (.failed none "shell exited without saving its state"), b)

/-- Starts the shell for a run that is prepared. -/
def start (shell : Shell σ) (i : Invocation) (b : Bench σ) : Except RunFault Text × Bench σ :=
  match i.check with
  | .error e => (.error (.file e), b)
  | .ok () =>
    match shell.start b.world i with
    | (.unstartable reason, world) =>
      (.error (.failed none ("cannot start " ++ i.shell ++ ": " ++ reason)), { b with world })
    | (.ended status output dump, world) =>
      settle status output { b with world, session := { b.session with dump := dump.beside b.session.dump } }

/-- Runs code in the compile-time shell; the result is all that the code wrote to its output. -/
def run (shell : Shell σ) (c : Call) : Work σ RunError Text := fun b =>
  match b.session.ready shell c.code c.args b.world with
  | (.error f, session, world) => (.error (c.error f), { b with session, world })
  | (.ok i, session, world) =>
    let b := ({ b with session, world } : Bench σ).note 3 ("Compile-time shell #" ++ Text.ofNat session.runCount ++
      " for '" ++ c.label ++ "' (line " ++ Text.ofNat c.line ++ ")")
    let r := start shell i b
    (r.1.mapError c.error, r.2)

/-- Calls a function of the shell. -/
def callFunction (shell : Shell σ) (function : Text) (c : Call) : Work σ RunError Text :=
  run shell { c with code := function ++ " \"$@\"" }

end Bench
end Tangle
