import Tangle.Host.Shell.Expansion

/-! # Traces

With the option `xtrace` a shell tells what it is about to do, after `PS4`. The first symbol of that is
written once for each of the texts that are being run inside one another. -/
namespace Tangle.Shell.Run

/-- A word as it is written in a trace. -/
def tracedWord (t : Text) : Text :=
  if t.isEmpty then "''"
  else if hasShellSigns t then apostrophed t
  else if needsEscapes t then dollarQuoted t
  else t

/-- The descriptor that traces are written to. -/
def traceDescriptor : Run Nat := do
  match (← binding? "BASH_XTRACEFD").bind Variable.plain? with
  | some t =>
    let n := t.foldl (fun n d => n * 10 + (Escape.digitValue d).getD 0) 0
    return if !t.isEmpty && t.all Symbol.isDigit && (← descriptor? n).isSome then n else 2
  | none => return 2

section
variable (run : Command → Run Unit)

/-- What stands before a line of the trace. -/
def traceHead : Run Text := do
  match (← binding? "PS4").bind Variable.plain? with
  | none => return []
  | some t =>
    let before := (← process).options
    modifyProcess fun p => { p with options := p.options.erase "xtrace" }
    let u ← ensuring (do quotedText run (Read.quotedParts (← prompt (t.length + 1) t)))
      (modifyProcess fun p => { p with options := before })
    match u with
    | [] => return []
    | s :: r => return List.replicate (← process).depth s ++ r

/-- Writes a line of the trace. -/
def traceLine (t : Text) : Run Unit := do
  let _ ← write (← traceDescriptor) ((← traceHead run) ++ t ++ "\n")

/-- Tells what is about to be done, if the shell is told to. -/
def trace (t : Unit → Text) : Run Unit := do if ← isOn "xtrace" then traceLine run (t ())

def traceWords (ts : List Text) : Run Unit := trace run fun _ => Text.join " " (ts.map tracedWord)

def traceAssignment (target : Text) (appends : Bool) (t : Text) : Run Unit :=
  trace run fun _ => target ++ (if appends then "+=" else "=") ++ (if t.isEmpty then [] else tracedWord t)

end

end Tangle.Shell.Run
