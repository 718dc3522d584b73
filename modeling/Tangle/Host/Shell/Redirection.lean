import Tangle.Host.Shell.Expansion

/-! # Redirections

What a redirection does to the descriptors of a process, and how it is undone when the command is
over. A descriptor that was chosen by the shell for a variable stays open. -/
namespace Tangle.Shell.Run

/-- Descriptors that have been set for a command, newest first, with the stream that each had. -/
abbrev Displaced := List (Nat × Option Nat)

/-- Sets a descriptor for a command. -/
def displace (fd stream : Nat) (stays : Bool) : Run Displaced := do
  let old ← descriptor? fd
  setDescriptor fd stream
  return if stays then [] else [(fd, old)]

def putBack (d : Displaced) : Run Unit := do
  for (fd, old) in d do
    match old with
    | some i => setDescriptor fd i
    | none => closeDescriptor fd

def isNumber (t : Text) : Bool := !t.isEmpty && t.all Symbol.isDigit

def numberText (t : Text) : Nat := t.foldl (fun n d => n * 10 + (Escape.digitValue d).getD 0) 0

def isStandardOutput : Descriptor → Bool
  | .default => true
  | .number n => n = 1
  | .named _ => false

/-- The descriptor that a redirection is for, and whether it stays. -/
def descriptorFor (standard : Nat) : Descriptor → Run (Nat × Bool)
  | .default => return (standard, false)
  | .number n => return (n, false)
  | .named v => do
    let fd ← freeDescriptor 10
    let _ ← assignTo v (Text.ofNat fd)
    return (fd, !(← isExtended "varredir_close"))

/-- The descriptor that is to be closed: one named by a variable is that of its value. -/
def descriptorToClose (standard : Nat) : Descriptor → Run Nat
  | .default => return standard
  | .number n => return n
  | .named v => do
    let (name, index) ← targetOf (splitIndex v).1 (splitIndex v).2
    return numberText ((← textAt name index position).getD [])

def openFailed (path : Text) (e : FileError) : Run (Option Displaced) := do
  complain (path ++ ": " ++ (if e = .alreadyExists then ("cannot overwrite existing file" : Text) else e.reason))
  return none

section
variable (run : Command → Run Unit)

/-- The one text that the word of a redirection comes to. -/
def targetText (w : Word) : Run (Option Text) := do
  match ← fields run [w] with
  | [t] => return some t
  | _ =>
    complain (w.source ++ ": ambiguous redirect")
    return none

/-- Carries out a redirection that writes to a file, unless the shell is restricted. -/
def unlessRestricted (path : Text) (r : Run (Option Displaced)) : Run (Option Displaced) := do
  if !(← process).isRestricted then r
  else
    complain (path ++ ": restricted: cannot redirect output")
    return none

/-- Opens a stream for a descriptor. -/
def connect (at_ : Descriptor) (standard : Nat) (path : Text) (opened : Run (Except FileError Nat)) :
    Run (Option Displaced) := do
  match ← opened with
  | .error e => openFailed path e
  | .ok i =>
    let (fd, stays) ← descriptorFor standard at_
    return some (← displace fd i stays)

/-- Sends output and errors to one file. -/
def connectBoth (path : Text) (how : Opening) : Run (Option Displaced) := unlessRestricted path do
  let mayExist := how = .append || !(← isOn "noclobber")
  match ← openOutput path how mayExist with
  | .error e => openFailed path e
  | .ok i =>
    let first ← displace 1 i false
    let second ← displace 2 i false
    return some (second ++ first)

def duplicate (at_ : Descriptor) (standard : Nat) (isOutput : Bool) (t : Text) : Run (Option Displaced) := do
  if t = ("-" : Text) then
    let fd ← descriptorToClose standard at_
    let old ← descriptor? fd
    closeDescriptor fd
    return some (match at_ with | .named _ => [] | _ => [(fd, old)])
  let moves := 1 < t.length && t.endsWith "-"
  let digits := if moves then t.dropLast else t
  if isNumber digits then
    let source := numberText digits
    match ← descriptor? source with
    | none =>
      complain (digits ++ ": Bad file descriptor")
      return none
    | some i =>
      let (fd, stays) ← descriptorFor standard at_
      let displaced ← displace fd i stays
      if moves && fd ≠ source then closeDescriptor source
      return some displaced
  else if isOutput && isStandardOutput at_ then connectBoth t .truncate
  else
    complain (t ++ ": ambiguous redirect")
    return none

def redirectFile (at_ : Descriptor) (kind : RedirectKind) (w : Word) : Run (Option Displaced) := do
  if kind = .hereString then
    let t ← oneText run w
    let i ← newStream (.input (t ++ "\n").encode)
    let (fd, stays) ← descriptorFor 0 at_
    return some (← displace fd i stays)
  match ← targetText run w with
  | none => return none
  | some t =>
    match kind with
    | .input => connect at_ 0 t (openInput t)
    | .output => do
      let mayExist := !(← isOn "noclobber")
      unlessRestricted t (connect at_ 1 t (openOutput t .truncate mayExist))
    | .clobber => unlessRestricted t (connect at_ 1 t (openOutput t .truncate true))
    | .append => unlessRestricted t (connect at_ 1 t (openOutput t .append true))
    | .readWrite => unlessRestricted t (connect at_ 0 t (openOutput t .keep true))
    | .both => connectBoth t .truncate
    | .appendBoth => connectBoth t .append
    | .duplicateInput => duplicate at_ 0 false t
    | .duplicateOutput => duplicate at_ 1 true t
    | .hereString => return none

/-- The text of a here-document. -/
def documentText (number : Nat) : Run Text := do
  match (← process).documents.lookup number with
  | none => return []
  | some d => if d.isQuoted then return d.body else quotedText run d.parts

def redirectOne : Redirect → Run (Option Displaced)
  | .file at_ kind w => redirectFile run at_ kind w
  | .document at_ n => do
    let t ← documentText run n
    let i ← newStream (.input t.encode)
    let (fd, stays) ← descriptorFor 0 at_
    return some (← displace fd i stays)

/-- Carries out redirections up to the first that fails; whether all were. -/
def redirectAll : List Redirect → Displaced → Run (Bool × Displaced)
  | [], d => return (true, d)
  | r :: rs, d => do
    match ← redirectOne run r with
    | some more => redirectAll rs (more ++ d)
    | none => return (false, d)

/-- Runs with redirections, which stay if they are for the rest of the shell's life. Whether all could be
carried out; if not, nothing is run. -/
def redirected (rs : List Redirect) (forGood : Bool) (body : Run Unit) : Run Bool := do
  if rs.isEmpty then
    body
    return true
  else
    let (ok, displaced) ← redirectAll run rs []
    if !ok then
      putBack displaced
      setStatus 1
      return false
    else if forGood then
      body
      return true
    else
      let before := (← process).aside
      modifyProcess fun p => { p with aside := displaced.filterMap (·.2) ++ p.aside }
      unlessEnding body do
        modifyProcess fun p => { p with aside := before }
        putBack displaced
      return true

/-- Closes the descriptors opened for processes since `before`. When the redirections stay, their
readers go on. -/
def settleProcesses (before : Process) (forGood : Bool) : Run Unit := do
  if (← process).transient.length ≠ before.transient.length then
    if forGood then
      modifyProcess fun p => { p with
        transient := before.transient
        descriptors := p.descriptors.filter fun d =>
          before.transient.contains d.1 || !p.transient.contains d.1 }
    else closeProcesses before

/-- Runs what may open descriptors for processes, and says whether its redirections stay. -/
def withProcesses (body : Run Bool) : Run Unit := do
  let before ← process
  match ← caught body with
  | .ok forGood => settleProcesses before forGood
  | .error (.exit n) => throw (.exit n)
  | .error (.fatal n) => throw (.fatal n)
  | .error e =>
    settleProcesses before false
    throw e

end

end Tangle.Shell.Run
