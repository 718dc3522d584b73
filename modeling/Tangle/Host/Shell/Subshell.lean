import Tangle.Host.Shell.Parameter
import Tangle.Shell.Reading.Command

/-! # Texts run as commands, and subshells

A text is read and run unit by unit, so that a fault in a later unit does not keep an earlier one from
being run. A subshell runs in a copy of the process, without the traps of its parent. -/
namespace Tangle.Shell.Run

/-- Writes a message about a source text, with what the text is called and the line. -/
def complainAbout (line : Nat) (t : Text) : Run Unit := do
  let p ← process
  let origin := if p.origin.isEmpty then ([] : Text) else p.origin ++ ": "
  let _ ← write 2 (p.source ++ ": " ++ origin ++ "line " ++ Text.ofNat line ++ ": " ++ t ++ "\n")

def showLine (line : Nat) (t : Text) : Run Unit := complainAbout line ("\x60" ++ t ++ "'")

/-- Reports a fault of a source text. -/
def reportFault : ParseFault → Run Unit
  | .ended line => complainAbout line "syntax error: unexpected end of file"
  | .unclosed closer line =>
    complainAbout line ("unexpected EOF while looking for matching \x60" ++ closer ++ "'")
  | .unexpected token line text => do
    complainAbout line ("syntax error near unexpected token \x60" ++ token ++ "'")
    showLine line text
  | .condition message near line text => do
    complainAbout line message
    complainAbout line ("syntax error near \x60" ++ near ++ "'")
    showLine line text
  | .inArray f => reportFault f
  | .inSubstitution f => reportFault f

def reportUnended (before after : Source) : Run Unit := do
  for (start, line, delimiter) in after.unended.take (after.unended.length - before.unended.length) do
    complainAbout line ("warning: here-document at line " ++ Text.ofNat start ++
      " delimited by end-of-file (wanted \x60" ++ delimiter ++ "')")

/-- The aliases that are replaced in what is read. -/
def replacedAliases : Run (Table Text) := do
  let p ← process
  return if p.extended.contains "expand_aliases" then p.aliases else {}

section
variable (run : Command → Run Unit)

/-- Goes on after the rest of a unit has been dropped; a subshell ends instead. -/
def dropped (next : Run Unit) : Run Unit := do
  if (← process).status = 0 then setStatus 1
  if 0 < (← process).subshells then throw (.exit (← process).status) else next

/-- Shows the lines that were read. -/
def showRead (before after : Source) : Run Unit := do
  if ← isOn "verbose" then
    let _ ← write 2 (Text.terminated (before.rest.take (before.rest.length - after.rest.length)))

/-- Runs a source text unit by unit. The main text of a shell may be left after a single one. -/
def runUnits (isMain : Bool) : Nat → Source → Run Unit
  | 0, _ => throw .exhausted
  | n + 1, s => do
    let s := { s with hasGroups := (← isExtended "extglob"), aliases := (← replacedAliases) }
    let (r, after) := Read.unit? s
    showRead s after
    reportUnended s after
    match r with
    | .ok none => pure ()
    | .ok (some c) =>
      modifyProcess fun p => { p with documents := after.documents }
      match ← caught (run c) with
      | .ok () => if isMain && (← isOn "onecmd") then pure () else runUnits isMain n after
      | .error .discard => dropped (runUnits isMain n after)
      | .error e => throw e
    | .error f =>
      reportFault f
      match f with
      | .inSubstitution _ => throw (.fatal (if isMain then 2 else 1))
      | .inArray _ =>
        setStatus 1
        dropped (runUnits isMain n after)
      | _ => setStatus 2

/-- Runs a text whose first line has a number; the status is that of its last command. -/
def runTextFrom (origin : Text) (line : Nat) (isMain : Bool) (t : Text) : Run Unit := do
  let before ← process
  modifyProcess fun p => { p with origin, depth := p.depth + 1 }
  ensuring (runUnits run isMain (t.length + 2) { Source.ofText t with line })
    (modifyProcess fun p => { p with documents := before.documents, origin := before.origin, depth := before.depth })

/-- Runs a text on the line of the command that it belongs to. -/
def runText (origin t : Text) : Run Unit := do runTextFrom run origin (← process).line false t

/-- Runs the action of a trap, and gives its status. That of the shell stays as it is. -/
def runTrap (occasion origin : Text) (line : Nat) (action : Text) : Run Nat := do
  let before ← process
  modifyProcess fun p => { p with inTraps := (occasion, p.status) :: p.inTraps, isGuarded := false }
  unlessEnding (runTextFrom run origin line false action) do
    modifyProcess fun p => { p with inTraps := before.inTraps, isGuarded := before.isGuarded, line := before.line }
  let status := (← process).status
  modifyProcess fun p => { p with status := before.status, pipeStatus := before.pipeStatus }
  return status

/-- Runs the actions for signals that have come. -/
def runDue : Run Unit := do
  receive
  let due := (← process).due
  if !due.isEmpty then
    modifyProcess fun p => { p with due := [] }
    for name in due do
      match (← process).traps.get? name with
      | some action => let _ ← runTrap run name "trap" 1 action
      | none => pure ()

/-! The end of a process -/

/-- Runs the trap for the end of a process; the status may be changed by it. -/
def endProcess (status : Nat) : Run Nat := do
  match (← process).traps.get? "EXIT" with
  | none => return status
  | some action =>
    modifyProcess fun p => { p with traps := p.traps.erase "EXIT", shownTraps := none }
    setStatus status
    modifyProcess fun p => { p with inTraps := ("EXIT", status) :: p.inTraps }
    match ← caught (runTextFrom run "exit trap" 1 false action) with
    | .ok () => return status
    | .error (.exit n) => return n
    | .error (.fatal n) => return n
    | .error .exhausted => throw .exhausted
    | .error (.killed q s) => throw (.killed q s)
    | .error _ => return status

/-- The signals upon which a shell runs the trap for its end before it is ended by them. -/
def farewellSignals : List Nat := [1, 2, 4, 5, 6, 7, 8, 10, 11, 12, 13, 14, 15, 24, 25, 26, 27, 31]

/-- How a process ends after its commands, with the trap for its end. -/
def conclude (r : Except Control Unit) : Run Ending := do
  let p ← process
  match r with
  | .error (.replaced e) => return e
  | .error (.killed q s) =>
    if q = p.identity then
      if farewellSignals.contains s then let _ ← endProcess run (128 + s)
      return .signal s
    else throw (.killed q s)
  | .error .exhausted => throw .exhausted
  | .error (.exit n) => return .status (← endProcess run n)
  | .error (.fatal n) => return .status (← endProcess run n)
  | .error (.leave n) => return .status (← endProcess run n)
  | .error .discard => return .status (← endProcess run 1)
  | _ => return .status (← endProcess run p.status)

/-! Subshells -/

/-- Runs in a subshell, and waits for its end. -/
def inSubshell (prepare : Process → Process) (body : Run Unit) : Run Nat := do
  let identity ← newProcess
  let result ← isolated do
    modifyProcess fun p => prepare (p.subshell identity)
    yield
    match ← caught (conclude run (← caught body)) with
    | .ok e => return e.code
    | .error (.killed q s) => if q = identity then return 128 + s else throw (.killed q s)
    | .error e => throw e
  match result with
  | .ok n => return n
  | .error e => throw e

/-- How a process that runs on its own has ended. -/
def settled (identity : Nat) : Except Control Ending → Machine → World
  | .ok e, m => m.world.leave identity e
  | .error (.killed _ s), m => m.world.leave identity (.signal s)
  | .error _, m => m.world.leave identity (.signal 11)

/-- Starts a subshell that runs beside this process, and gives its identity. -/
def fork (prepare : Process → Process) (body : Run Unit) : Run Nat := do
  let identity ← newProcess
  let p ← process
  let child := { prepare (p.subshell identity).withoutCoprocesses with
    task := identity, enclosing := [], aside := [] }
  modifyWorld fun w => w.enter identity child.held
  let course : Run Ending := do conclude run (← caught body)
  begin fun world => (course ⟨child, world⟩).task (settled identity)
  return identity

/-- Waits for the end of a process, and gives its status. -/
def awaitEnd (identity : Nat) : Run Nat := do
  awaitOnly fun w => w.hasEnded identity
  return (((← world).endings.lookup identity).map Ending.code).getD 127

/-- A command that does no more than name a file to be read. -/
def fileReader : Command → Option Command
  | .list [(.simple line [] [] [.file d .input w], _)] =>
    some (.simple line [] [.word (.mk "command" [.plain "command"]), .word (.mk "cat" [.plain "cat"])]
      [.file d .input w])
  | _ => none

/-- What is written to the standard output in a subshell. -/
def capture (body : Run Unit) : Run Bytes := do
  let i ← newStream (.output [])
  let inherits ← isExtended "inherit_errexit"
  let jobs := (← process).foreignJobs
  let status ← inSubshell run (fun p =>
    let p := { p.withDescriptor 1 i with isInSubstitution := true, jobs }
    if inherits then p else { p with options := p.options.erase "errexit" }) body
  awaitOnly fun w => !w.isHeld i
  modifyProcess fun p => { p with substitutionStatus := some status, status }
  collected i

/-- Output as a value: without null characters and without the newlines at its end. -/
def outputText (bs : Bytes) : Text :=
  Text.trimEndBy (· = Symbol.newline) (Text.decode (bs.filter (· ≠ 0)))

/-- The output of a text that is run as commands. -/
def capturedText (t : Text) : Run Text := do
  return outputText (← capture run (runText run "command substitution" t))

/-- The output of a command. Aliases in it are replaced when it is run. -/
def captureText (c : Command) : Run Text := do
  if (← replacedAliases).toList.isEmpty then
    return outputText (← capture run do
      modifyProcess fun p => { p with depth := p.depth + 1 }
      match fileReader c with
      | some reader =>
        modifyProcess fun p => { p with options := p.options.erase "xtrace" }
        run reader
      | none => run c)
  capturedText run (c.inlineText (← process).documents)

/-- The greatest number up to `n` that no descriptor has, if it is found in so many steps. -/
def highDescriptor (used : List Nat) : Nat → (n : Nat) → Nat
  | 0, n => n
  | k + 1, n => if used.contains n then highDescriptor used k (n - 1) else n

/-- Makes a descriptor for the other end of a process, and gives its path. -/
def openProcess (isRead : Bool) (c : Command) : Run Text := do
  let fd := highDescriptor ((← process).descriptors.map (·.1)) 64 63
  let (source, sink) ← newPipe
  let _ ← fork run (fun p =>
    let p := { p with options := p.options.erase "errexit", depth := p.depth + 1 }
    if isRead then p.withDescriptor 1 sink else p.withDescriptor 0 source) (run c)
  setDescriptor fd (if isRead then source else sink)
  modifyProcess fun p => { p with transient := fd :: p.transient }
  return "/dev/fd/" ++ Text.ofNat fd

/-- Closes the descriptors opened for processes since `before`. -/
def closeProcesses (before : Process) : Run Unit := do
  modifyProcess fun p =>
    let opened := p.transient.filter fun fd => !before.transient.contains fd
    { p with
      transient := before.transient
      descriptors := p.descriptors.filter fun d => !opened.contains d.1 }

end

end Tangle.Shell.Run
