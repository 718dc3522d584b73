import Tangle.Host.Shell.Builtin.Signal
import Tangle.Host.Shell.Subshell

/-! # Jobs

The commands about processes that run beside the shell: `jobs`, `wait`, `kill`, `disown`, and those that
need control over jobs, which this shell does not have. -/
namespace Tangle.Shell.Builtin
open Run

/-- The jobs that have not been told of, the oldest first. -/
def openJobs : Run (List Job) := do return (← process).jobs.filter (!·.isTold)

def endingOf (identity : Nat) : Run (Option Ending) := do return (← world).endings.lookup identity

/-- The number of the job that counts as the current one, and of the one before it. -/
def currentNumbers (jobs : List Job) : Option Nat × Option Nat :=
  match jobs.reverse with
  | [] => (none, none)
  | [j] => (some j.number, some j.number)
  | j :: k :: _ => (some j.number, some k.number)

inductive JobFault where
  | unknown
  | ambiguous

/-- The job that a text with a percent sign means. -/
def jobOf (t : Text) : Run (Except JobFault Job) := do
  let jobs ← openJobs
  let (current, previous) := currentNumbers jobs
  let numbered (n : Option Nat) : Except JobFault Job :=
    match n.bind fun n => jobs.find? (·.number = n) with
    | some j => .ok j
    | none => .error .unknown
  let only (js : List Job) : Except JobFault Job :=
    match js with
    | [j] => .ok j
    | [] => .error .unknown
    | _ => .error .ambiguous
  match (Text.after? t "%").getD t with
  | [] => return numbered current
  | [.char '%'] => return numbered current
  | [.char '+'] => return numbered current
  | [.char '-'] => return numbered previous
  | .char '?' :: inner => return only (jobs.filter fun j => j.text.hasInside inner)
  | name =>
    if name.all Symbol.isDigit then return numbered (some (naturalOf name))
    else return only (jobs.filter (·.text.startsWith name))

def badJob (command t : Text) : JobFault → Run Nat
  | .unknown => fault command (t ++ ": no such job")
  | .ambiguous => fault command (t ++ ": ambiguous job spec")

/-! Listing -/

def signalWords : List (Nat × String) := [
  (1, "Hangup"), (2, "Interrupt"), (3, "Quit"), (4, "Illegal instruction"), (5, "Trace/breakpoint trap"),
  (6, "Aborted"), (7, "Bus error"), (8, "Floating point exception"), (9, "Killed"),
  (10, "User defined signal 1"), (11, "Segmentation fault"), (12, "User defined signal 2"),
  (13, "Broken pipe"), (14, "Alarm clock"), (15, "Terminated"), (16, "Stack fault"),
  (24, "CPU time limit exceeded"), (25, "File size limit exceeded"), (26, "Virtual timer expired"),
  (27, "Profiling timer expired"), (29, "I/O possible"), (30, "Power failure"), (31, "Bad system call")]

def stateText : Option Ending → Text
  | none => "Running"
  | some (.status n) => if n = 0 then "Done" else "Exit " ++ Text.ofNat n
  | some (.signal n) => ((signalWords.lookup n).map Text.ofString).getD ("Real-time signal " ++ Text.ofNat (n - 34))

def jobLine (showsIdentity : Bool) (numbers : Option Nat × Option Nat) (j : Job) (e : Option Ending) : Text :=
  let mark : Text := if numbers.1 = some j.number then "+" else if numbers.2 = some j.number then "-" else " "
  let identity : Text := if showsIdentity then Text.padStart 5 (Text.ofNat j.identity) else []
  let end_ : Text := if e.isNone then " &" else ""
  "[" ++ Text.ofNat j.number ++ "]" ++ mark ++ " " ++ identity ++ " " ++ Text.padEnd 24 (stateText e) ++
    j.text ++ end_ ++ "\n"

/-- Remembers that the user has been told of the end of jobs. -/
def markTold (identities : List Nat) : Run Unit := modifyProcess fun p =>
  { p with jobs := p.jobs.map fun j => if identities.contains j.identity then { j with isTold := true } else j }

def jobs (args : List Text) : Run Nat := withOptions "jobs" "lpnrs" "" args fun os rest => do
  receive
  let all ← openJobs
  let numbers := currentNumbers all
  let show_ (j : Job) : Run Nat := do
    let e ← endingOf j.identity
    let isShown := (!hasOption 'r' os || e.isNone) && !hasOption 's' os
    if isShown then
      if hasOption 'p' os then let _ ← say (Text.ofNat j.identity ++ "\n")
      else let _ ← say (jobLine (hasOption 'l' os) numbers j e)
      if e.isSome then markTold [j.identity]
    return 0
  if rest.isEmpty then
    for j in all do let _ ← show_ j
    return 0
  eachText rest fun t => do
    match ← jobOf t with
    | .ok j => show_ j
    | .error f => badJob "jobs" t f

def disown (args : List Text) : Run Nat := withOptions "disown" "ahr" "" args fun os rest => do
  let forget (identities : List Nat) : Run Unit := do
    if !hasOption 'h' os then
      modifyProcess fun p => { p with jobs := p.jobs.filter fun j => !identities.contains j.identity }
  let all ← openJobs
  if rest.isEmpty then
    let chosen ← if hasOption 'a' os then pure all
      else if hasOption 'r' os then all.filterM fun j => do return (← endingOf j.identity).isNone
      else pure all.getLast?.toList
    if chosen.isEmpty && os.isEmpty then return ← fault "disown" "current: no such job"
    forget (chosen.map (·.identity))
    return 0
  eachText rest fun t => do
    match integerOf? t with
    | some n =>
      match all.find? fun j => (j.identity : Int) = n with
      | some j => forget [j.identity]; return 0
      | none => badJob "disown" t .unknown
    | none =>
      match ← jobOf t with
      | .ok j => forget [j.identity]; return 0
      | .error f => badJob "disown" t f

def withoutControl (name : Text) : Run Nat := fault name "no job control"

/-! Waiting -/

/-- The status that a signal with a trap gives to a command that it cuts short. -/
def cutShort : Run Nat := do
  let due := (← process).due
  let n := (due.head?.bind fun name => signals.find? fun s => name = (s.1 : Text)).map (·.2)
  return 128 + n.getD 0

/-- Waits for some processes to end; nothing if a signal came first. -/
def awaitJobs (identities : List Nat) (needsAll : Bool) : Run Bool := do
  let isOver (w : World) : Bool :=
    if needsAll then identities.all w.hasEnded else identities.any w.hasEnded
  return !(← await isOver none true)

/-- The identities of the processes that `wait` is asked for, with a status for a text that means none. -/
def awaited (t : Text) : Run (Except Nat Nat) := do
  match t with
  | .char '%' :: _ =>
    match ← jobOf t with
    | .ok j => return .ok j.identity
    | .error _ =>
      tell "wait" (t ++ ": no such job")
      return .error 127
  | _ =>
    if !t.isEmpty && t.all Symbol.isDigit then
      let n := naturalOf t
      if (← process).jobs.any (·.identity = n) then return .ok n
      tell "wait" ("pid " ++ t ++ " is not a child of this shell")
      return .error 127
    tell "wait" ("\x60" ++ t ++ "': not a pid or valid job spec")
    return .error 1

def statusOf (identity : Nat) : Run Nat := do return ((← endingOf identity).map Ending.code).getD 127

/-- Waits for the next of some processes to end. -/
def waitNext (identities : List Nat) : Run (Nat × Option Nat) := do
  if identities.isEmpty then return (127, none)
  if !(← awaitJobs identities false) then return (← cutShort, none)
  let ended ← identities.filterM fun n => do return (← endingOf n).isSome
  /- The one that has ended first is the oldest of those known. -/
  let order := (← world).endings.reverse.map (·.1)
  match order.find? ended.contains with
  | some n =>
    markTold [n]
    return (← statusOf n, some n)
  | none => return (127, none)

def waitEach : List Text → (status : Nat × Option Nat) → Run (Nat × Option Nat)
  | [], status => return status
  | t :: ts, _ => do
    match ← awaited t with
    | .error n => waitEach ts (n, none)
    | .ok n =>
      if !(← awaitJobs [n] true) then return (← cutShort, none)
      markTold [n]
      waitEach ts (← statusOf n, some n)

/-- Forgets the coprocesses that have ended, with their descriptors and variables. -/
def forgetCoprocesses : Run Unit := do
  let w ← world
  let ended := (← process).coprocesses.filter fun c => w.hasEnded c.identity
  for c in ended do
    closeDescriptor c.source
    closeDescriptor c.sink
    removeVariable c.name
    removeVariable (c.name ++ "_PID")
  modifyProcess fun p => { p with coprocesses := p.coprocesses.filter fun c => !w.hasEnded c.identity }

def awaitGiven (args : List Text) : Run Nat := withOptions "wait" "nf" "p" args fun os rest => do
  receive
  let name? := optionValue? 'p' os
  match name? with
  | some name =>
    if !isName (splitIndex name).1 then return ← fault "wait" ("\x60" ++ name ++ "': not a valid identifier")
    removeVariable name
  | none => pure ()
  let finish (r : Nat × Option Nat) : Run Nat := do
    match name?, r.2 with
    | some name, some n => let _ ← assignTo name (Text.ofNat n)
    | _, _ => pure ()
    return r.1
  if hasOption 'n' os then
    if rest.isEmpty then finish (← waitNext (((← openJobs).filter (!·.isForeign)).map (·.identity)))
    else
      let known ← rest.mapM awaited
      finish (← waitNext (known.filterMap (·.toOption)))
  else if rest.isEmpty then
    let ids := ((← process).jobs.filter (!·.isForeign)).map (·.identity)
    if !(← awaitJobs ids true) then return ← cutShort
    modifyProcess fun p => { p with jobs := [] }
    return 0
  else finish (← waitEach rest (0, none))

def wait (args : List Text) : Run Nat := do
  let status ← awaitGiven args
  forgetCoprocesses
  return status

/-! Sending signals -/

/-- Whether a process can be sent a signal. -/
def isRunning (identity : Nat) : Run Bool := do
  let p ← process
  let w ← world
  return identity = p.identity || identity = p.shell || p.enclosing.any (·.identity = identity) ||
    w.holders.any (·.1 = identity)

def sendSignal (signal identity : Nat) : Run Nat := do
  if !(← isRunning identity) then
    return ← fault "kill" ("(" ++ Text.ofNat identity ++ ") - No such process")
  if signal ≠ 0 then
    modifyWorld fun w => { w with signals := w.signals ++ [(identity, signal)] }
    receive
  return 0

def signalTarget (signal : Nat) (t : Text) : Run Nat := do
  match integerOf? t with
  | some n => sendSignal signal n.natAbs
  | none =>
    match t with
    | .char '%' :: _ =>
      match ← jobOf t with
      | .ok j => sendSignal signal j.identity
      | .error f => badJob "kill" t f
    | _ => fault "kill" (t ++ ": arguments must be process or job IDs")

/-- What a call of `kill` asks for. -/
structure KillCall where
  lists : Bool := false
  signal : Text := "TERM"
  isGiven : Bool := false
  lacksValue : Option Text := none
  targets : List Text := []

def killCall : Nat → List Text → KillCall → KillCall
  | 0, _, c => c
  | _, [], c => c
  | n + 1, t :: rest, c =>
    if t = ("-l" : Text) || t = ("-L" : Text) then killCall n rest { c with lists := true }
    else if t = ("-s" : Text) || t = ("-n" : Text) then
      match rest with
      | name :: rest => killCall n rest { c with signal := name }
      | [] => { c with lacksValue := some t }
    else if t = ("--" : Text) then { c with targets := rest }
    else match t with
      | .char '-' :: .char 's' :: a :: name =>
        if a.isIdentifierStart then killCall n rest { c with signal := a :: name } else named n t rest c
      | .char '-' :: .char 'n' :: d :: name =>
        if d.isDigit then killCall n rest { c with signal := d :: name } else named n t rest c
      | _ => named n t rest c
where
  named (n : Nat) (t : Text) (rest : List Text) (c : KillCall) : KillCall :=
    match t with
    | .char '-' :: name =>
      if c.isGiven then { c with targets := t :: rest }
      else killCall n rest { c with signal := name, isGiven := true }
    | _ => { c with targets := t :: rest }

/-- The name of a signal for its number, or the number for its name. -/
def translateSignal (t : Text) : Run Nat := do
  match integerOf? t with
  | some n =>
    let n := if 128 < n then n - 128 else n
    if n < 0 || 65 ≤ n then invalidSignal "kill" t
    else match occasions.find? fun o => (o.2 : Int) = n with
      | some o => say (o.1 ++ "\n")
      | none => return 0
  | none =>
    match occasion? t with
    | some o => say (Text.ofNat o.2 ++ "\n")
    | none => invalidSignal "kill" t

def kill (args : List Text) : Run Nat := do
  let c := killCall (args.length + 1) args {}
  match c.lacksValue with
  | some t => fault "kill" (t ++ ": option requires an argument")
  | none =>
    if c.lists then
      if c.targets.isEmpty then say signalTable else eachText c.targets translateSignal
    else match occasion? c.signal with
      | none => invalidSignal "kill" c.signal
      | some (_, n) =>
        if 65 ≤ n then invalidSignal "kill" c.signal
        else if c.targets.isEmpty then showUsage "kill"
        else
          let statuses ← c.targets.mapM (signalTarget n)
          return if statuses.contains 0 then 0 else 1

end Tangle.Shell.Builtin
