import Tangle.Host.Shell.Calling.Name
import Tangle.Host.Shell.Elapsed

/-! # Running commands

One step for each kind of command, given how the commands inside it are run. Commands may be inside one
another as deep as a number allows, and loops may turn as often as another allows; a run that goes beyond
is `exhausted`, which no command can come to by itself. -/
namespace Tangle.Shell.Run

section
variable (run : Command → Run Unit)

/-! Lists and pipelines -/

/-- What is left of a command for a process of its own. A simple command is made the current one by the
process that starts it. -/
def detached (c : Command) : Run (Run Unit) := do
  match c with
  | .simple line as arguments rs =>
    if ← announcedSimple run line as arguments rs then return currentSimple run as arguments rs
    else return setStatus 0
  | c => return run c

/-- Runs beside the shell, without input of its own. -/
def background (c : Command) : Run Unit := do
  let input ← newStream .nothing
  let body ← detached run c
  let identity ← fork run (fun p => { p.withDescriptor 0 input with isGuarded := false }) body
  modifyProcess fun p => { p with
    jobs := p.jobs ++ [{
      number := (p.jobs.foldl (fun n j => max n j.number) 0) + 1, identity
      text := c.inlineText p.documents }]
    lastBackground := some identity
    status := 0 }

/-- Starts a command that reads what the shell writes to it and writes for the shell to read. The variable
of its name gets the descriptors for that. -/
def coprocess (name : Text) (c : Command) : Run Unit := do
  if !isName name then
    complain ("\x60" ++ name ++ "': not a valid identifier")
    setStatus 1
  else
    let (source, theirSink) ← newPipe
    let (theirSource, sink) ← newPipe
    let identity ← fork run
      (fun p => { (p.withDescriptor 0 theirSource).withDescriptor 1 theirSink with isGuarded := false }) (run c)
    /- The ends of the process have numbers of their own for a moment. -/
    let used := (← process).descriptors.map (·.1)
    let first := highDescriptor used 64 63
    let second := highDescriptor used 64 (first - 1)
    let third := highDescriptor used 64 (second - 1)
    let last := highDescriptor used 64 (third - 1)
    setDescriptor first source
    setDescriptor last sink
    modifyProcess fun p => { p with
      coprocesses := ⟨name, identity, first, last⟩ :: p.coprocesses
      jobs := p.jobs ++ [{
        number := (p.jobs.foldl (fun n j => max n j.number) 0) + 1, identity
        text := (Command.coprocess name c).inlineText p.documents }]
      lastBackground := some identity }
    putVariable name (listOf [Text.ofNat first, Text.ofNat last])
    putVariable (name ++ "_PID") (.ofText (Text.ofNat identity))
    setStatus 0

/-- Lets a process read from a pipe, if there is one. -/
def fed (input : Option Nat) (p : Process) : Process :=
  match input with
  | some i => p.withDescriptor 0 i
  | none => p

/-- Whether a command is the one that lists jobs, and so knows those of the shell in a pipeline. -/
def listsJobs : Command → Bool
  | .simple _ _ (.word w :: _) _ => w.source = ("jobs" : Text)
  | _ => false

/-- The jobs that a command of a pipeline knows. -/
def jobsIn (c : Command) : Run (List Job) := do
  if listsJobs c then return (← process).foreignJobs else return []

/-- Starts all commands of a pipeline but the last, each of which writes to the next one, and runs the
last. -/
def stages : Option Nat → List Command → Run (List Nat)
  | _, [] => return []
  | input, [c] => do
    if ← isExtended "lastpipe" then
      let displaced ← match input with
        | some i => displace 0 i false
        | none => pure []
      let before := (← process).aside
      modifyProcess fun p => { p with aside := displaced.filterMap (·.2) ++ p.aside }
      unlessEnding (run c) do
        modifyProcess fun p => { p with aside := before }
        putBack displaced
      return [(← process).status]
    else
      let jobs ← jobsIn c
      let body ← detached run c
      return [← inSubshell run (fun p => { fed input p with jobs }) body]
  | input, c :: rest => do
    let jobs ← jobsIn c
    let body ← detached run c
    let (source, sink) ← newPipe
    let identity ← fork run (fun p => { (fed input p).withDescriptor 1 sink with jobs }) body
    let statuses ← stages (some source) rest
    return (← awaitEnd identity) :: statuses

/-- The status of a pipeline from those of its commands. -/
def pipelineStatus (failsWithAny : Bool) (statuses : List Nat) : Nat :=
  let last := statuses.getLastD 0
  if failsWithAny then (statuses.reverse.find? (· ≠ 0)).getD 0 else last

def pipeline (cs : List Command) : Run Unit := do
  match cs with
  | [] => setStatus 0
  | [c] => run c
  | cs =>
    let statuses ← stages run none cs
    let status := pipelineStatus (← isOn "pipefail") statuses
    modifyProcess fun p => { p with status, pipeStatus := statuses }
    checkFailure run

/-- Tells how long something has taken, in one of two forms. -/
def timed (timing : Timing) (r : Run Unit) : Run Unit := do
  let start := (← world).clock
  let tells : Run Unit := do
    let given ← match timing with
      | .full => do
        match ← binding? "TIMEFORMAT" with
        | some v => pure v.plain?
        | none => pure (some Elapsed.usualFormat)
      | _ => pure (some Elapsed.shortFormat)
    match given with
    | some (c :: format) =>
      match Elapsed.text ((← world).clock - start) (c :: format) with
      | .ok t => let _ ← write 2 (t ++ "\n")
      | .error t => complain ("TIMEFORMAT: \x60" ++ t ++ "': invalid format character")
    | _ => pure ()
  if timing = .untimed then r
  else
    match ← caught r with
    | .ok () => tells
    | .error (.leave n) => throw (.leave n)
    | .error (.killed q s) => throw (.killed q s)
    | .error .exhausted => throw .exhausted
    | .error (.replaced e) => throw (.replaced e)
    | .error e => tells; throw e

def negated (cs : List Command) : Run Unit := do
  guarded (pipeline run cs)
  setStatus (if (← process).status = 0 then 1 else 0)

/-- Runs commands joined by conditions, in turn. Only the last of them counts as a failure. -/
def chain : Command → List (Bool × Command) → Run Unit
  | c, [] => run c
  | c, link :: rest => do
    guarded (run c)
    follow link rest
where
  follow : Bool × Command → List (Bool × Command) → Run Unit
    | (needsSuccess, d), rest => do
      let isDue : Bool := needsSuccess == ((← process).status == 0)
      match rest with
      | [] => if isDue then run d
      | link :: rest =>
        if isDue then guarded (run d)
        follow link rest

def items (is : List (Command × Separator)) : Run Unit := do
  for (c, s) in is do
    match s with
    | .background => background run c
    | _ => run c

/-! Loops -/

/-- What a turn of a loop asks for. -/
inductive Turn where
  | again
  | over

/-- Runs the body of a loop once. A jump that is meant for a loop further out goes on to it. -/
def turn (body : Run Unit) : Run Turn := do
  match ← caught body with
  | .ok () => return .again
  | .error (.nextTurn n) => if 1 < n then throw (.nextTurn (n - 1)) else return .again
  | .error (.stopLoop n) => if 1 < n then throw (.stopLoop (n - 1)) else return .over
  | .error e => throw e

/-- Runs a loop: inside it, jumps have a loop to go to. -/
def looping (r : Run Unit) : Run Unit := do
  let before := (← process).loops
  modifyProcess fun p => { p with loops := before + 1 }
  unlessEnding r (modifyProcess fun p => { p with loops := before })

def greatestTurns : Nat := 2000000

/-- Turns as long as a test holds. The status is that of the last run of the body. -/
def turns (test : Run Bool) (body : Run Unit) : Nat → (status : Nat) → Run Unit
  | 0, _ => throw .exhausted
  | n + 1, status => do
    match ← caught test with
    | .ok true =>
      match ← turn body with
      | .again => turns test body n (← process).status
      | .over => pure ()
    | .ok false => setStatus status
    | .error (.nextTurn k) => if 1 < k then throw (.nextTurn (k - 1)) else turns test body n (← process).status
    | .error (.stopLoop k) => if 1 < k then throw (.stopLoop (k - 1)) else pure ()
    | .error e => throw e

def loop (isUntil : Bool) (test body : Command) : Run Unit :=
  looping (turns (do
    guarded (run test)
    return isUntil != ((← process).status == 0)) (run body) greatestTurns 0)

/-- Goes on only if the variable of a loop has a name that a variable can have. -/
def withLoopName (name : Text) (r : Run Unit) : Run Unit := do
  if isName name then r
  else
    complain ("\x60" ++ name ++ "': not a valid identifier")
    setStatus 1

/-- Runs a body once for every text. `before` is done before each turn, and may leave it out. -/
def eachWord (name : Text) (before : Run Bool) (body : Run Unit) : List Text → Run Unit
  | [] => pure ()
  | t :: ts => do
    if !(← before) then eachWord name before body ts
    else if ← assign name none false t then
      match ← turn body with
      | .again => eachWord name before body ts
      | .over => pure ()
    else setStatus 1

def loopWords : Option (List Word) → Run (List Text)
  | some ws => fields run ws
  | none => do return (← process).positional

def forEach (line : Nat) (name : Text) (words : Option (List Word)) (body : Command) : Run Unit := do
  modifyProcess fun p => { p with line }
  let head (_ : Unit) (docs : HereDocuments) : Text := (Command.forEach line name words body).head docs
  let ts ← loopWords run words
  setStatus 0
  let before : Run Bool := do
    modifyProcess fun p => { p with line }
    trace run fun _ => head () []
    announced run head
  looping (eachWord name before (run body) ts)

/-- Shows the words of a selection. -/
def showChoices (ts : List Text) : Run Unit := do
  for (t, i) in ts.zipIdx do
    let _ ← write 2 (Text.ofNat (i + 1) ++ ") " ++ t ++ "\n")

/-- Lets the input choose words until it ends. -/
def choosing (name : Text) (ts : List Text) (body : Run Unit) : Nat → Run Unit
  | 0 => throw .exhausted
  | n + 1 => do
    let _ ← write 2 "#? "
    let status ← Builtin.read []
    if status ≠ 0 then
      let _ ← say "\n"
      setStatus 1
    else
      let reply ← text "REPLY"
      if reply.isEmpty then
        showChoices ts
        choosing name ts body n
      else
        let chosen := if isNumber reply && numberText reply ≠ 0 then ts.getD (numberText reply - 1) [] else []
        let _ ← assign name none false chosen
        match ← turn body with
        | .again => choosing name ts body n
        | .over => pure ()

def select (line : Nat) (name : Text) (words : Option (List Word)) (body : Command) : Run Unit := do
  modifyProcess fun p => { p with line }
  let head (_ : Unit) (docs : HereDocuments) : Text := (Command.select line name words body).head docs
  trace run fun _ => head () []
  if !(← announced run head) then return
  let ts ← loopWords run words
  setStatus 0
  if !ts.isEmpty then
    showChoices ts
    looping (choosing name ts (run body) greatestTurns)

/-- The value of an expression in a command; nothing if it has none. -/
def expressionValue (ps : List Part) : Run (Option Int) := do
  let t ← quotedText run ps
  trace run fun _ => "(( " ++ t ++ " ))"
  match ← calculated t with
  | .ok n => return some n
  | .error f =>
    tellFault f "(("
    return none

/-- The value of a part of the head of a loop, where nothing stands for one. -/
def headValue (source : Text) (ps : List Part) : Run (Option Int) := do
  if ← announced run fun _ _ => "((" ++ source ++ "))" then expressionValue run ps else return some 0

def countedTurns (test step : Run (Option Int)) (body : Run Unit) : Nat → (status : Nat) → Run Unit
  | 0, _ => throw .exhausted
  | n + 1, status => do
    match ← test with
    | none => setStatus 1
    | some 0 => setStatus status
    | some _ =>
      match ← turn body with
      | .over => pure ()
      | .again =>
        let status := (← process).status
        match ← step with
        | none => setStatus 1
        | some _ => countedTurns test step body n status

def forArithmetic (line : Nat) (source : List Text) (first test step : List Part) (body : Command) : Run Unit := do
  let value (i : Nat) (ps : List Part) : Run (Option Int) := do
    modifyProcess fun p => { p with line }
    headValue run (source.getD i []) ps
  match ← value 0 first with
  | none => setStatus 1
  | some _ => looping (countedTurns (value 1 test) (value 2 step) (run body) greatestTurns 0)

/-! Choices -/

def conditional (test yes : Command) (no : Option Command) : Run Unit := do
  guarded (run test)
  if (← process).status = 0 then run yes
  else match no with
    | some c => run c
    | none => setStatus 0

def matchesAny (subject : Text) : List Word → Run Bool
  | [] => return false
  | w :: ws => do
    let gs ← glyphsOf run w
    if ← patternMatches (← isExtended "extglob") subject gs then return true else matchesAny subject ws

/-- Runs the clauses of a choice from here on; `goesOn` lets the next one run without a match. -/
def clauses (subject : Text) : List Clause → (goesOn : Bool) → Run Unit
  | [], _ => pure ()
  | .mk patterns body ending :: rest, goesOn => do
    let isDue ← if goesOn then pure true else matchesAny run subject patterns
    if isDue then
      match body with
      | some c => run c
      | none => setStatus 0
      match ending with
      | .stop => pure ()
      | .fallThrough => clauses subject rest true
      | .testNext => clauses subject rest false
    else clauses subject rest false

def choice (line : Nat) (w : Word) (cs : List Clause) : Run Unit := do
  modifyProcess fun p => { p with line }
  trace run fun _ => "case " ++ w.source ++ " in"
  if !(← announced run fun _ docs => (Command.case line w cs).head docs) then return
  let subject ← oneText run w
  setStatus 0
  clauses run subject cs false

def conditionDepth : Nat := 1000

/-- Runs a test of `[[`. -/
def condition (line : Nat) (c : Condition) : Run Unit := do
  modifyProcess fun p => { p with line }
  if ← announced run fun _ docs => (Command.test line c).inlineText docs then
    withProcesses do
      setStatus (testStatus (← conditionHolds run conditionDepth false c))
      return false
    finish run

def arithmetic (line : Nat) (source : Text) (ps : List Part) : Run Unit := do
  modifyProcess fun p => { p with line }
  if !(← announced run fun _ _ => "((" ++ source ++ "))") then return
  setStatus (match ← expressionValue run ps with
    | some 0 => 1
    | some _ => 0
    | none => 1)
  finish run

/-! Definitions -/

def defineFunction (line : Nat) (name : Text) (body : Command) : Run Unit := do
  let p ← process
  let old := p.functions.get? name
  let isStrict := p.options.contains "posix"
  if name.all Symbol.isDigit || (isStrict && !isName name) then
    complain ("\x60" ++ name ++ "': not a valid identifier")
    if isStrict then throw (.exit 2)
    setStatus 1
  else if isStrict && specialNames.contains name then
    complain ("\x60" ++ name ++ "': is a special builtin")
    throw (.exit 2)
  else if old.any (·.isReadonly) then
    complain (name ++ ": readonly function")
    setStatus 1
  else
    let isExported := old.any (·.isExported) || p.options.contains "allexport"
    let f : Function := {
      body, documents := p.documents, source := (p.frames.head?.map (·.source)).getD "main", line
      isExported, isTraced := old.any (·.isTraced) }
    modifyProcess fun p => { p with
      functions := p.functions.set name f
      status := 0 }

/-- Runs a compound command with redirections of its own. -/
def redirectedCommand (c : Command) (rs : List Redirect) : Run Unit := do
  withProcesses do
    if !(← redirected run rs false (run c)) then checkFailure run
    return false

def step : Command → Run Unit
  | .simple line as arguments rs => simple run line as arguments rs
  | .pipeline isNegated timing cs => timed timing (if isNegated then negated run cs else pipeline run cs)
  | .chain c rest => chain run c rest
  | .list is => items run is
  | .redirected c rs => redirectedCommand run c rs
  | .group c => run c
  | .subshell c => do
    setStatus (← inSubshell run id (run c))
    finish run
  | .loop isUntil test body => loop run isUntil test body
  | .forEach line name words body => withProcesses do
    withLoopName name (forEach run line name words body)
    return false
  | .select line name words body => withLoopName name (select run line name words body)
  | .forArithmetic line source first test step body => forArithmetic run line source first test step body
  | .conditional test yes no => conditional run test yes no
  | .case line w cs => choice run line w cs
  | .arithmetic line source ps => arithmetic run line source ps
  | .test line c => condition run line c
  | .function line name body => defineFunction line name body
  | .coprocess name c => coprocess run name c

end

/-- Runs a command that has commands inside one another as deep as the number allows. -/
def execute : Nat → Command → Run Unit
  | 0, _ => throw .exhausted
  | n + 1, c => do
    if ← isOn "noexec" then pure ()
    else
      runDue (execute n)
      step (execute n) c
      runDue (execute n)

end Tangle.Shell.Run
