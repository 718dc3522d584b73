import Tangle.Host.Shell.Redirection
import Tangle.Host.Shell.Initial
import Tangle.Host.Shell.Program.Installed

/-! # Functions, sourced files and new shells

The ways in which code of its own is run: a function in the same shell, a file or text in the same shell,
and a shell that starts anew with the environment alone. -/
namespace Tangle.Shell.Run

/-- A file is taken for data rather than code if its first line holds a null character. -/
def isBinary (bs : Bytes) : Bool := ((bs.take 80).takeWhile (· ≠ 10)).contains 0

/-- The code in a file. -/
def codeText (bs : Bytes) : Text := Text.decode (bs.filter (· ≠ 0))

/-- The text of a file that is given by a path. -/
def codeAt (path : Text) : Run (Except FileError Bytes) := do
  match ← openInput path with
  | .error e => return .error e
  | .ok i => return .ok (← drain i)

section
variable (run : Command → Run Unit)

/-- What messages call the action for an occasion. -/
def occasionWord (occasion : Text) : Text := if occasion = ("ERR" : Text) then "error" else occasion.map Symbol.toLower

/-- Runs the action set for an occasion, unless it is being run already, and gives its status. -/
def fire (occasion : Text) : Run Nat := do
  let p ← process
  match p.traps.get? occasion with
  | some action =>
    if action.isEmpty || p.inTraps.any (·.1 = occasion) then return 0
    runTrap run occasion (occasionWord occasion ++ " trap") p.line action
  | none => return 0

/-- Runs the trap that comes before commands. When commands are being watched, a status other than zero
keeps the command from being run, and one of two ends a function or a file. -/
def fireBefore : Run Bool := do
  let status ← fire run "DEBUG"
  if status = 0 || !(← isExtended "extdebug") then return true
  let p ← process
  if status = 2 && (0 < p.sourced || 0 < p.calls) then throw (.leave 2)
  return false

/-- Makes a command the current one, which is given as a text, and tells whether it is to be run. -/
def announced (text : Unit → HereDocuments → Text) : Run Bool := do
  modifyProcess fun p =>
    if p.inTraps.isEmpty then
      let documents := p.documents
      { p with command := Thunk.mk fun _ => text () documents }
    else p
  fireBefore run

/-- What follows from the failure of a command that nobody looks at. -/
def checkFailure : Run Unit := do
  let p ← process
  if p.status ≠ 0 && !p.isGuarded then
    let _ ← fire run "ERR"
    if ← isOn "errexit" then throw (.exit p.status)

/-- Ends a command that stands for a pipeline of its own. -/
def finish : Run Unit := do
  modifyProcess fun p => { p with pipeStatus := [p.status] }
  checkFailure run

/-- Runs what may be left with a status. -/
def returning (r : Run Unit) : Run Unit := do
  match ← caught r with
  | .ok () => pure ()
  | .error (.leave n) => setStatus n
  | .error e => throw e

/-- The traps for occasions of commands that are not in force in a function or in a file. -/
def hiddenTraps (p : Process) (isTraced isFile : Bool) : List (Text × Text) :=
  let hides (occasion option : String) (isKept : Bool) : List (Text × Text) :=
    if isKept || p.options.contains (Text.ofString option) then []
    else ((p.traps.get? (Text.ofString occasion)).map fun action => (Text.ofString occasion, action)).toList
  hides "DEBUG" "functrace" isTraced ++ hides "RETURN" "functrace" (isTraced || isFile) ++
    hides "ERR" "errtrace" isFile

/-- Runs without some traps, which come into force again afterwards unless others have been set. -/
def withoutTraps (hidden : List (Text × Text)) (r : Run Unit) : Run Unit := do
  if hidden.isEmpty then r
  else
    modifyProcess fun p => { p with traps := hidden.foldl (fun t e => t.erase e.1) p.traps }
    unlessEnding r do
      modifyProcess fun p => { p with traps := hidden.foldl (fun t e => t.setDefault e.1 e.2) p.traps }

/-- Runs what may be left with a status, and then the trap for its end. -/
def thenFired (r : Run Unit) : Run Unit := do
  returning r
  let _ ← fire run "RETURN"

/-- The number of calls that may be inside one another. -/
def greatestCalls : Run (Option Nat) := do
  match (← binding? "FUNCNEST").bind Variable.plain? with
  | some t =>
    let n := t.foldl (fun n d => n * 10 + (Escape.digitValue d).getD 0) 0
    return if t.all Symbol.isDigit && 0 < n then some n else none
  | none => return none

def callFunction (name : Text) (f : Function) (args : List Text) : Run Unit := do
  let before ← process
  match ← greatestCalls with
  | some n =>
    if n ≤ before.calls then
      complain (name ++ ": maximum function nesting level exceeded (" ++ Text.ofNat n ++ ")")
      setStatus 1
      throw .discard
  | none => pure ()
  modifyProcess fun p => { p with
    calls := before.calls + 1
    positional := args
    frames := ⟨name, f.source, p.line⟩ :: p.frames
    source := f.source
    documents := f.documents
    line := f.line
    loops := 0 }
  unlessEnding (withoutTraps (hiddenTraps before f.isTraced false) (thenFired run do
      if ← fireBefore run then run f.body)) do
    modifyProcess fun p => { p with
      calls := before.calls
      scopes := p.scopes.dropWhile fun s => before.calls < s.level
      options := ((p.scopes.head?.filter fun s => before.calls < s.level).bind (·.options)).getD p.options
      positional := before.positional
      frames := before.frames
      source := before.source
      documents := before.documents
      line := before.line
      loops := before.loops }

/-- Whether a text holds no command at all. -/
def isVoid (t : Text) : Bool :=
  match Read.unit? (Source.ofText t) with
  | (.ok none, _) => true
  | _ => false

/-- Runs a text in this shell; one without commands succeeds. -/
def evaluate (origin : Text) (line : Nat) (isMain : Bool) (t : Text) : Run Unit := do
  if isVoid t then setStatus 0
  runTextFrom run origin line isMain t

/-- The path of a file to be sourced: without a slash it is looked for on the search path first. -/
def sourcePath (path : Text) : Run Text := do
  if path.any (·.is '/') then return path
  let isSearched ← isExtended "sourcepath"
  match ((← binding? "PATH").bind Variable.plain?).filter fun _ => isSearched with
  | none => return path
  | some ds =>
    let candidates := (Text.pieces (.char ':') ds).map fun d => (if d.isEmpty then ("." : Text) else d) ++ "/" ++ path
    let found ← candidates.filterM fun c => do
      match ← lookup c with
      | .ok (_, .file ..) => return true
      | _ => return false
    return found.headD path

/-- Runs a file in this shell for a command. -/
def sourceFile (command : Text) (args : List Text) : Run Unit := do
  let args := withoutMark args
  match args with
  | [] =>
    Builtin.tell command "filename argument required"
    setStatus (← Builtin.showUsage command)
  | name :: rest =>
    if name.any (·.is '/') && (← process).isRestricted then
      Builtin.tell command (name ++ ": restricted")
      setStatus 1
      return
    let isStrict ← isOn "posix"
    let path ← sourcePath name
    match ← if isStrict && !path.any (·.is '/') then pure (.error .notFound) else codeAt path with
    | .error e =>
      if isStrict && !path.any (·.is '/') then Builtin.tell command (name ++ ": file not found")
      else if e = .isDirectory then Builtin.tell command (name ++ ": is a directory")
      else complain (name ++ ": " ++ e.reason)
      setStatus 1
      if isStrict then throw (.exit 1)
    | .ok bs =>
      if isBinary bs then
        complain (name ++ ": cannot execute binary file")
        setStatus 126
      else
        let before ← process
        modifyProcess fun p => { p with
          sourced := p.sourced + 1
          frames := ⟨"source", path, p.line⟩ :: p.frames
          source := path
          positional := if rest.isEmpty then p.positional else rest }
        unlessEnding (withoutTraps (hiddenTraps before false true) do
            unlessEnding (returning (evaluate run [] 1 false (codeText bs))) do
              modifyProcess fun p => { p with
                sourced := before.sourced
                frames := before.frames
                source := before.source
                line := before.line
                positional := if rest.isEmpty then p.positional else before.positional }
            let _ ← fire run "RETURN") (pure ())

/-! New shells -/

/-- Runs in a process that takes the place of a copy of this one, and waits for its end. -/
def inProcess (prepare : Nat → Process → Process) (body : Run Ending) : Run Ending := do
  let identity ← newProcess
  let result ← isolated do
    modifyProcess (prepare identity)
    yield
    match ← caught body with
    | .ok e => return e
    | .error (.killed q s) => if q = identity then return .signal s else throw (.killed q s)
    | .error e => throw e
  match result with
  | .ok e => return e
  | .error e => throw e

/-- Runs in a process of a new shell, from its start to its end. -/
def inNewShell (prepare : Process → Process) (body : Run Unit) : Run Ending := do
  let environment ← environment
  let here := inheritedPath environment (← tree) (← process).directory
  let now : Int := (← world).clock
  inProcess (fun identity p => prepare { Process.fresh environment here identity p with started := now, secondsFrom := now }) do
    conclude run (← caught body)

/-- Runs an installed program, whose traps are those for signals that it ignores. -/
def inProgram (body : Run Nat) : Run Ending :=
  inProcess (fun identity p => { p with
    identity, due := [], traps := p.traps.filter (·.2.isEmpty) }) do
    tick 1000
    match ← caught body with
    | .ok n => return .status n
    | .error (.exit n) => return .status n
    | .error e => throw e

/-- Runs code in a new shell. Code from a file is at the bottom of the calls. -/
def runScript (name : Text) (args : List Text) (isFile : Bool) (origin : Option Text) (adapt : Process → Process) (t : Text) :
    Run Ending :=
  inNewShell run (fun p => adapt { p with
    scriptName := name, source := name, positional := args
    frames := if isFile then [⟨"main", name, 0⟩] else [] })
    (match origin with
    | some origin => throwing (evaluate run origin 1 false t)
    | none => evaluate run [] 1 true t)
where
  /-- A text that is given as an argument is left under a status of its own over an error. -/
  throwing (r : Run Unit) : Run Unit := do
    match ← caught r with
    | .ok () => pure ()
    | .error (.fatal _) => throw (.exit 127)
    | .error e => throw e

/-- What the arguments of a shell ask for. -/
structure ShellCall where
  isString : Bool := false
  readsInput : Bool := false
  options : List (Text × Bool) := []
  extended : List (Text × Bool) := []
  operands : List Text := []

def shellLetters (isOn : Bool) (c : ShellCall) : Text → ShellCall
  | [] => c
  | s :: t =>
    let c := match s with
      | .char 'c' => { c with isString := true }
      | .char 's' => { c with readsInput := true }
      | .char l => match Options.ofLetter? l with
        | some n => { c with options := c.options ++ [(n, isOn)] }
        | none => c
      | _ => c
    shellLetters isOn c t

def shellCall : List Text → ShellCall → ShellCall
  | [], c => c
  | (.char '-' :: .char '-' :: t) :: rest, c => if t.isEmpty then { c with operands := rest } else shellCall rest c
  | [.char '-'] :: rest, c => { c with operands := rest }
  | (.char sign :: s :: t) :: rest, c =>
    if sign = '-' || sign = '+' then
      let isOn : Bool := sign == '-'
      if (s :: t).any (·.is 'o') || (s :: t).any (·.is 'O') then
        match rest with
        | name :: rest =>
          let c := shellLetters isOn c (s :: t)
          if (s :: t).any (·.is 'O') then shellCall rest { c with extended := c.extended ++ [(name, isOn)] }
          else shellCall rest { c with options := c.options ++ [(name, isOn)] }
        | [] => c
      else shellCall rest (shellLetters isOn c (s :: t))
    else { c with operands := (.char sign :: s :: t) :: rest }
  | operands, c => { c with operands }

def switched (on : List Text) (changes : List (Text × Bool)) : List Text :=
  changes.foldl (fun ts (n, isOn) => if isOn then n :: ts.filter (· ≠ n) else ts.filter (· ≠ n)) on

def ShellCall.adapt (c : ShellCall) (p : Process) : Process := { p with
  options := switched p.options c.options
  extended := switched p.extended c.extended }

/-- Runs the shell as a program, and gives how it ended. -/
def shellProgram (name : Text) (args : List Text) : Run Ending := do
  let c := shellCall args {}
  if c.isString then
    match c.operands with
    | [] =>
      Program.report name "-c: option requires an argument"
      return .status 2
    | code :: rest => runScript run (rest.headD name) (rest.drop 1) false (some "-c") c.adapt code
  else
    match c.operands with
    | path :: rest =>
      if c.readsInput then
        let bs ← readAll 0
        runScript run name c.operands false none c.adapt (codeText bs)
      else
        match ← codeAt path with
        | .error e =>
          Program.report name (path ++ ": " ++ e.reason)
          return .status (if e = .notFound then 127 else 126)
        | .ok bs =>
          if isBinary bs then return .status 126 else runScript run path rest true none c.adapt (codeText bs)
    | [] =>
      let bs ← readAll 0
      runScript run name [] false none c.adapt (codeText bs)

/-! Programs -/

def isShellName (name : Text) : Bool := name = ("bash" : Text) || name = ("sh" : Text)

/-- The program and its arguments in the first line of a file. -/
def interpreter? (bs : Bytes) : Option (List Text) :=
  match bs with
  | 0x23 :: 0x21 :: rest =>
    let line := (Text.decode (rest.takeWhile (· ≠ 10))).dropWhile isSpace
    let path := line.takeWhile (!isSpace ·)
    let argument := Text.trimBy isSpace (line.drop path.length)
    some (path :: if argument.isEmpty then [] else [argument])
  | _ => none

/-- Starts a program by name, with as many programs that start others as the number allows. -/
def startProgram : Nat → List Text → Run Ending
  | 0, _ => throw .exhausted
  | _, [] => return .status 0
  | n + 1, name :: args => do
    match ← executable? name with
    | none =>
      complain (name ++ (if name.any (·.is '/') then ": No such file or directory" else ": command not found"))
      return .status 127
    | some (_, .unusable path) =>
      let isDirectory := ((← lookup path).toOption).any (·.2.isDirectory)
      complain (name ++ (if isDirectory then ": Is a directory" else ": Permission denied"))
      return .status 126
    | some (_, .installed p) =>
      if isShellName p then shellProgram run name args
      else inProgram (Program.installed {
        run := startProgram n
        beside := fun words => fork run id do throw (.replaced (← startProgram n words)) } p args)
    | some (path, .file _ bs) =>
      match interpreter? bs with
      | none =>
        if isBinary bs then
          complain (name ++ ": cannot execute binary file: Exec format error")
          return .status 126
        else runScript run path args true none id (codeText bs)
      | some command =>
        if (← executable? (command.headD [])).isSome then startProgram n (command ++ path :: args)
        else
          complain (name ++ ": " ++ command.headD [] ++ ": bad interpreter: No such file or directory")
          return .status 126

def greatestChain : Nat := 40

/-- Starts a program, and gives how it has ended. -/
def launchProgram (words : List Text) : Run Ending := startProgram run greatestChain words

def start (words : List Text) : Run Nat := do return (← launchProgram run words).code

end

end Tangle.Shell.Run
