import Tangle.Host.Shell.Program.Clock
import Tangle.Host.Shell.Builtin.Signal

/-! # Programs that start others

A program that starts another looks it up on the search path, and may change what it is started with: its
variables, its directory, its arguments, or how long it may run. -/
namespace Tangle.Shell.Program
open Run

/-- The ways in which another program is started. -/
structure Starter where
  /-- Runs a program to its end. -/
  run : List Text → Run Ending
  /-- Starts a program beside this one, and gives its identity. -/
  beside : List Text → Run Nat

/-- Ends the program if another one cannot be started. -/
def needProgram (program : Text) (failure : Text → Text) (name : Text) : Run Unit := do
  match ← executable? name with
  | none => die program 127 (failure name ++ ": " ++ FileError.notFound.reason)
  | some (_, .unusable path) =>
    match ← lookup path with
    | .error e => die program (if e = .notFound then 127 else 126) (failure name ++ ": " ++ e.reason)
    | .ok _ => die program 126 (failure name ++ ": " ++ FileError.notPermitted.reason)
  | some _ => pure ()

def failedToRun (name : Text) : Text := "failed to run command " ++ curved name

/-- Goes on as another program. -/
def become (starter : Starter) (program : Text) (failure : Text → Text) (words : List Text) : Run Nat := do
  needProgram program failure (words.headD [])
  return (← starter.run words).code

/-! Variables -/

/-- A process that passes on only some of its variables. -/
def hidingVariables (isHidden : Text → Bool) (p : Process) : Process :=
  let hide (t : Table Variable) : Table Variable :=
    t.map fun name v => if isHidden name then { v with isExported := false } else v
  let drop (t : Table Variable) : Table Variable := t.filter fun e => !(isHidden e.1 && e.2.isExported)
  { p with scopes := p.scopes.map fun s => { s with table := drop s.table }, globals := hide (drop p.globals) }

/-- The words of a text that is split as a line of arguments is: at blanks that are not quoted. -/
def splitWords : Nat → (text word : Text) → (isOpen : Bool) → List Text
  | 0, _, _, _ => []
  | _, [], word, isOpen => if isOpen then [word.reverse] else []
  | n + 1, s :: t, word, isOpen =>
    if s.isAnyOf " \t\n\x0b\x0c\r" then
      if isOpen then word.reverse :: splitWords n t [] false else splitWords n t [] false
    else if s.is '\'' || s.is '"' then
      let inner := t.takeWhile (· ≠ s)
      splitWords n (t.drop (inner.length + 1)) (inner.reverse ++ word) true
    else if s.is '\\' then
      match t with
      | .char '_' :: t => splitWords n t (.char ' ' :: word) true
      | .char 'n' :: t => splitWords n t (.char '\n' :: word) true
      | .char 't' :: t => splitWords n t (.char '\t' :: word) true
      | c :: t => splitWords n t (c :: word) true
      | [] => splitWords n [] word isOpen
    else if s.is '#' && !isOpen then []
    else splitWords n t (s :: word) true

/-- Arguments in which a text to be split is replaced by its words. -/
def withSplitWords : List Text → List Text
  | [] => []
  | a :: rest =>
    let expand (t : Text) (rest : List Text) : List Text := splitWords (t.length + 1) t [] false ++ rest
    match a with
    | .char '-' :: .char 'S' :: t =>
      if t.isEmpty then
        match rest with
        | t :: rest => expand t rest
        | [] => a :: rest
      else expand t rest
    | .char '-' :: .char 'v' :: .char 'S' :: t => expand t rest
    | _ =>
      match Text.after? a "--split-string=" with
      | some t => expand t rest
      | none => a :: rest

def env (starter : Starter) (args : List Text) : Run Nat := do
  let fs : List Flag := [
    { key := 'i', name := "ignore-environment" }, { key := '0', name := "null" },
    { key := 'u', name := "unset", need := .required }, { key := 'C', name := "chdir", need := .required },
    { key := 'S', name := "split-string", need := .required }, { key := 'v', name := "debug" },
    { key := '\x02', name := "block-signal", need := .optional, isLetter := false },
    { key := '\x03', name := "default-signal", need := .optional, isLetter := false },
    { key := '\x04', name := "ignore-signal", need := .optional, isLetter := false }]
  withFlagsFirst "env" 125 fs (withSplitWords args) fun cs operands => do
    let clears := hasOption 'i' cs || operands.head? = some "-"
    let operands := if operands.head? = some "-" then operands.drop 1 else operands
    let unset := optionValues 'u' cs
    for n in unset do
      if n.isEmpty || n.any (·.is '=') then
        die "env" 125 ("cannot unset " ++ curved n ++ ": Invalid argument")
    modifyProcess (hidingVariables fun n => clears || unset.contains n)
    if clears then modifyProcess fun p => { p with functions := {} }
    let sets := operands.takeWhile fun t => t.any (·.is '=')
    for t in sets do
      let name := t.takeWhile (!·.is '=')
      putVariable name { value := .text (t.drop (name.length + 1)), isExported := true }
    let command := operands.drop sets.length
    if command.isEmpty then
      if hasOption 'C' cs then misuse "env" 125 "must specify command with --chdir (-C)"
      let mark : Text := if hasOption '0' cs then [Symbol.nul] else "\n"
      put "env" ((← wholeEnvironment).flatMap fun e => e.1 ++ "=" ++ e.2 ++ mark)
      return 0
    if hasOption '0' cs then misuse "env" 125 "cannot specify --null (-0) with command"
    match optionValue? 'C' cs with
    | none => pure ()
    | some d =>
      match ← lookup d with
      | .ok (place, .directory _) => modifyProcess fun p => { p with directory := place }
      | .ok _ => die "env" 125 ("cannot change directory to " ++ quoted d ++ ": " ++ FileError.notDirectory.reason)
      | .error e => die "env" 125 ("cannot change directory to " ++ quoted d ++ ": " ++ e.reason)
    become starter "env" curved command

/-! Circumstances -/

def nice (starter : Starter) (args : List Text) : Run Nat := do
  let args := match args with
    | (.char '-' :: s :: t) :: rest =>
      if s.isDigit || (s.is '-' && t.head?.any Symbol.isDigit) then ("-n" : Text) :: (s :: t) :: rest else args
    | _ => args
  withFlagsFirst "nice" 125 [{ key := 'n', name := "adjustment", need := .required }] args fun cs command => do
    match optionValue? 'n' cs with
    | some t => if (integerOf? t).isNone then die "nice" 125 ("invalid adjustment " ++ curved t)
    | none => pure ()
    if command.isEmpty then
      if !cs.isEmpty then misuse "nice" 125 "a command must be given with an adjustment"
      put "nice" "0\n"
      return 0
    become starter "nice" curved command

def nohup (starter : Starter) (args : List Text) : Run Nat := withFlagsFirst "nohup" 125 [] args fun _ command => do
  needOperands "nohup" 1 none command 125
  modifyProcess fun p => { p with traps := p.traps.set "HUP" [] }
  become starter "nohup" failedToRun command

def stdbuf (starter : Starter) (args : List Text) : Run Nat := do
  let fs : List Flag := [
    { key := 'i', name := "input", need := .required }, { key := 'o', name := "output", need := .required },
    { key := 'e', name := "error", need := .required }]
  withFlagsFirst "stdbuf" 125 fs args fun cs command => do
    needOperands "stdbuf" 1 none command 125
    if cs.isEmpty then misuse "stdbuf" 125 "you must specify a buffering mode option"
    for c in cs do
      if c.2 ≠ ("L" : Text) && (sized? c.2).isNone then die "stdbuf" 125 ("invalid mode " ++ curved c.2)
      if c = ('i', ("L" : Text)) then misuse "stdbuf" 125 "line buffering stdin is meaningless"
    become starter "stdbuf" failedToRun command

def setsid (starter : Starter) (args : List Text) : Run Nat := do
  let fs : List Flag := [{ key := 'c', name := "ctty" }, { key := 'f', name := "fork" }, { key := 'w', name := "wait" }]
  withFlagsFirst "setsid" 1 fs args fun cs command => do
    if command.isEmpty then misuse "setsid" 1 "no command specified"
    needProgram "setsid" (fun name => "failed to execute " ++ name) (command.headD [])
    if hasOption 'f' cs && !hasOption 'w' cs then
      let _ ← starter.beside command
      return 0
    return (← starter.run command).code

/-! Limits of time -/

/-- Sends a signal to a process of its own, and to none that has ended. -/
def strike (identity signal : Nat) : Run Unit := modifyWorld fun w =>
  if w.hasEnded identity then w else { w with signals := w.signals ++ [(identity, signal)] }

/-- Waits for a process until a span is over; whether it has ended. -/
def endsWithin (identity : Nat) (span : Option Nat) : Run Bool := do
  let _ ← await (fun w => w.hasEnded identity) (← endOfSpan span) false
  return (← world).hasEnded identity

/-- The number of a signal that is given by its name or number. -/
def signalOf (program : Text) (status : Nat) (t : Text) : Run Nat := do
  match Builtin.occasion? t with
  | some (_, n) => if n < 65 then return n else misuse program status (curved t ++ ": invalid signal")
  | none => misuse program status (curved t ++ ": invalid signal")

/-- A span that is none if it is zero. -/
def limitOf (t : Text) : Run (Option Nat) := do
  match spanOf? t with
  | some span => return span.filter (0 < ·)
  | none => misuse "timeout" 125 ("invalid time interval " ++ curved t)

def timeout (starter : Starter) (args : List Text) : Run Nat := do
  let fs : List Flag := [
    { key := 'k', name := "kill-after", need := .required }, { key := 's', name := "signal", need := .required },
    { key := 'v', name := "verbose" }, { key := 'p', name := "preserve-status", isLetter := false },
    { key := 'f', name := "foreground", isLetter := false }]
  withFlagsFirst "timeout" 125 fs args fun cs operands => do
    let patience ← match optionValue? 'k' cs with
      | some t => limitOf t
      | none => pure none
    let signal ← match optionValue? 's' cs with
      | some t => signalOf "timeout" 125 t
      | none => pure 15
    match operands with
    | span :: name :: rest =>
      let limit ← limitOf span
      needProgram "timeout" failedToRun name
      let child ← starter.beside (name :: rest)
      let tell (signal : Nat) : Run Unit := do
        if hasOption 'v' cs then
          report "timeout" ("sending signal " ++ nameOfSignal signal ++ " to command " ++ curved name)
      if !(← endsWithin child limit) then
        tell signal
        strike child signal
        if patience.isSome then
          if !(← endsWithin child patience) then
            tell 9
            strike child 9
            let _ ← endsWithin child none
            return 137
        let _ ← endsWithin child none
        match (← world).endings.lookup child with
        | some (.signal 9) => return 137
        | some e => return if hasOption 'p' cs then e.code else 124
        | none => return 124
      return (((← world).endings.lookup child).map Ending.code).getD 125
    | _ =>
      let _ ← write 2 "Try 'timeout --help' for more information.\n"
      quit 125

/-! Arguments from the input -/

/-- What the items of an input are separated by. -/
inductive Separation where
  | blanks
  | lines
  | symbol (s : Symbol)

/-- The items of an input, and the mark of a quotation that has no end. -/
def inputItems (isByLine : Bool) : Nat → (rest item : Text) → (isOpen : Bool) → List Text × Option Symbol
  | 0, _, _, _ => ([], none)
  | _, [], item, isOpen => (if isOpen then [item.reverse] else [], none)
  | n + 1, s :: t, item, isOpen =>
    if s = Symbol.newline || (s.isAnyOf " \t" && (!isOpen || !isByLine)) then
      let (items, fault) := inputItems isByLine n t [] false
      (if isOpen then item.reverse :: items else items, fault)
    else if s.is '\\' then
      match t with
      | c :: t => inputItems isByLine n t (c :: item) true
      | [] => inputItems isByLine n [] item isOpen
    else if s.is '\'' || s.is '"' then
      let inner := t.takeWhile fun c => c ≠ s && c ≠ Symbol.newline
      match t.drop inner.length with
      | c :: t => if c = s then inputItems isByLine n t (inner.reverse ++ item) true else ([], some s)
      | [] => ([], some s)
    else inputItems isByLine n t (s :: item) true

/-- The lines of an input that hold something; one with a blank at its end goes on. -/
def inputLines : List Text → List Text
  | [] => []
  | l :: rest =>
    if l.all (·.isAnyOf " \t") then inputLines rest
    else match inputLines rest with
      | next :: more => if l.getLast?.any (·.isAnyOf " \t") then (l ++ next) :: more else l :: next :: more
      | [] => [l]

/-- A text with every occurrence of a mark replaced. -/
def replacedMark (mark by_ : Text) : Nat → Text → Text
  | 0, t => t
  | _, [] => []
  | n + 1, s :: t =>
    match Text.after? (s :: t) mark with
    | some r => if mark.isEmpty then s :: t else by_ ++ replacedMark mark by_ n r
    | none => s :: replacedMark mark by_ n t

/-- A list cut into pieces of a length. -/
def chunks {α : Type} (size : Nat) : Nat → List α → List (List α)
  | 0, _ => []
  | n + 1, xs => if xs.isEmpty then [] else xs.take size :: chunks size n (xs.drop size)

/-- Runs commands one after another until one of them asks for an end. -/
def runBatches (starter : Starter) (isLoud : Bool) : List (List Text) → (status : Nat) → Run Nat
  | [], status => return status
  | words :: rest, status => do
    let name := words.headD []
    needProgram "xargs" (fun name => name) name
    if isLoud then let _ ← write 2 (Text.join " " words ++ "\n")
    match ← starter.run words with
    | .signal n => die "xargs" 125 (name ++ ": terminated by signal " ++ Text.ofNat n)
    | .status 255 => die "xargs" 124 (name ++ ": exited with status 255; aborting")
    | .status n => runBatches starter isLoud rest (if n = 0 then status else 123)

def xargs (starter : Starter) (args : List Text) : Run Nat := do
  let fs : List Flag := [
    { key := '0', name := "null" }, { key := 'a', name := "arg-file", need := .required },
    { key := 'd', name := "delimiter", need := .required }, { key := 'E', need := .required },
    { key := 'e', name := "eof", need := .optional }, { key := 'I', need := .required },
    { key := 'i', name := "replace", need := .optional }, { key := 'L', name := "max-lines", need := .required },
    { key := 'l', need := .optional }, { key := 'n', name := "max-args", need := .required },
    { key := 'P', name := "max-procs", need := .required }, { key := 'p', name := "interactive" },
    { key := 'o', name := "open-tty" }, { key := 'r', name := "no-run-if-empty" },
    { key := 's', name := "max-chars", need := .required }, { key := 't', name := "verbose" },
    { key := 'x', name := "exit" }, { key := '\x02', name := "process-slot-var", need := .required, isLetter := false }]
  withFlagsFirst "xargs" 1 fs args fun cs command => do
    let command := if command.isEmpty then [("echo" : Text)] else command
    for c in cs do
      if "nLPs".contains c.1 && (natural? c.2).isNone then
        misuse "xargs" 1 ("invalid number \"" ++ c.2 ++ "\" for -" ++ ([.char c.1] : Text) ++ " option")
      if "nLs".contains c.1 && natural? c.2 = some 0 then
        misuse "xargs" 1 ("value " ++ c.2 ++ " for -" ++ ([.char c.1] : Text) ++ " option should be >= 1")
    match ← contentOf? "xargs" ((optionValue? 'a' cs).getD "-") with
    | none => return 1
    | some bs =>
      let t := Text.decode bs
      let shape := lastOf "nLlIi" cs
      let mark : Option Text := match shape with
        | some 'I' => optionValue? 'I' cs
        | some 'i' => some (let m := (optionValue? 'i' cs).getD []; if m.isEmpty then "\x7b\x7d" else m)
        | _ => none
      let isByLines := shape = some 'L' || shape = some 'l'
      let separation : Separation := match cs.reverse.find? fun c => "0d".contains c.1 with
        | some ('d', d) => .symbol (((Escape.run .format d).1.head?).getD Symbol.nul)
        | some _ => .symbol Symbol.nul
        | none => if isByLines then .lines else .blanks
      let (items, fault) : List Text × Option Symbol := match separation with
        | .symbol s =>
          let ps := Text.pieces s t
          (if ps.getLast? = some [] then ps.dropLast else ps, none)
        | .lines => (inputLines (linesIn false bs), none)
        | .blanks => inputItems mark.isSome (t.length + 1) t [] false
      let items := match cs.reverse.find? fun c => "Ee".contains c.1 with
        | some (_, e) => if e.isEmpty then items else items.takeWhile (· ≠ e)
        | none => items
      let words (item : Text) : List Text := match separation with
        | .lines => (inputItems false (item.length + 1) item [] false).1
        | _ => [item]
      let size := match shape with
        | some 'n' => ((optionValue? 'n' cs).map naturalOf).getD 0
        | some 'L' => ((optionValue? 'L' cs).map naturalOf).getD 0
        | some 'l' => max 1 (naturalOf ((optionValue? 'l' cs).getD []))
        | _ => 0
      let batches : List (List Text) := match mark with
        | some m => items.map fun i => command.map fun w => replacedMark m i (w.length + 1) w
        | none =>
          let groups := if size = 0 then (if items.isEmpty then [] else [items]) else chunks size (items.length + 1) items
          let groups := if groups.isEmpty && !hasOption 'r' cs then [[]] else groups
          groups.map fun g => command ++ g.flatMap words
      let batches := if fault.isSome then (if size = 0 && mark.isNone then [] else
          batches.filter fun b => mark.isSome || b.length = command.length + size) else batches
      if !hasOption 'a' cs then setDescriptor 0 (← newStream .nothing)
      let status ← runBatches starter (hasOption 't' cs || hasOption 'p' cs) batches 0
      match fault with
      | some s => die "xargs" 1 ("unmatched " ++ (if s.is '"' then ("double" : Text) else "single") ++
          " quote; by default quotes are special to xargs unless you use the -0 option")
      | none => return status

end Tangle.Shell.Program
