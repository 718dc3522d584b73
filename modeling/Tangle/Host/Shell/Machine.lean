import Tangle.Host.Shell.Task

/-! # The machine of a shell

What a process can do: read and write its streams, look up and set its variables, find and open files,
and start and await other processes. -/
namespace Tangle.Shell

namespace Run

def process : Run Process := do return (← get).process
def world : Run World := do return (← get).world

def modifyProcess (f : Process → Process) : Run Unit := modify fun m => { m with process := f m.process }
def modifyWorld (f : World → World) : Run Unit := modify fun m => { m with world := f m.world }

def isOn (name : Text) : Run Bool := do return (← process).options.contains name
def isExtended (name : Text) : Run Bool := do return (← process).extended.contains name

/-- Runs one thing and then, however it ended, another. -/
def ensuring {α : Type} (r : Run α) (after : Run Unit) : Run α := do
  let result ← caught r
  after
  match result with
  | .ok a => return a
  | .error e => throw e

/-- Runs one thing and then another, but leaves all as it is when the shell ends. -/
def unlessEnding {α : Type} (r : Run α) (after : Run Unit) : Run α := do
  match ← caught r with
  | .ok a => after; return a
  | .error (.exit n) => throw (.exit n)
  | .error (.fatal n) => throw (.fatal n)
  | .error e => after; throw e

/-! Time and other processes -/

def newProcess : Run Nat := do
  let n := (← world).processes + 1
  modifyWorld fun w => { w with processes := n }
  return n

/-- The microseconds that a process may run while others are kept waiting. -/
def greatestTurn : Nat := 5000

def publish : Run Unit := do
  let p ← process
  modifyWorld fun w => w.hold p.task p.held

/-- Whether other processes run beside this one. -/
def isAlone : Run Bool := do return (← world).holders.length ≤ 1

/-- Lets the others go on first. -/
def yield : Run Unit := do
  if !(← isAlone) then
    publish
    pause ⟨fun _ => true, none⟩

/-- Lets time pass, and others go on when this process has had its turn. -/
def tick (microseconds : Nat) : Run Unit := do
  modifyWorld fun w => { w with clock := w.clock + microseconds }
  let w ← world
  if greatestTurn < w.clock - w.turn then yield

/-- What a signal does to a process that sets no trap for it. -/
inductive Disposition where
  | ignored
  | fatal
deriving DecidableEq, Repr

/-- The signals that do nothing unless they are trapped. -/
def harmless : List Nat := [0, 17, 18, 19, 20, 21, 22, 23, 28]

def signals : List (String × Nat) := [
  ("HUP", 1), ("INT", 2), ("QUIT", 3), ("ILL", 4), ("TRAP", 5), ("ABRT", 6), ("BUS", 7), ("FPE", 8),
  ("KILL", 9), ("USR1", 10), ("SEGV", 11), ("USR2", 12), ("PIPE", 13), ("ALRM", 14), ("TERM", 15),
  ("STKFLT", 16), ("CHLD", 17), ("CONT", 18), ("STOP", 19), ("TSTP", 20), ("TTIN", 21), ("TTOU", 22),
  ("URG", 23), ("XCPU", 24), ("XFSZ", 25), ("VTALRM", 26), ("PROF", 27), ("WINCH", 28), ("IO", 29),
  ("PWR", 30), ("SYS", 31), ("RTMIN", 34), ("RTMIN+1", 35), ("RTMIN+2", 36), ("RTMIN+3", 37),
  ("RTMIN+4", 38), ("RTMIN+5", 39), ("RTMIN+6", 40), ("RTMIN+7", 41), ("RTMIN+8", 42), ("RTMIN+9", 43),
  ("RTMIN+10", 44), ("RTMIN+11", 45), ("RTMIN+12", 46), ("RTMIN+13", 47), ("RTMIN+14", 48),
  ("RTMIN+15", 49), ("RTMAX-14", 50), ("RTMAX-13", 51), ("RTMAX-12", 52), ("RTMAX-11", 53),
  ("RTMAX-10", 54), ("RTMAX-9", 55), ("RTMAX-8", 56), ("RTMAX-7", 57), ("RTMAX-6", 58), ("RTMAX-5", 59),
  ("RTMAX-4", 60), ("RTMAX-3", 61), ("RTMAX-2", 62), ("RTMAX-1", 63), ("RTMAX", 64)]

def nameOfSignal (n : Nat) : Text := ((signals.find? (·.2 = n)).map fun s => Text.ofString s.1).getD []

/-- Whether a shell with these traps is ended by a signal. -/
def isFatal (traps : Table Text) (signal : Nat) : Bool :=
  signal = 9 || (!harmless.contains signal && signal ≠ 3 && !traps.contains (nameOfSignal signal))

/-- Takes the signals that are on their way to this process, or to one that waits for it. A trap is
noted, to be run between two commands. -/
def receive : Run Unit := do
  let p ← process
  let w ← world
  if w.signals.isEmpty then return
  let mine := (w.signals.filter (·.1 = p.identity)).map (·.2)
  modifyWorld fun w => { w with signals := w.signals.filter (·.1 ≠ p.identity) }
  for s in mine do
    if isFatal p.traps s then throw (.killed p.identity s)
    match p.traps.get? (nameOfSignal s) with
    | some action => if !action.isEmpty then modifyProcess fun p => { p with due := p.due ++ [nameOfSignal s] }
    | none => pure ()
  for e in p.enclosing do
    for s in w.signals do
      if s.1 = e.identity && isFatal e.traps s.2 then
        modifyWorld fun w => { w with signals := w.signals.filter (· ≠ s) }
        throw (.killed s.1 s.2)

/-- Whether a signal is on its way that would not leave this process alone. -/
def isStruck (p : Process) (w : World) : Bool :=
  w.signals.any fun s => (s.1 = p.identity && !harmless.contains s.2) ||
    p.enclosing.any fun e => s.1 = e.identity && isFatal e.traps s.2

/-- Waits until something has happened in the world, or until a moment. A signal cuts it short if it ends
the process; whether it was cut short by one that is trapped. -/
def await (isOver : World → Bool) (until? : Option Nat) (isCutShort : Bool) : Run Bool := do
  receive
  let p ← process
  if isOver (← world) then return false
  if isCutShort && !p.due.isEmpty then return true
  publish
  let strikes (w : World) : Bool := w.signals.any fun s =>
    (s.1 = p.identity && (isFatal p.traps s.2 || (isCutShort && p.traps.contains (nameOfSignal s.2)))) ||
      p.enclosing.any fun e => s.1 = e.identity && isFatal e.traps s.2
  pause ⟨fun w => isOver w || strikes w, until?⟩
  receive
  return isCutShort && !(← process).due.isEmpty

def awaitOnly (isOver : World → Bool) : Run Unit := do let _ ← await isOver none false

/-- Runs in a copy of the process, which waits for it; only what happens to the world stays. -/
def isolated {α : Type} (r : Run α) : Run (Except Control α) := do
  let before ← process
  modifyProcess fun p => { p with
    aside := p.held
    enclosing := ⟨p.identity, p.traps⟩ :: p.enclosing }
  let result ← caught r
  modifyProcess fun _ => before
  return result

/-! Streams -/

def newStream (s : Stream) : Run Nat := do
  let w ← world
  modifyWorld fun w => { w with streams := w.streams.push s }
  return w.streams.size

def stream (i : Nat) : Run Stream := do return ((← world).streams[i]?).getD .nothing

def setStream (i : Nat) (s : Stream) : Run Unit :=
  modifyWorld fun w => { w with streams := w.streams.setIfInBounds i s }

def descriptor? (fd : Nat) : Run (Option Nat) := do return (← process).descriptors.lookup fd

def setDescriptor (fd stream : Nat) : Run Unit := modifyProcess fun p =>
  { p with descriptors := (fd, stream) :: p.descriptors.filter (·.1 ≠ fd) }

def closeDescriptor (fd : Nat) : Run Unit := modifyProcess fun p =>
  { p with descriptors := p.descriptors.filter (·.1 ≠ fd) }

/-- The first number from `n` on that no descriptor has. -/
def freeDescriptor (n : Nat) : Run Nat := do
  let used := (← process).descriptors.map (·.1)
  return go used used.length n
where
  go (used : List Nat) : Nat → Nat → Nat
    | 0, n => n
    | k + 1, n => if used.contains n then go used k (n + 1) else n

/-- A file with bytes put at an offset. -/
def overlay (content : Bytes) (offset : Nat) (bs : Bytes) : Bytes :=
  let head := content.take offset
  head ++ List.replicate (offset - head.length) 0 ++ bs ++ content.drop (offset + bs.length)

/-- A write to a pipe that nobody reads. It ends the process, unless the signal for it is ignored. -/
def brokenPipe : Run Bool := do
  let p ← process
  match p.traps.get? "PIPE" with
  | none => throw (.killed p.identity 13)
  | some action =>
    if !action.isEmpty then modifyProcess fun p => { p with due := p.due ++ [Text.ofString "PIPE"] }
    return false

/-- Whether some process reads a pipe. -/
def isRead (pipe : Pipe) : Run Bool := do
  publish
  return (← world).hasReader pipe

/-- Writes to a pipe, and waits whenever it is full. -/
def writePipe (i : Nat) : Nat → Bytes → Run Bool
  | 0, _ => throw .exhausted
  | n + 1, bs => do
    match (← world).pipe? i with
    | none => return false
    | some pipe =>
      if !(← isRead pipe) then brokenPipe
      else if pipe.room = 0 then
        awaitOnly fun w => (w.pipe? i).all fun p => 0 < p.room || !w.hasReader p
        writePipe i n bs
      else
        let now := bs.take pipe.room
        modifyWorld fun w => w.setPipe i (pipe.put now)
        let rest := bs.drop pipe.room
        if rest.isEmpty then return true else writePipe i n rest

/-- The number of pieces in which a text is written to a pipe, or read from one. -/
def greatestPieces : Nat := 10000000

def writeBytes (fd : Nat) (bs : Bytes) : Run Bool := do
  if bs.isEmpty then return true
  match ← descriptor? fd with
  | none => return false
  | some i =>
    match ← stream i with
    | .nothing => return true
    | .input _ => return false
    | .source _ => return false
    | .sink pipe => writePipe pipe greatestPieces bs
    | .ends pipe => writePipe pipe greatestPieces bs
    | .device d => return d ≠ .full
    | .output written => setStream i (.output (bs :: written)); return true
    | .file place offset appends =>
      let tree := (← world).tree
      match tree.node? place with
      | some (.file content mode) =>
        let at_ := if appends then content.length else offset
        let content := if at_ = content.length then content ++ bs else overlay content at_ bs
        modifyWorld fun w => { w with tree := w.tree.put place (.file content mode) }.changed place
        setStream i (.file place (at_ + bs.length) appends)
        return true
      | _ => return true

def write (fd : Nat) (t : Text) : Run Bool := writeBytes fd t.encode

/-- Why a write has failed. -/
def writeFailure (fd : Nat) : Run Text := do
  match ← descriptor? fd with
  | none => return FileError.badDescriptor.reason
  | some i =>
    match ← stream i with
    | .device _ => return FileError.noSpace.reason
    | .sink _ => return "Broken pipe"
    | .ends _ => return "Broken pipe"
    | _ => return FileError.badDescriptor.reason

/-- Writes to the standard output; a failure is a status of 1. -/
def say (t : Text) : Run Nat := do return if ← write 1 t then 0 else 1

/-- Writes a message about something that failed. -/
def complain (t : Text) : Run Unit := do
  let p ← process
  let head := p.source ++ ": line " ++ Text.ofNat p.line ++ ": "
  let _ ← write 2 (head ++ t ++ "\n")

/-! Reading -/

/-- Makes a pipe, and gives the streams of its source and its sink. -/
def newPipe : Run (Nat × Nat) := do
  let w ← world
  let n := w.streams.size
  let i := w.pipes.size
  modifyWorld fun w => { w with
    streams := (w.streams.push (.source i)).push (.sink i)
    pipes := w.pipes.push { source := n, sink := n + 1 } }
  return (n, n + 1)

/-- Bytes that follow no rule. -/
def noise (n : Nat) : Run Bytes := do
  let (bs, last) := go n (← world).noise
  modifyWorld fun w => { w with noise := last }
  return bs
where
  go : Nat → Nat → Bytes × Nat
    | 0, x => ([], x)
    | n + 1, x =>
      let x := (x * 6364136223846793005 + 1442695040888963407) % 2 ^ 64
      let (bs, last) := go n x
      ((x / 2 ^ 33).toUInt8 :: bs, last)

def pipeContent (i : Nat) : Run Bytes := do
  match (← world).pipe? i with
  | some pipe =>
    if !pipe.back.isEmpty then modifyWorld fun w => w.setPipe i pipe.gathered
    return pipe.content
  | none => return []

/-- What can be read from a stream without waiting. -/
def contentOf (i : Nat) : Run Bytes := do
  match ← stream i with
  | .input rest => return rest
  | .source i => pipeContent i
  | .ends i => pipeContent i
  | .file place offset _ =>
    match (← world).tree.node? place with
    | some (.file content _) => return content.drop offset
    | _ => return []
  | .device .zero => return List.replicate 4096 0
  | .device .full => return List.replicate 4096 0
  | .device .random => noise 4096
  | _ => return []

/-- Waits until a stream holds something, or is at its end, or a moment has come. -/
def awaitInput (i : Nat) (until? : Option Nat) : Run Unit := do
  match (← stream i).pipe? with
  | some pipe =>
    match (← world).pipe? pipe with
    | some p =>
      if p.size = 0 then
        publish
        let _ ← await (fun w => (w.pipe? pipe).all fun p => 0 < p.size || !w.hasWriter p) until? false
    | none => pure ()
  | none => pure ()

/-- What a stream holds; nothing at its end only. -/
def chunkOf (i : Nat) : Run Bytes := do
  awaitInput i none
  contentOf i

def chunk (fd : Nat) : Run Bytes := do
  match ← descriptor? fd with
  | none => return []
  | some i => chunkOf i

def advanceStream (i n : Nat) : Run Unit := do
  match ← stream i with
  | .input rest => setStream i (.input (rest.drop n))
  | .file place offset appends => setStream i (.file place (offset + n) appends)
  | s =>
    match s.pipe? with
    | some pipe => modifyWorld fun w => ((w.pipe? pipe).map fun q => w.setPipe pipe (q.drop n)).getD w
    | none => pure ()

/-- Passes over bytes that have been read. -/
def advance (fd n : Nat) : Run Unit := do
  match ← descriptor? fd with
  | none => pure ()
  | some i => advanceStream i n

def isPipe (i : Nat) : Run Bool := do return (← stream i).pipe?.isSome

/-- Reads a stream to its end. -/
def drain (i : Nat) : Run Bytes := do
  if ← isPipe i then go i greatestPieces []
  else
    let bs ← contentOf i
    advanceStream i bs.length
    return bs
where
  go (i : Nat) : Nat → List Bytes → Run Bytes
    | 0, _ => throw .exhausted
    | n + 1, chunks => do
      let bs ← chunkOf i
      if bs.isEmpty then return chunks.reverse.flatten
      else
        advanceStream i bs.length
        go i n (bs :: chunks)

def readAll (fd : Nat) : Run Bytes := do
  match ← descriptor? fd with
  | none => return []
  | some i => drain i

/-- What was written to a stream. -/
def collected (i : Nat) : Run Bytes := do
  match ← stream i with
  | .output written => return written.reverse.flatten
  | _ => return []

/-! Variables -/

def findScope (name : Text) : List Scope → Option Variable
  | [] => none
  | s :: ss => (s.table.get? name).or (findScope name ss)

def binding? (name : Text) : Run (Option Variable) := do
  let p ← process
  return (findScope name (p.scopesOf name)).or (p.globals.get? name)

/-- The name and index that a reference leads to in the end. -/
def dereference : Nat → Text → Run Text
  | 0, name => return name
  | n + 1, name => do
    match ← binding? name with
    | some v =>
      if v.isReference then
        match v.value with
        | .text t => if t.isEmpty then return name else dereference n t
        | _ => return name
      else return name
    | none => return name

def resolved (name : Text) : Run Text := dereference 8 name

def putScope (name : Text) (v : Variable) : List Scope → Option (List Scope)
  | [] => none
  | s :: ss =>
    if s.table.contains name then some ({ s with table := s.table.set name v } :: ss)
    else (putScope name v ss).map (s :: ·)

/-- The option that is on as long as a variable is set. -/
def optionOf? (name : Text) : Option Text :=
  if name = ("IGNOREEOF" : Text) then some "ignoreeof"
  else if name = ("POSIXLY_CORRECT" : Text) then some "posix"
  else none

/-- A process in which an option is on or off. Some options of the other kind go with `posix`. -/
def switchedOption (isOn : Bool) (name : Text) (p : Process) : Process :=
  let isKnown := p.options.contains name
  let others := p.extended.filter (!Options.strict.contains ·)
  let p := if name ≠ ("posix" : Text) || isOn = isKnown then p
    else if isOn then
      { p with lenient := p.extended.filter Options.strict.contains, extended := Options.strict ++ others }
    else { p with extended := p.lenient ++ others }
  { p with options := if isOn then (if isKnown then p.options else name :: p.options)
      else p.options.filter (· ≠ name) }

/-- The commands of the shell that come before functions, and whose failures are those of the shell, where
the option `posix` is on. -/
def specialNames : List Text := [
  "break", ":", ".", "continue", "eval", "exec", "exit", "export", "readonly", "return", "set", "shift",
  "source", "times", "trap", "unset"]

/-- A process in which a variable has got a value, or none any more. -/
def noticed (name : Text) (value : Option Text) (p : Process) : Process :=
  match optionOf? name with
  | some o => switchedOption value.isSome o p
  | none =>
    if name = ("PATH" : Text) then { p with remembered := [] }
    else if name = ("BASH_COMPAT" : Text) then
      let asked : Option String := do
        let digits := (← value).filter (!·.is '.')
        let e ← Options.compatibilities.find? fun e => digits = (e.2 : Text)
        return e.1
      { p with extended := (asked.map Text.ofString).toList ++ p.extended.filter (!Options.isCompatibility ·) }
    else if name = ("GLOBIGNORE" : Text) then
      match value with
      | none => { p with extended := p.extended.filter (· ≠ "dotglob") }
      | some t =>
        if t.isEmpty || p.extended.contains "dotglob" then p
        else { p with extended := "dotglob" :: p.extended }
    else p

/-- Sets a variable where it is found, or globally. -/
def putVariable (name : Text) (v : Variable) : Run Unit := modifyProcess fun p =>
  noticed name v.plain? (match putScope name v (p.scopesOf name) with
    | some scopes => { p with scopes }
    | none => { p with globals := p.globals.set name v })

def putGlobal (name : Text) (v : Variable) : Run Unit := modifyProcess fun p =>
  { p with globals := p.globals.set name v }

/-- Changes the scope of a call, which is made if it is not there yet. -/
def inCall (level : Nat) (f : Scope → Scope) : List Scope → List Scope
  | [] => [f { isCall := true, level }]
  | s :: ss =>
    if s.level < level then f { isCall := true, level } :: s :: ss
    else if s.isCall then f s :: ss
    else s :: inCall level f ss

/-- Sets a variable of the innermost call. -/
def putLocal (name : Text) (v : Variable) : Run Unit := modifyProcess fun p =>
  { p.withLocalName name with
    scopes := inCall p.calls (fun s => { s with table := s.table.set name v }) p.scopes }

/-- The scope of the innermost call. -/
def callScope? (p : Process) : Option Scope :=
  (p.scopes.takeWhile fun s => p.calls ≤ s.level).find? (·.isCall)

def local? (name : Text) : Run (Option Variable) := do
  return (callScope? (← process)).bind (·.table.get? name)

/-- Removes a variable where it is found; a local one stays as unset in its call. Those of the calls further
out stay so only if the shell is told to. -/
def removeVariable (name : Text) : Run Unit := modifyProcess fun p =>
  let keeps := p.extended.contains "localvar_unset"
  noticed name none (match go keeps p.calls (p.scopesOf name) with
    | some scopes => { p with scopes }
    | none => { p with globals := p.globals.erase name })
where
  go (keeps : Bool) (level : Nat) : List Scope → Option (List Scope)
    | [] => none
    | s :: ss =>
      if s.table.contains name then
        let table := if s.isCall && (s.level = level || keeps) then s.table.set name {} else s.table.erase name
        some ({ s with table } :: ss)
      else (go keeps level ss).map (s :: ·)

def setText (name t : Text) : Run Unit := do
  let v := ((← binding? name).getD {}).setPlain t.normal
  putVariable name v

def text (name : Text) : Run Text := do return ((← binding? name).bind Variable.plain?).getD []

/-- All variables that can be seen, inner ones first. -/
def visible : Run (List (Text × Variable)) := do
  let p ← process
  let tables := p.scopes.map (·.table) ++ [p.globals]
  return (tables.foldl (fun (t : Table Variable) u => u.toList.foldl (fun t e => t.setDefault e.1 e.2) t)
    {}).toList

def bytesLe : Bytes → Bytes → Bool
  | [], _ => true
  | _ :: _, [] => false
  | a :: s, b :: t => a < b || (a == b && bytesLe s t)

/-- The order of names in listings. -/
def nameLe (a b : Text) : Bool := bytesLe a.encode b.encode

def sortedNames (ts : List Text) : List Text := ts.mergeSort nameLe

/-- The environment that a program is started with. -/
def environment : Run (List (Text × Text)) := do
  return (← visible).filterMap fun (n, v) => if v.isExported then v.plain?.map (n, ·) else none

/-! Places -/

def placeText (p : Place) : Text := "/" ++ Text.join "/" p

def tree : Run Tree := do return (← world).tree

def setTree (t : Tree) : Run Unit := modifyWorld fun w => { w with tree := t }

/-- The place that a path leads to, whether there is something at it or not; a link at it is not followed. -/
def locate (path : Text) : Run (Except FileError Place) := do
  if path.isEmpty then return .error .notFound
  return (← tree).locate (← process).directory (.ofText path)

def endsInSlash (path : Text) : Bool := path.endsWith "/" && path.any (!·.is '/')

/-- What a path leads to. -/
def lookup (path : Text) : Run (Except FileError (Place × Node)) := do
  if path.isEmpty then return .error .notFound
  match (← tree).lookup (← process).directory (.ofText path) with
  | .ok (place, node) =>
    return if endsInSlash path && !node.isDirectory then .error .notDirectory else .ok (place, node)
  | .error e => return .error e

/-- What a path leads to without following a link at its end. -/
def lookupLink (path : Text) : Run (Except FileError (Place × Node)) := do
  if endsInSlash path then lookup path
  else
    match ← locate path with
    | .error e => return .error e
    | .ok place =>
      match (← tree).node? place with
      | some node => return .ok (place, node)
      | none => return .error .notFound

/-- The descriptor that a path under `/dev` stands for. -/
def descriptorOfPath? (path : Text) : Option Nat :=
  if path = ("/dev/stdin" : Text) then some 0
  else if path = ("/dev/stdout" : Text) then some 1
  else if path = ("/dev/stderr" : Text) then some 2
  else match (path.after? "/dev/fd/").or (path.after? "/proc/self/fd/") with
    | some ds =>
      if !ds.isEmpty && ds.all Symbol.isDigit then
        some (ds.foldl (fun n d => n * 10 + (Escape.digitValue d).getD 0) 0)
      else none
    | none => none

/-- Keeps a stream open while something is done. -/
def keeping {α : Type} (i : Nat) (r : Run α) : Run α := do
  modifyProcess fun p => { p with aside := i :: p.aside }
  let a ← ensuring r (modifyProcess fun p => { p with aside := p.aside.erase i })
  return a

/-- Opens an end of a pipe with a name, once somebody opens the other one. -/
def openPipe (number : Nat) (isInput : Bool) : Run (Except FileError Nat) := do
  match (← world).pipe? number with
  | none => return .error .noDevice
  | some p =>
    let i := if isInput then p.source else p.sink
    modifyWorld fun w => w.setPipe number (if isInput then { p with readers := p.readers + 1 }
      else { p with writers := p.writers + 1 })
    keeping i do
      publish
      awaitOnly fun w => (w.pipe? number).all fun q =>
        if isInput then w.hasWriter q || p.writers < q.writers else w.hasReader q || p.readers < q.readers
    return .ok i

def openDevice (d : Device) : Run (Except FileError Nat) := do
  match d with
  | .terminal => return .error .noDevice
  | .null => return .ok (← newStream .nothing)
  | d => return .ok (← newStream (.device d))

/-- Opens a file for reading. -/
def openInput (path : Text) : Run (Except FileError Nat) := do
  match descriptorOfPath? path with
  | some fd =>
    match ← descriptor? fd with
    | some i => return .ok i
    | none => return .error .notFound
  | none =>
    match ← lookup path with
    | .error e => return .error e
    | .ok (place, .file ..) => return .ok (← newStream (.file place 0 false))
    | .ok (_, .sealed e _) => return .error e
    | .ok (_, .pipe number _) => openPipe number true
    | .ok (_, .device d) => openDevice d
    | .ok _ => return .error .isDirectory

inductive Opening where
  | truncate
  | append
  | keep
deriving DecidableEq

/-- The permissions of something new, of those that are asked for. -/
def allowed (mode : Nat) : Run Nat := do return mode &&& (0o7777 ^^^ (← process).mask)

/-- Opens a file for writing and makes it if it is not there. -/
def openOutput (path : Text) (how : Opening) (mayExist : Bool) : Run (Except FileError Nat) := do
  match descriptorOfPath? path with
  | some fd =>
    match ← descriptor? fd with
    | some i => return .ok i
    | none => return .error .notFound
  | none =>
    if path.isEmpty then return .error .notFound
    match (← tree).target Tree.mostLinks (← process).directory (.ofText path) with
    | .error e => return .error e
    | .ok place =>
      match (← tree).node? place with
      | some (.file _ mode) =>
        if endsInSlash path then return .error .notDirectory
        if !mayExist then return .error .alreadyExists
        if how = .truncate then
          modifyWorld fun w => { w with tree := w.tree.put place (.file [] mode) }.changed place
        return .ok (← newStream (.file place 0 (how = .append)))
      | some (.pipe number _) =>
        match how, ((← world).pipe? number).bind (·.ends) with
        | .keep, some i => return .ok i
        | _, _ => openPipe number false
      | some (.device d) => openDevice d
      | some (.sealed e _) => return .error e
      | some _ => return .error .isDirectory
      | none =>
        if endsInSlash path then return .error .isDirectory
        let mode ← allowed 0o666
        modifyWorld fun w => w.putNode place (.file [] mode)
        return .ok (← newStream (.file place 0 (how = .append)))

/-! Processes -/

def setStatus (n : Nat) : Run Unit := modifyProcess fun p => { p with status := n }

/-- Runs with the failure of commands being looked at rather than fatal. -/
def guarded {α : Type} (r : Run α) : Run α := do
  let before := (← process).isGuarded
  modifyProcess fun p => { p with isGuarded := true }
  ensuring r (modifyProcess fun p => { p with isGuarded := before })

end Run
end Tangle.Shell
