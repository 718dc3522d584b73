import Tangle.Host.Shell.Program.Flag

/-! # What programs read and write

A program reads the files that it is given, or its standard input, piece by piece as it comes, and writes as
it goes on, so that it can stand in the middle of a pipeline that never ends. A program that writes where
nobody reads is ended. -/
namespace Tangle.Shell.Program
open Run

/-! Writing -/

/-- Writes bytes to the standard output; the program ends when that fails. -/
def putBytes (program : Text) (bs : Bytes) : Run Unit := do
  if !(← writeBytes 1 bs) then
    let reason ← writeFailure 1
    die program 1 ((if (← descriptor? 1).isSome then ("write error: " : Text) else "standard output: ") ++ reason)

def put (program t : Text) : Run Unit := putBytes program t.encode

def putLines (program : Text) (ls : List Text) : Run Unit := put program (ls.flatMap (· ++ "\n"))

/-! Sources -/

/-- The names of the sources: the standard input if there are none. -/
def sourcesOf (paths : List Text) : List Text := if paths.isEmpty then ["-"] else paths

def isDash (path : Text) : Bool := path = ("-" : Text)

/-- Opens a source, `-` being the standard input. -/
def openSource (path : Text) : Run (Except FileError Nat) := do
  if isDash path then
    match ← descriptor? 0 with
    | some i => return .ok i
    | none => return .error .badDescriptor
  else openInput path

/-- Reads a stream piece by piece, as long as the step asks for more. What the step leaves stays unread. -/
def feed {σ : Type} (i : Nat) (step : σ → Bytes → Run (σ × Bool)) : Nat → σ → Run σ
  | 0, _ => throw .exhausted
  | n + 1, s => do
    let bs ← chunkOf i
    if bs.isEmpty then return s
    else
      advanceStream i bs.length
      let (s, again) ← step s bs
      if again then feed i step n s else return s

/-- Reads all of a stream piece by piece. -/
def feedAll {σ : Type} (i : Nat) (step : σ → Bytes → Run σ) (s : σ) : Run σ :=
  keeping i (feed i (fun s bs => do return (← step s bs, true)) greatestPieces s)

/-- Goes back over bytes that have been read, if that can be done. -/
def unread (i n : Nat) : Run Unit := do
  match ← stream i with
  | .file place offset appends => setStream i (.file place (offset - n) appends)
  | _ => pure ()

/-- Reads a stream in blocks of a size, as long as the step asks for more. In the end the step tells how many
bytes of the block it did not need, and a file is left where they begin. -/
def feedBlocks {σ : Type} (size i : Nat) (step : σ → Bytes → Run (σ × Option Nat)) : Nat → σ → Run σ
  | 0, _ => throw .exhausted
  | n + 1, s => do
    let bs := (← chunkOf i).take size
    if bs.isEmpty then return s
    else
      advanceStream i bs.length
      let (s, surplus) ← step s bs
      match surplus with
      | none => feedBlocks size i step n s
      | some k =>
        unread i k
        return s

/-- The message about a source that cannot be read. -/
def reportSource (program path : Text) (e : FileError) : Run Unit := report program (shown path ++ ": " ++ e.reason)

/-- Goes through sources; those that cannot be opened are told of. Whether all could be read. -/
def eachSource {σ : Type} (program : Text) (step : Text → Nat → σ → Run σ) : List Text → σ → Run (σ × Bool)
  | [], s => return (s, true)
  | path :: rest, s => do
    match ← openSource path with
    | .error e =>
      reportSource program path e
      let (s, _) ← eachSource program step rest s
      return (s, false)
    | .ok i =>
      let s ← step path i s
      eachSource program step rest s

/-- What a source holds; nothing, with a message, if it cannot be read. -/
def contentOf? (program path : Text) : Run (Option Bytes) := do
  match ← openSource path with
  | .error e =>
    reportSource program path e
    return none
  | .ok i => return some (← keeping i (drain i))

/-- The contents of sources with their names, and whether all could be read. -/
def contents (program : Text) (paths : List Text) : Run (List (Text × Bytes) × Bool) := do
  let found ← (sourcesOf paths).mapM fun p => do return (p, ← contentOf? program p)
  return (found.filterMap fun (p, c) => c.map (p, ·), found.all (·.2.isSome))

def allBytes (program : Text) (paths : List Text) : Run (Bytes × Bool) := do
  let (cs, ok) ← contents program paths
  return ((cs.map (·.2)).flatten, ok)

/-! Lines -/

/-- The byte that ends a line. -/
def lineEnd (isZero : Bool) : UInt8 := if isZero then 0 else 10

/-- The records of bytes without the bytes that end them, and whether the last one is ended. -/
def recordsOf (mark : UInt8) (bs : Bytes) : List Bytes × Bool :=
  go bs [] []
where
  go : Bytes → (record : List UInt8) → (done : List Bytes) → List Bytes × Bool
    | [], record, done =>
      if record.isEmpty then (done.reverse, true) else ((record.reverse :: done).reverse, false)
    | b :: bs, record, done =>
      if b = mark then go bs [] (record.reverse :: done) else go bs (b :: record) done

def linesIn (isZero : Bool) (bs : Bytes) : List Text := (recordsOf (lineEnd isZero) bs).1.map Text.decode

/-- Lines with their ends. -/
def withEnds (isZero : Bool) (ls : List Text) : Bytes :=
  (ls.map fun l => l.encode ++ [lineEnd isZero]).flatten

/-- The lines of all sources. A line that is not ended is ended by the end of its source only if all are read
apart. -/
def allLines (program : Text) (isZero : Bool) (paths : List Text) : Run (List Text × Bool) := do
  let (cs, ok) ← contents program paths
  return (cs.flatMap fun c => linesIn isZero c.2, ok)

/-- The records that are complete in bytes, and what is left. -/
def splitRecords (mark : UInt8) (bs : Bytes) : List Bytes × Bytes :=
  go bs [] []
where
  go : Bytes → (record : List UInt8) → (done : List Bytes) → List Bytes × Bytes
    | [], record, done => (done.reverse, record.reverse)
    | b :: bs, record, done =>
      if b = mark then go bs [] (record.reverse :: done) else go bs (b :: record) done

/-- Goes through the lines of a stream as they come in; `step` gives what is written for them. The line that is
not ended comes last. Whether all lines were asked for. -/
def feedLines {σ : Type} (program : Text) (isZero : Bool) (i : Nat)
    (step : σ → (line : Text) → (isEnded : Bool) → σ × Text) (s : σ) : Run σ := do
  let (s, rest) ← feedAll i (fun (s, held) bs => do
      let (records, rest) := splitRecords (lineEnd isZero) (if held.isEmpty then bs else held ++ bs)
      let (s, out) := records.foldl (fun (acc : σ × List Text) r =>
        let (s, t) := step acc.1 (Text.decode r) true
        (s, t :: acc.2)) (s, [])
      putBytes program (out.reverse.flatMap Text.encode)
      return (s, rest)) (s, ([] : Bytes))
  if rest.isEmpty then return s
  else
    let (s, t) := step s (Text.decode rest) false
    put program t
    return s

/-- Goes through the lines of all sources, each of which is read apart. -/
def filterLines {σ : Type} (program : Text) (isZero : Bool) (paths : List Text)
    (step : σ → (line : Text) → (isEnded : Bool) → σ × Text) (s : σ) : Run (σ × Bool) :=
  eachSource program (fun _ i s => feedLines program isZero i step s) (sourcesOf paths) s

/-- The mark behind a line that is ended. -/
def endMark (isZero isEnded : Bool) : Text :=
  if isEnded then (if isZero then [Symbol.nul] else [Symbol.newline]) else []

def padLeft (width : Nat) (t : Text) : Text := Text.spaces (width - t.length) ++ t

/-! Targets -/

/-- Writes bytes to a stream. -/
def writeStream (i : Nat) (bs : Bytes) : Run Bool := do
  let fd ← freeDescriptor 10
  setDescriptor fd i
  let ok ← writeBytes fd bs
  closeDescriptor fd
  return ok

/-- Makes bytes the content of a file. -/
def writeFile (path : Text) (bs : Bytes) : Run (Except FileError Unit) := do
  match ← openOutput path .truncate true with
  | .error e => return .error e
  | .ok i =>
    let _ ← writeStream i bs
    return .ok ()

end Tangle.Shell.Program
