import Tangle.Files.Tree
import Tangle.Table

/-! # The world of processes

What processes share: the files, the streams that their descriptors refer to, the pipes between them, the
time, and what is known of each of them. A pipe holds so many bytes at most. It is at its end when no
process holds its sink, and broken when none holds its source. -/
namespace Tangle.Shell

/-- What a descriptor is open to. An output collects what is written, newest first. -/
inductive Stream where
  | nothing
  | input (rest : Bytes)
  | output (written : List Bytes)
  | file (place : Place) (offset : Nat) (appends : Bool)
  | source (pipe : Nat)
  | sink (pipe : Nat)
  /-- Both ends of a pipe. -/
  | ends (pipe : Nat)
  | device (d : Device)

/-- The number of the pipe that a stream reads from. -/
def Stream.pipe? : Stream → Option Nat
  | .source i => some i
  | .ends i => some i
  | _ => none

/-- The stream with its file at another place. -/
def Stream.moved (from_ into : Place) : Stream → Stream
  | .file place offset appends =>
    if from_.isPrefixOf place then .file (into ++ place.drop from_.length) offset appends
    else .file place offset appends
  | s => s

/-- The bytes on their way: those at the front, and the later ones newest first. -/
structure Pipe where
  front : Bytes := []
  back : List Bytes := []
  size : Nat := 0
  /-- The streams of its two ends. -/
  source : Nat
  sink : Nat
  /-- The stream that is both ends, of a pipe with a name. -/
  ends : Option Nat := none
  /-- How often the ends have been opened by name. -/
  readers : Nat := 0
  writers : Nat := 0

namespace Pipe

def capacity : Nat := 65536

def content (p : Pipe) : Bytes := if p.back.isEmpty then p.front else p.front ++ p.back.reverse.flatten

/-- The same pipe with all its bytes in front. -/
def gathered (p : Pipe) : Pipe := { p with front := p.content, back := [] }

def put (p : Pipe) (bs : Bytes) : Pipe := { p with back := bs :: p.back, size := p.size + bs.length }

def drop (p : Pipe) (n : Nat) : Pipe :=
  if n = 0 then p
  else
    let rest := p.content.drop n
    { p with front := rest, back := [], size := p.size - n }

def room (p : Pipe) : Nat := capacity - p.size

end Pipe

/-- How a process has ended. -/
inductive Ending where
  | status (n : Nat)
  | signal (n : Nat)
deriving DecidableEq, Repr

namespace Ending

/-- The status under which the shell knows an end: a signal counts from 128. -/
def code : Ending → Nat
  | status n => n
  | signal n => 128 + n

end Ending

structure World where
  tree : Tree
  streams : Array Stream := #[]
  pipes : Array Pipe := #[]
  /-- The streams that each process holds that runs on its own. -/
  holders : List (Nat × List Nat) := []
  endings : List (Nat × Ending) := []
  /-- Signals on their way: whom they are for, and their numbers. -/
  signals : List (Nat × Nat) := []
  processes : Nat := 4000
  /-- Microseconds since the start of the epoch. -/
  clock : Nat := 1700000000000000
  /-- The moment at which the running process was last given its turn. -/
  turn : Nat := 1700000000000000
  /-- The moments at which files were last changed. -/
  changes : List (Place × Nat) := []
  /-- What the next random bytes come from. -/
  noise : Nat := 88172645463325252

namespace World

def isHeld (w : World) (stream : Nat) : Bool := w.holders.any fun h => h.2.contains stream

def pipe? (w : World) (i : Nat) : Option Pipe := w.pipes[i]?

def hasWriter (w : World) (p : Pipe) : Bool := w.isHeld p.sink || p.ends.any w.isHeld
def hasReader (w : World) (p : Pipe) : Bool := w.isHeld p.source || p.ends.any w.isHeld

def hold (w : World) (process : Nat) (streams : List Nat) : World :=
  { w with holders := w.holders.map fun h => if h.1 = process then (process, streams) else h }

def enter (w : World) (process : Nat) (streams : List Nat) : World :=
  { w with holders := (process, streams) :: w.holders }

def leave (w : World) (process : Nat) (e : Ending) : World :=
  { w with holders := w.holders.filter (·.1 ≠ process), endings := (process, e) :: w.endings }

def hasEnded (w : World) (process : Nat) : Bool := (w.endings.lookup process).isSome

def setPipe (w : World) (i : Nat) (p : Pipe) : World := { w with pipes := w.pipes.setIfInBounds i p }

def changedAt (w : World) (moment : Nat) (place : Place) : World :=
  { w with changes := (place, moment) :: w.changes.filter (·.1 ≠ place) }

def changed (w : World) (place : Place) : World := w.changedAt w.clock place

/-- The world with something new at a place. -/
def putNode (w : World) (place : Place) (n : Node) : World :=
  ({ w with tree := w.tree.put place n }.changed place).changed place.dropLast

/-- The moment of the last change; what has not been changed is as old as the world. -/
def changeOf (w : World) (place : Place) : Nat := (w.changes.lookup place).getD 1700000000000000

/-- Moves what is at a place, and all that is below it. Descriptors that are open to it stay so. -/
def move (w : World) (from_ into : Place) : World :=
  let entries := w.tree.entries.filter fun e => !into.isPrefixOf e.1 || from_.isPrefixOf e.1
  let swap (p : Place) : Place := if from_.isPrefixOf p then into ++ p.drop from_.length else p
  let changes := (w.changes.filter fun e => !into.isPrefixOf e.1 || from_.isPrefixOf e.1).map
    fun (e : Place × Nat) => (swap e.1, e.2)
  ({ w with
    tree := ⟨entries.map fun (e : Place × Node) => (swap e.1, e.2)⟩
    changes
    streams := w.streams.map (Stream.moved from_ into) }.changed from_.dropLast).changed into.dropLast

def isOpen (w : World) (place : Place) : Bool := w.streams.any fun
  | .file p _ _ => place.isPrefixOf p
  | _ => false

/-- A place that no path leads to, for a file that is open but has no name any more. -/
def hiddenPlace (w : World) : Place := [[], Text.ofNat w.streams.size, Text.ofNat w.tree.entries.length]

/-- Takes away what is at a place, and all that is below it. -/
def remove (w : World) (place : Place) : World :=
  let w := if w.isOpen place then w.move place w.hiddenPlace else w
  ({ w with
    tree := w.tree.prune place
    changes := w.changes.filter fun e => !place.isPrefixOf e.1 }).changed place.dropLast

end World

end Tangle.Shell
