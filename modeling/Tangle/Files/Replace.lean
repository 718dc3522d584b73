import Tangle.Files.Tree

/-! # Replacing a file

A text is written to a new file in the directory of its destination, which then takes the destination's place,
so the destination holds the old state or the new one at every moment. The operations are spelt out, and any of
them may be made to fail. The directory is found by the text of its path, so the new file lies elsewhere if a name
`..` stands behind a link. -/
namespace Tangle.Replacement

inductive Operation where
  | create
  | encode
  | write
  | inspect
  | setMode
  | rename
deriving DecidableEq, Repr

/-- The name endings that are tried for a new file: numbers of eight digits. -/
def numbered (n : Nat) : Text :=
  let digits := Text.ofNat n
  Text.ofChars (List.replicate (8 - digits.length) '0') ++ digits

/-- What a replacement meets with: the operations that fail, apart from those that the tree itself
refuses; how many bytes a write that fails has written; and how the names end that are tried for the
new file. -/
structure Circumstances where
  error : Operation → Option FileError := fun _ => none
  written : Nat := 0
  ending : Nat → Text := numbered

def noFaults : Circumstances := {}

def Circumstances.check (c : Circumstances) (o : Operation) : Except FileError Unit :=
  match c.error o with
  | some e => .error e
  | none => .ok ()

/-- The name of a new file: hidden, and like that of the destination up to its ending. -/
def newName (name ending : Text) : Text := "." ++ name ++ "." ++ ending

/-- The path of a new file in a directory. -/
def newPath (directory : Path) (name ending : Text) : Path := directory.append ⟨.relative, [newName name ending]⟩

/-- The first place for a new file in a directory that is not in use. Attempt `n` is the next one. -/
def newPlace (c : Circumstances) (t : Tree) (directory : Path) (name : Text) : (n attempts : Nat) →
    Except FileError Place
  | _, 0 => .error .alreadyExists
  | n, attempts + 1 => do
    let place ← t.locate [] (newPath directory name (c.ending n))
    if (t.node? place).isSome then newPlace c t directory name (n + 1) attempts else return place

/-- The number of names that are tried. -/
def mostAttempts : Nat := 10000

/-- The mode of a new file until it is complete. -/
def newMode : Nat := 0o600

/-- The place of the new file, once it is there and empty. -/
def create (c : Circumstances) (t : Tree) (cwd : Place) (destination : Path) :
    Except FileError (Place × Tree) := do
  c.check .create
  let place ← newPlace c t (destination.parent.absolute cwd) destination.name 0 mostAttempts
  return (place, t.put place (.file [] newMode))

/-- The mode of a file that is new where it is. -/
def defaultMode (umask : Nat) : Nat := 0o777 &&& (0o777 ^^^ umask)

/-- The mode that the destination is to have: its own if it leads anywhere, or the default. -/
def modeFor (t : Tree) (cwd : Place) (umask : Nat) (destination : Path) : Except FileError Nat :=
  match t.lookup cwd destination with
  | .ok (_, n) => .ok (n.mode &&& 0o7777)
  | .error .nameTooLong => .error .nameTooLong
  | .error _ => .ok (defaultMode umask)

/-- Puts the file at `place` where the destination leads. A directory is not replaced. -/
def rename (t : Tree) (cwd : Place) (place : Place) (destination : Path) : Except FileError Tree := do
  let target ← t.locate cwd destination
  if destination.isNameless then .error .busy
  else match t.node? target, t.node? place with
    | some (.directory _), _ => .error .isDirectory
    | _, some n => .ok ((t.drop place).put target n)
    | _, none => .error .notFound

/-- The outcome of a replacement, and the trees that its operations leave one after the other. -/
structure Trace where
  outcome : Except FileError Unit
  trees : List Tree

def Trace.last (r : Trace) (t : Tree) : Tree := r.trees.getLastD t

/-- Fills the new file, gives it the destination's mode and moves it there. -/
def install (c : Circumstances) (umask : Nat) (t : Tree) (cwd place : Place) (destination : Path)
    (content : Bytes) : Trace :=
  match c.check .encode with
  | .error e => ⟨.error e, []⟩
  | .ok () =>
  match c.check .write with
  | .error e => ⟨.error e, [t.put place (.file (content.take c.written) newMode)]⟩
  | .ok () =>
  let written := t.put place (.file content newMode)
  match c.check .inspect >>= fun _ => modeFor written cwd umask destination with
  | .error e => ⟨.error e, [written]⟩
  | .ok mode =>
  match c.check .setMode with
  | .error e => ⟨.error e, [written]⟩
  | .ok () =>
  let complete := written.put place (.file content mode)
  match c.check .rename >>= fun _ => rename complete cwd place destination with
  | .error e => ⟨.error e, [written, complete]⟩
  | .ok replaced => ⟨.ok (), [written, complete, replaced]⟩

/-- Replaces a file. The new file is removed if it cannot take the destination's place. -/
def run (c : Circumstances) (umask : Nat) (t : Tree) (cwd : Place) (destination : Path) (content : Bytes) :
    Trace :=
  match create c t cwd destination with
  | .error e => ⟨.error e, []⟩
  | .ok (place, created) =>
    let r := install c umask created cwd place destination content
    let trees := created :: r.trees
    match r.outcome with
    | .ok () => ⟨.ok (), trees⟩
    | .error e => ⟨.error e, trees ++ [(r.last created).drop place]⟩

/-- The circumstances of a replacement by a text, which fails to be encoded if it has no bytes. -/
def Circumstances.forText (c : Circumstances) (text : Text) : Circumstances :=
  { c with error := fun
    | .encode => match text.encoded with
      | .error f => some (.unencodable f)
      | .ok _ => none
    | o => c.error o }

/-- Replaces a file by a text. -/
def runText (c : Circumstances) (umask : Nat) (t : Tree) (cwd : Place) (destination : Path) (text : Text) : Trace :=
  run (c.forText text) umask t cwd destination text.encode

end Tangle.Replacement
