import Tangle.Files.Path
import Tangle.Text.Utf8
import Tangle.Text.Display

/-! # The file tree

Files, directories and links by the names that lead to them from the root. Paths are followed name by
name, so every name but the last has to lead to a directory that exists. A link leads to where its text
does, read in the directory that it stands in. -/
namespace Tangle

/-- Why something cannot be done to a file, or a program not be started. The last two are met before the system is
asked. -/
inductive FileError where
  | notFound
  | alreadyExists
  | isDirectory
  | notDirectory
  | notEmpty
  | nameTooLong
  | permissionDenied
  | busy
  | tooManyLinks
  | badDescriptor
  | notPermitted
  | noSpace
  | noDevice
  | invalidArgument
  | inputOutput
  | notExecutable
  | noTemporary (tried : List Text)
  | nulInPath
  | unencodable (f : EncodeFault)
deriving DecidableEq, Repr

namespace FileError

def reason : FileError → Text
  | notFound => "No such file or directory"
  | alreadyExists => "File exists"
  | isDirectory => "Is a directory"
  | notDirectory => "Not a directory"
  | notEmpty => "Directory not empty"
  | nameTooLong => "File name too long"
  | permissionDenied => "Permission denied"
  | busy => "Device or resource busy"
  | tooManyLinks => "Too many levels of symbolic links"
  | badDescriptor => "Bad file descriptor"
  | notPermitted => "Operation not permitted"
  | noSpace => "No space left on device"
  | noDevice => "No such device or address"
  | invalidArgument => "Invalid argument"
  | inputOutput => "Input/output error"
  | notExecutable => "Exec format error"
  | noTemporary tried => "No usable temporary directory found in [" ++ Text.join ", " (tried.map Text.display) ++ "]"
  | nulInPath => "embedded null byte"
  | unencodable f => f.message

def number : FileError → Nat
  | notFound => 2
  | alreadyExists => 17
  | isDirectory => 21
  | notDirectory => 20
  | notEmpty => 39
  | nameTooLong => 36
  | permissionDenied => 13
  | busy => 16
  | tooManyLinks => 40
  | badDescriptor => 9
  | notPermitted => 1
  | noSpace => 28
  | noDevice => 6
  | invalidArgument => 22
  | inputOutput => 5
  | notExecutable => 8
  | noTemporary _ => 2
  | nulInPath | unencodable _ => 22

/-- Whether an error comes from the system. -/
def isOfSystem : FileError → Bool
  | nulInPath | unencodable _ => false
  | _ => true

/-- The class that an error of the system belongs to. -/
def kind : FileError → Text
  | notFound | noTemporary _ => "FileNotFoundError"
  | alreadyExists => "FileExistsError"
  | isDirectory => "IsADirectoryError"
  | notDirectory => "NotADirectoryError"
  | permissionDenied | notPermitted => "PermissionError"
  | nulInPath => "ValueError"
  | unencodable _ => "UnicodeEncodeError"
  | _ => "OSError"

def shown (e : FileError) : Text :=
  match e with
  | nulInPath => e.kind ++ "(" ++ e.reason.display ++ ")"
  | unencodable f => f.shown
  | _ => e.kind ++ "(" ++ Text.ofNat e.number ++ ", " ++ e.reason.display ++ ")"

/-- What keeps a text from being handed to the system, as a path or as an argument. -/
def checkText (t : Text) : Except FileError Unit :=
  if !t.isEncodable then .error (.unencodable ⟨t⟩)
  else if Symbol.nul ∈ t then .error .nulInPath
  else .ok ()

def message (e : FileError) : Text := "[Errno " ++ Text.ofNat e.number ++ "] " ++ e.reason

/-- The error as it is reported for a path. One that is met once a file is open does not name it. -/
def messageFor (e : FileError) (path : Text) : Text :=
  e.message ++ if e = inputOutput then ([] : Text) else ": " ++ path.display

end FileError

/-- The absolute place of a file or directory: the names from the root down. -/
abbrev Place := List Text

/-- What a special file stands for. -/
inductive Device where
  | null
  | zero
  | full
  | random
  | terminal
deriving DecidableEq, Repr

inductive Node where
  | file (content : Bytes) (mode : Nat)
  /-- A regular file that cannot be read, and the error of an attempt. -/
  | sealed (e : FileError) (mode : Nat)
  | directory (mode : Nat := 0o755)
  | link (target : Text)
  /-- A pipe with a name, by its number. -/
  | pipe (number : Nat) (mode : Nat)
  | device (d : Device)
  /-- One of several names of a file that is kept at a place of its own. -/
  | shared (place : Place)
deriving DecidableEq, Repr

namespace Node

def isDirectory : Node → Bool
  | directory _ => true
  | _ => false

def isRegular : Node → Bool
  | file .. | sealed .. => true
  | _ => false

/-- The permissions; a link has all of them. -/
def mode : Node → Nat
  | file _ mode => mode
  | sealed _ mode => mode
  | directory mode => mode
  | link _ => 0o777
  | pipe _ mode => mode
  | device _ => 0o666
  | shared _ => 0o644

def withMode (mode : Nat) : Node → Node
  | file content _ => file content mode
  | sealed e _ => sealed e mode
  | directory _ => directory mode
  | link target => link target
  | pipe number _ => pipe number mode
  | device d => device d
  | shared place => shared place

end Node

structure Tree where
  entries : List (Place × Node) := []
deriving DecidableEq, Repr

namespace Tree

def node? (t : Tree) (p : Place) : Option Node :=
  if p.isEmpty then some (.directory 0o755) else (t.entries.find? (·.1 = p)).map (·.2)

def isDirectoryAt (t : Tree) (p : Place) : Bool := (t.node? p).any Node.isDirectory

def putEntry (p : Place) (n : Node) : List (Place × Node) → List (Place × Node)
  | [] => [(p, n)]
  | e :: es => if e.1 = p then (p, n) :: es else e :: putEntry p n es

def put (t : Tree) (p : Place) (n : Node) : Tree := ⟨putEntry p n t.entries⟩

def drop (t : Tree) (p : Place) : Tree := ⟨t.entries.filter (·.1 ≠ p)⟩

/-- The tree without a place and all that is below it. -/
def prune (t : Tree) (p : Place) : Tree := ⟨t.entries.filter fun e => !p.isPrefixOf e.1⟩

/-- The node itself, or what several names share. -/
def settled (t : Tree) (n : Node) : Node :=
  match n with
  | .shared place => (t.node? place).getD n
  | n => n

/-- The number of names that a file has. -/
def namesOf (t : Tree) (place : Place) : Nat := t.entries.countP fun e => e.2 = .shared place

/-- The places directly below a directory. -/
def children (t : Tree) (p : Place) : List (Text × Node) :=
  t.entries.filterMap fun e =>
    if e.1.dropLast = p ∧ e.1 ≠ [] then e.1.getLast?.map (·, e.2) else none

/-- The entries below a directory, with the names that lead from it to each. -/
def below (t : Tree) (p : Place) : List (Place × Node) :=
  t.entries.filterMap fun e =>
    if p.isPrefixOf e.1 ∧ e.1 ≠ p then some (e.1.drop p.length, e.2) else none

def isLong (name : Text) : Bool := 255 < name.encode.length

def stepInto (t : Tree) (at_ : Place) (name : Text) : Except FileError Place :=
  match t.node? at_ with
  | none => .error .notFound
  | some (.directory _) =>
    if Symbol.nul ∈ name then .error .nulInPath
    else if isLong name then .error .nameTooLong
    else if name = ("." : Text) then .ok at_
    else if name = (".." : Text) then .ok at_.dropLast
    else .ok (at_ ++ [name])
  | some _ => .error .notDirectory

/-- The number of links that may be met on the way. -/
def mostLinks : Nat := 40

/-- Where the text of a link begins that stands in a directory. -/
def startOf (target : Path) (directory : Place) : Place := if target.root = .relative then directory else []

/-- Follows names from a place. A link is left to `onward`, if more of them may be followed. -/
def walk (t : Tree) (onward : Option (Place → List Text → Except FileError Place)) :
    (at_ : Place) → (names : List Text) → Except FileError Place
  | at_, [] => if (t.node? at_).isSome then .ok at_ else .error .notFound
  | at_, n :: ns =>
    match t.stepInto at_ n with
    | .error e => .error e
    | .ok p =>
      match t.node? p, onward with
      | some (.link _), none => .error .tooManyLinks
      | some (.link target), some onward =>
        let path := Path.ofText target
        onward (startOf path at_) (path.names ++ ns)
      | some (.shared q), some onward => onward q ns
      | _, _ => walk t onward p ns

/-- Follows names, and the links that they lead to. -/
def follow (t : Tree) : (links : Nat) → (at_ : Place) → (names : List Text) → Except FileError Place
  | 0 => t.walk none
  | links + 1 => t.walk (some (t.follow links))

/-- The number of bytes that a path may have. -/
def longestPath : Nat := 4095

/-- A path that cannot lead anywhere, whatever the tree holds. -/
def checkPath (p : Path) : Except FileError Unit := do
  FileError.checkText p.text
  if longestPath < p.text.encode.length then .error .nameTooLong

/-- The place that a path leads to, which has to exist. -/
def resolve (t : Tree) (cwd : Place) (p : Path) : Except FileError Place := do
  checkPath p
  t.follow mostLinks (startOf p cwd) p.names

/-- The place that a path names, whether there is something at it or not. A link there is not followed. A path
without a name of its own has to lead to something. -/
def locate (t : Tree) (cwd : Place) (p : Path) : Except FileError Place := do
  checkPath p
  if p.isNameless then t.follow mostLinks (startOf p cwd) p.names
  else t.stepInto (← t.follow mostLinks (startOf p cwd) p.parent.names) p.name

/-- The place that a path names once the link there, if there is one, has been followed. -/
def target (t : Tree) : (links : Nat) → (cwd : Place) → Path → Except FileError Place
  | 0, _, _ => .error .tooManyLinks
  | links + 1, cwd, p =>
    match t.locate cwd p with
    | .error e => .error e
    | .ok place =>
      match t.node? place with
      | some (.link text) => target t links place.dropLast (Path.ofText text)
      | some (.shared q) => .ok q
      | _ => .ok place

def lookup (t : Tree) (cwd : Place) (p : Path) : Except FileError (Place × Node) := do
  let place ← t.resolve cwd p
  match t.node? place with
  | some n => return (place, n)
  | none => .error .notFound

def isFile (t : Tree) (cwd : Place) (p : Path) : Bool :=
  match t.lookup cwd p with
  | .ok (_, n) => n.isRegular
  | _ => false

def isDirectory (t : Tree) (cwd : Place) (p : Path) : Bool :=
  match t.lookup cwd p with
  | .ok (_, .directory _) => true
  | _ => false

def pathExists (t : Tree) (cwd : Place) (p : Path) : Bool := (t.lookup cwd p).isOk

def read (t : Tree) (cwd : Place) (p : Path) : Except FileError Bytes := do
  match ← t.lookup cwd p with
  | (_, .directory _) => .error .isDirectory
  | (_, .file content _) => .ok content
  | (_, .sealed e _) => .error e
  | _ => .ok []

/-- Makes a directory. The system may refuse to make one at a place where there is nothing. -/
def makeDirectory (refused : Place → Option FileError) (t : Tree) (cwd : Place) (p : Path) : Except FileError Tree := do
  let place ← t.locate cwd p
  if (t.node? place).isSome then .error .alreadyExists
  else match refused place with
    | some e => .error e
    | none => .ok (t.put place (.directory 0o755))

/-- Makes a directory, and first those above it that are missing. What was made stays if a later
one cannot be made; `again` accepts a directory that is there already. -/
def makeDirectories (refused : Place → Option FileError) (cwd : Place) (again : Bool) (root : Root) :
    (names : List Text) → Tree → Except FileError Unit × Tree
  | names, t =>
    let p : Path := ⟨root, names⟩
    let settle (e : FileError) (t : Tree) : Except FileError Unit × Tree :=
      if again && t.isDirectory cwd p then (.ok (), t) else (.error e, t)
    match t.makeDirectory refused cwd p with
    | .ok t => (.ok (), t)
    | .error .notFound =>
      match names with
      | [] => (.error .notFound, t)
      | n :: ns =>
        match makeDirectories refused cwd true root (n :: ns).dropLast t with
        | (.error e, t) => (.error e, t)
        | (.ok (), t) =>
          match t.makeDirectory refused cwd p with
          | .ok t => (.ok (), t)
          | .error e => settle e t
    | .error e => settle e t
termination_by names => names.length
decreasing_by simp

end Tree
end Tangle
