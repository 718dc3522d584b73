import Tangle.Text.Basic

/-! # Paths

A path is a root and a list of names. Empty names and the name `.` are dropped when a path is read;
the name `..` is kept, since only the file system can say what it means, unless a path is collapsed by its
text. -/
namespace Tangle

inductive Root where
  | relative
  | absolute
  | doubled
deriving DecidableEq, Repr

structure Path where
  root : Root := .relative
  names : List Text := []
deriving DecidableEq, Repr

namespace Path

def slash : Symbol := .char '/'

def rootOf (t : Text) : Root :=
  match (t.takeWhile (· = slash)).length with
  | 0 => .relative
  | 2 => .doubled
  | _ => .absolute

def namesOf (t : Text) : List Text :=
  (Text.pieces slash t).filter fun n => !n.isEmpty && n != (".":Text)

def ofText (t : Text) : Path := ⟨rootOf t, namesOf t⟩

def rootText : Root → Text
  | .relative => ""
  | .absolute => "/"
  | .doubled => "//"

def text (p : Path) : Text :=
  match p.root, p.names with
  | .relative, [] => "."
  | r, ns => rootText r ++ Text.join "/" ns

/-- The path `q` taken relative to `p`. -/
def append (p q : Path) : Path := if q.root = .relative then ⟨p.root, p.names ++ q.names⟩ else q

instance : HDiv Path Text Path := ⟨fun p t => p.append (ofText t)⟩

/-- The names that are left if each `..` takes away the name before it. -/
def collapsed (names : List Text) : List Text :=
  names.foldl (fun done n => if n = (".." : Text) then done.dropLast else done ++ [n]) []

/-- The path from the root that a path makes by its text alone, whatever its names lead to. -/
def absolute (cwd : List Text) (p : Path) : Path where
  root := if p.root = .doubled then .doubled else .absolute
  names := collapsed ((if p.root = .relative then cwd else []) ++ p.names)

def parent (p : Path) : Path := ⟨p.root, p.names.dropLast⟩

def name (p : Path) : Text := p.names.getLastD []

/-- Whether a path ends in no name of its own: it has no names, or the last of them is `..`. -/
def isNameless (p : Path) : Bool := p.names.getLast?.all (· = (".." : Text))

/-- The last name without its extension, the part from its last dot on. A dot at either end of the
name begins no extension. -/
def stem (p : Path) : Text :=
  let n := p.name
  let head := (n.reverse.dropWhile (!·.is '.')).reverse.dropLast
  if head.isEmpty || head.length + 1 = n.length then n else head

end Path
end Tangle
