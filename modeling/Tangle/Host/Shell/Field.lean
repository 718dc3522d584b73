import Tangle.Host.Shell.Pattern
import Tangle.Files.Tree

/-! # Fields

The pieces that the expansion of a word leaves, how they are cut into fields, and how a field that is
a pattern is matched against the names of files. -/
namespace Tangle.Shell

inductive Piece where
  /-- Text from the source, which is never cut. -/
  | text (isQuoted : Bool) (t : Text)
  /-- Text from an unquoted expansion, which is cut at the separators. -/
  | result (t : Text)
  /-- There is a field here, even if it is empty. -/
  | mark
  /-- The end of an element. -/
  | next
  /-- A quoted expansion to no elements at all. -/
  | absent
deriving DecidableEq, Repr

namespace Field

/-- A field being put together. `closed` tells that a blank has ended the one before. -/
structure Cutting where
  done : List (List Glyph) := []
  current : List Glyph := []
  isOpen : Bool := false
  closed : Bool := false

namespace Cutting

def close (c : Cutting) : Cutting :=
  if c.isOpen then { done := c.current.reverse :: c.done } else c

def add (g : Glyph) (c : Cutting) : Cutting :=
  { c with current := g :: c.current, isOpen := true, closed := false }

def addResult (separators : Text) (c : Cutting) (s : Symbol) : Cutting :=
  if !separators.contains s then c.add ⟨s, false⟩
  else if s.isAnyOf " \t\n" then if c.isOpen then { c.close with closed := true } else c
  else if c.isOpen then c.close
  else if c.closed then { c with closed := false }
  else { c with done := [] :: c.done }

def addPiece (separators : Text) (c : Cutting) : Piece → Cutting
  | .text isQuoted t => t.foldl (fun c s => c.add ⟨s, isQuoted⟩) c
  | .result t => t.foldl (addResult separators) c
  | .mark => { c with isOpen := true, closed := false }
  | .next => { c.close with closed := false }
  | .absent => c

end Cutting

/-- The fields of some pieces, cut at the separators. -/
def cut (separators : Text) (ps : List Piece) : List (List Glyph) :=
  ((ps.foldl (Cutting.addPiece separators) {}).close).done.reverse

/-- The pieces as one field, elements joined by `joiner`. -/
def whole (joiner : Text) (ps : List Piece) : List Glyph :=
  ps.flatMap fun
    | .text isQuoted t => Glyph.ofText isQuoted t
    | .result t => Glyph.ofText false t
    | .next => Glyph.ofText true joiner
    | _ => []

/-! File names -/

structure Matching where
  extended : Bool
  matchesDots : Bool
  ignoresCase : Bool
  descends : Bool
  /-- Whether the names of a directory itself and of the one above it are left out. -/
  skipsDots : Bool := true
  /-- What matches one of these is left out. -/
  ignored : List (List Pattern) := []

/-- The names between slashes. -/
def components : List Glyph → List (List Glyph)
  | [] => [[]]
  | g :: gs =>
    if g.symbol.is '/' then [] :: components gs
    else match components gs with
      | [] => [[g]]
      | c :: cs => (g :: c) :: cs

def isHidden (name : Text) : Bool := name.head?.any (·.is '.')

def matchesName (m : Matching) (gs : List Glyph) (name : Text) : Bool :=
  (!isHidden name || m.matchesDots || gs.head?.any (·.symbol.is '.')) &&
    Pattern.isMatch (Pattern.ofGlyphs m.extended gs) m.ignoresCase name

/-- The places below a directory, by the names that lead to them, the directory itself first. -/
def descend (t : Tree) (m : Matching) : Nat → Place → Text → List (Place × Text)
  | 0, p, head => [(p, head)]
  | n + 1, p, head =>
    (p, head) :: (t.children p).flatMap fun (name, node) =>
      if node.isDirectory && (!isHidden name || m.matchesDots) then
        descend t m n (p ++ [name]) (head ++ name ++ "/")
      else []

/-- Whether a name of a directory leads to a directory itself. -/
def leadsOn (t : Tree) (at_ : Place) (name : Text) (node : Node) : Bool :=
  match node with
  | .directory _ => true
  | .link _ => t.isDirectory at_ ⟨.relative, [name]⟩
  | _ => false

def isStars (gs : List Glyph) : Bool := gs.length = 2 && gs.all (·.is '*')

/-- The texts of the paths that match, from a directory on; `head` leads to the directory. -/
def paths (t : Tree) (m : Matching) : List (List Glyph) → Place → (head : Text) → List Text
  | [], _, head => [head]
  | gs :: rest, at_, head =>
    let name := Glyph.text gs
    let isLast := rest.isEmpty
    if m.descends && isStars gs then
      let starts := descend t m 40 at_ head
      if isLast then
        let files := starts.flatMap fun (p, h) => (t.children p).filterMap fun (n, _) =>
          if !isHidden n || m.matchesDots then some (h ++ n) else none
        (if head.isEmpty then [] else [head]) ++ files
      else starts.flatMap fun (p, h) => paths t m rest p h
    else if Pattern.isActive m.extended gs then
      let dots : List (Text × Node) :=
        if !m.skipsDots && gs.head?.any (·.symbol.is '.') then [(".", .directory 0o755), ("..", .directory 0o755)] else []
      let names := (dots ++ t.children at_).filter fun (n, node) =>
        matchesName m gs n && (isLast || leadsOn t at_ n node)
      names.flatMap fun (n, _) =>
        if isLast then [head ++ n]
        else
          match t.follow Tree.mostLinks at_ [n] with
          | .ok inner => paths t m rest inner (head ++ n ++ "/")
          | .error _ => []
    else if name.isEmpty then
      if isLast then [head] else paths t m rest at_ (head ++ "/")
    else
      match t.stepInto at_ name with
      | .ok p =>
        if isLast then if (t.node? p).isSome then [head ++ name] else []
        else
          match t.follow Tree.mostLinks at_ [name] with
          | .ok p => paths t m rest p (head ++ name ++ "/")
          | .error _ => []
      | .error _ => []

/-- The paths that match a field. -/
def matching (t : Tree) (m : Matching) (cwd : Place) (gs : List Glyph) : List Text :=
  let isAbsolute := gs.head?.any (·.symbol.is '/')
  let cs := components gs
  let found := if isAbsolute then paths t m (cs.drop 1) [] "/" else (paths t m cs cwd "").filter (!·.isEmpty)
  let kept := if m.ignored.isEmpty then found
    else found.filter fun t => !m.ignored.any fun p => Pattern.isMatch p m.ignoresCase t
  kept.mergeSort Text.le

end Field
end Tangle.Shell
