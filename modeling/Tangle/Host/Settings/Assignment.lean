import Tangle.Text.Blank
import Tangle.Table

/-! # Assignment files

A file of lines that give names their values: `name=value`, with an optional `export` before the
name, quotes around the value and a comment after it. A line that cannot be read is passed over.
A value may refer to other names. -/
namespace Tangle

structure Assignment where
  name : Text
  value : Option Text
deriving DecidableEq, Repr

namespace Assignment

def isLineGap (s : Symbol) : Bool := s.isBlank && !s.isAnyOf "\r\n"
def isLineBreak (s : Symbol) : Bool := s.isAnyOf "\r\n"

def skipGap (t : Text) : Text := t.dropWhile isLineGap

def skipExport (t : Text) : Text :=
  match t.after? "export" with
  | some (s :: r) => if isLineGap s then skipGap r else t
  | _ => t

/-- The name at the start of a line, and the rest; a comment has none. -/
def readName (t : Text) : Option (Option Text × Text) :=
  match t with
  | .char '#' :: _ => some (none, t)
  | .char '\'' :: r =>
    match r.span (!·.is '\'') with
    | ([], _) | (_, []) => none
    | (name, _ :: rest) => some (some name, rest)
  | _ =>
    match t.span fun s => !s.isBlank && !s.isAnyOf "=#" with
    | ([], _) => none
    | (name, rest) => some (some name, rest)

/-- The text up to a mark. A backslash keeps the symbol after it. -/
def quotedFrom (mark : Char) : Text → Option (Text × Text)
  | [] => none
  | .char '\\' :: s :: r => (quotedFrom mark r).map fun (t, rest) => (.char '\\' :: s :: t, rest)
  | s :: r =>
    if s.is mark then some ([], r)
    else if s.is '\\' then none
    else (quotedFrom mark r).map fun (t, rest) => (s :: t, rest)

def escapes : List (Char × Char) := [
  ('\\', '\\'), ('\'', '\''), ('"', '"'), ('a', '\x07'), ('b', '\x08'), ('f', '\x0c'), ('n', '\n'),
  ('r', '\r'), ('t', '\t'), ('v', '\x0b')]

/-- Resolves the escapes of the letters in `allowed`. -/
def unescape (allowed : String) : Text → Text
  | .char '\\' :: .char c :: r =>
    if allowed.toList.contains c then
      .char ((escapes.lookup c).getD c) :: unescape allowed r
    else .char '\\' :: unescape allowed (.char c :: r)
  | s :: r => s :: unescape allowed r
  | [] => []
termination_by t => t.length

/-- The text before a comment: a sharp sign after a blank. -/
def beforeComment : Text → Text
  | s :: .char '#' :: r => if s.isBlank then [] else s :: beforeComment (.char '#' :: r)
  | s :: r => s :: beforeComment r
  | [] => []

/-- A value after the sign before it. A comment may stand in its place, after a gap. -/
def readValue (t : Text) : Option (Text × Text) :=
  match skipGap t with
  | [] => some ([], [])
  | .char '#' :: r => if t.head?.any isLineGap then some ([], .char '#' :: r) else unquoted t
  | .char '\'' :: r => (quotedFrom '\'' r).map fun (v, rest) => (unescape "\\'" v, rest)
  | .char '"' :: r => (quotedFrom '"' r).map fun (v, rest) => (unescape "\\'\"abfnrtv" v, rest)
  | t => unquoted t
where
  unquoted (t : Text) : Option (Text × Text) :=
    let (v, rest) := t.span (!isLineBreak ·)
    some ((beforeComment v).trimEnd, rest)

/-- What is left after a comment and the end of the line; nothing else may be there. -/
def lineEnd (t : Text) : Option Text :=
  let t := match skipGap t with
    | .char '#' :: r => r.dropWhile (!isLineBreak ·)
    | _ => t
  match skipGap t with
  | [] => some []
  | .char '\r' :: .char '\n' :: r => some r
  | s :: r => if isLineBreak s then some r else none

def skipLine (t : Text) : Text :=
  match t.dropWhile (!isLineBreak ·) with
  | [] => []
  | _ :: r => r

/-- One line: its assignment, if it is one, and the rest of the text. -/
def readLine (t : Text) : Option Assignment × Text :=
  match readName (skipExport t) with
  | none => (none, skipLine (skipExport t))
  | some (name, rest) =>
    let rest := skipGap rest
    let valued : Option (Option Text × Text) := match rest with
      | .char '=' :: r => (readValue r).map fun (v, rest) => (some v, rest)
      | _ => some (none, rest)
    match valued with
    | none => (none, skipLine rest)
    | some (value, rest) =>
      match lineEnd rest with
      | none => (none, skipLine rest)
      | some after => (name.map fun n => ⟨n, value⟩, after)

def readAll : Nat → Text → List Assignment
  | 0, _ => []
  | fuel + 1, t =>
    match t.dropWhile Symbol.isBlank with
    | [] => []
    | t =>
      let (a, rest) := readLine t
      a.toList ++ readAll fuel rest

def read (t : Text) : List Assignment := readAll (t.length + 1) t

/-! References to other names -/

def isNameSymbol (s : Symbol) : Bool := !s.is '\x7d' && !s.is ':'

/-- A reference after its opening brace: the name, the text in its place if it has no value, and
the rest. -/
def reference? (t : Text) : Option (Text × Text × Text) :=
  let (name, rest) := t.span isNameSymbol
  match rest with
  | .char '\x7d' :: r => some (name, [], r)
  | .char ':' :: .char '-' :: r =>
    match r.span (!·.is '\x7d') with
    | (d, _ :: r) => some (name, d, r)
    | _ => none
  | _ => none

/-- Puts the values of the names in the place of references. -/
def expand (valueOf : Text → Option Text) : Nat → Text → Text
  | 0, t => t
  | fuel + 1, t =>
    match t with
    | [] => []
    | .char '$' :: .char '\x7b' :: r =>
      match reference? r with
      | some (name, d, rest) => (valueOf name).getD d ++ expand valueOf fuel rest
      | none => .char '$' :: expand valueOf fuel (.char '\x7b' :: r)
    | s :: r => s :: expand valueOf fuel r

/-- The values of a list of assignments. A name keeps its first place and takes its last value; the
values given so far come before those of the environment. -/
def resolve (environment : Table Text) (as : List Assignment) : Table (Option Text) :=
  as.foldl (fun t a => t.set a.name (a.value.map fun v =>
    expand (fun n => match t.get? n with
      | some known => some (known.getD [])
      | none => environment.get? n) (v.length + 1) v)) {}

end Assignment
end Tangle
