import Tangle.Shell.Command
import Tangle.Table

/-! # Reading source text

What is left of a source text, with the here-documents read so far and those whose text is still to
come. `kept` is the text of the word that is being read, backwards: it is the source but for the
commands in it, which are laid out anew. The name of an alias is replaced by its text before what follows
is read; inside its own text it is left as it is. -/
namespace Tangle.Shell

/-- What is wrong with a source text, with the line at which it was found. -/
inductive ParseFault where
  | ended (line : Nat)
  | unclosed (closer : Text) (line : Nat)
  | unexpected (token : Text) (line : Nat) (text : Text)
  /-- A fault in a condition, with its message. -/
  | condition (message : Text) (near : Text) (line : Nat) (text : Text)
  /-- A fault between the parentheses of an assignment, which spoils no more than its unit. -/
  | inArray (f : ParseFault)
  /-- A fault inside a command substitution, which is the end of the shell. -/
  | inSubstitution (f : ParseFault)
deriving DecidableEq, Repr

/-- A here-document whose text begins on the next line. -/
structure Awaited where
  number : Nat
  delimiter : Text
  isQuoted : Bool
  stripsTabs : Bool
  line : Nat
deriving DecidableEq, Repr

structure Source where
  rest : Text
  /-- At least as long as the rest. -/
  size : Nat
  line : Nat := 1
  /-- What was left at the start of the line. -/
  start : Text := rest
  kept : Text := []
  documents : HereDocuments := []
  awaited : List Awaited := []
  count : Nat := 0
  hasGroups : Bool := false
  /-- The aliases that are replaced. -/
  aliases : Table Text := {}
  /-- The aliases in whose text the rest begins, each with what is left behind it. -/
  uses : List (Text × Nat) := []
  /-- What is left behind an alias after which another may stand. -/
  expandsAt : Option Nat := none
  /-- Here-documents that were not ended: the lines where they and the source end, and the delimiters. -/
  unended : List (Nat × Nat × Text) := []

def Source.ofText (t : Text) : Source := { rest := t, size := t.length }

abbrev Read := ExceptT ParseFault (StateM Source)

namespace Read

def rest : Read Text := do return (← get).rest

def peek : Read (Option Symbol) := do return (← get).rest.head?

def peekIs (c : Char) : Read Bool := do return (← get).rest.head?.any (·.is c)

/-- Whether the rest begins with a text. -/
def isAt (t : String) : Read Bool := do return (← get).rest.startsWith t

def countLines (t : Text) : Nat := t.foldl (fun n s => if s = Symbol.newline then n + 1 else n) 0

/-- A source without its first `n` symbols. -/
def behind (s : Source) : Nat → Text → (line : Nat) → (start : Text) → Source
  | 0, r, line, start => { s with rest := r, line, start }
  | _, [], line, start => { s with rest := [], line, start }
  | n + 1, a :: r, line, start =>
    if a = Symbol.newline then behind s n r (line + 1) r else behind s n r line start

/-- Passes over `n` symbols. -/
def drop (n : Nat) : Read Unit := modify fun s => behind s n s.rest s.line s.start

def keep (t : Text) : Read Unit := modify fun s => { s with kept := t.reverse ++ s.kept }

/-- Passes over `n` symbols of a word. -/
def take (n : Nat) : Read Text := do
  let t := (← get).rest.take n
  keep t
  drop n
  return t

/-- The symbols of class `p` from here on, without passing over them. -/
def ahead (p : Symbol → Bool) : Read Text := do return (← get).rest.takeWhile p

/-- Reads with nothing kept before, and gives what was kept beside the result. -/
def keeping {α : Type} (r : Read α) : Read (Text × α) := do
  let before := (← get).kept
  modify fun s => { s with kept := [] }
  let a ← r
  let kept := (← get).kept.reverse
  modify fun s => { s with kept := before }
  return (kept, a)

/-- Reads if it can, and otherwise leaves the source where it is. -/
def attempt {α : Type} (r : Read α) : Read (Option α) := fun s =>
  match r s with
  | (.ok a, s') => (.ok (some a), s')
  | (.error _, _) => (.ok none, s)

/-- Reads, with a fault changed. -/
def refaulted {α : Type} (f : ParseFault → ParseFault) (r : Read α) : Read α := fun s =>
  match r s with
  | (.error e, s') => (.error (f e), s')
  | o => o

/-- Reads a text of its own, with the numbers of here-documents going on. -/
def inside {α : Type} (t : Text) (r : Read α) : Read α := do
  let outer ← get
  set { outer with rest := t, start := t, kept := [], awaited := [], uses := [] }
  let a ← r
  let inner ← get
  set { outer with documents := inner.documents, count := inner.count }
  return a

end Read

def isSpace (s : Symbol) : Bool := s.is ' ' || s.is '\t'

/-- Holds of the symbols that end a word unless they are quoted. -/
def isMeta (s : Symbol) : Bool := s.isAnyOf " \t\n;&|<>()"

/-- Holds of the symbols that a plain word consists of. -/
def isPlain (s : Symbol) : Bool := !isMeta s && !s.isAnyOf "\"'\\$\x60"

namespace Read

/-- Passes over blanks, continued lines and a comment. -/
def skipBlanks : Nat → Read Unit
  | 0 => pure ()
  | n + 1 => do
    match (← get).rest with
    | .char '\\' :: .char '\n' :: _ => drop 2; skipBlanks n
    | .char '#' :: r => drop (r.takeWhile (· ≠ Symbol.newline)).length.succ
    | s :: _ => if isSpace s then drop 1; skipBlanks n
    | [] => pure ()

def blanks : Read Unit := do skipBlanks ((← get).size + 1)

/-- The plain word that begins here, if it ends before a symbol that ends words. -/
def plainWord : Read (Option Text) := do
  let w ← ahead isPlain
  match ((← get).rest.drop w.length).head? with
  | some s => return if isMeta s && !w.isEmpty then some w else none
  | none => return if w.isEmpty then none else some w

def isAtWord (t : String) : Read Bool := do return (← plainWord) = some (Text.ofString t)

/-- Whether a word begins here. -/
def isAtWordStart : Read Bool := do
  match (← get).rest with
  | a :: b :: _ => return !isMeta a || ((a.is '<' || a.is '>') && b.is '(')
  | [a] => return !isMeta a
  | [] => return false

/-! Faults -/

/-- The line on which the end of the source is found. -/
def endLine : Read Nat := do
  let s ← get
  return if s.start.isEmpty then s.line else s.line + 1

def ended {α : Type} : Read α := do throw (.ended (← endLine))

/-- The signs that stand for themselves, each before those that it begins with. -/
def operators : List String := [
  ";;&", "<<<", "<<-", "&>>", "&&", "||", ">>", "<<", "<&", ">&", ";;", ";&", "&>", "<>", ">|", "|&",
  ">", "<", "|", "(", ")", ";", "&"]

/-- The rest of a word as it is written, up to a symbol that ends it outside quotation marks. -/
def writtenWord : Nat → Text → Text
  | 0, _ => []
  | _, [] => []
  | n + 1, .char '\\' :: s :: t => .char '\\' :: s :: writtenWord n t
  | n + 1, .char '\'' :: t =>
    let u := t.takeWhile (!·.is '\'')
    .char '\'' :: u ++ (t.drop u.length).take 1 ++ writtenWord n (t.drop (u.length + 1))
  | n + 1, .char '"' :: t =>
    let u := t.takeWhile (!·.is '"')
    .char '"' :: u ++ (t.drop u.length).take 1 ++ writtenWord n (t.drop (u.length + 1))
  | n + 1, s :: t => if isMeta s then [] else s :: writtenWord n t

/-- The token at the start of a text. -/
def tokenOf (t : Text) : Text :=
  match t with
  | [] => []
  | s :: _ =>
    if s = Symbol.newline then "newline"
    else match operators.find? fun (o : String) => t.startsWith o with
      | some o => o
      | none => writtenWord (t.length + 1) t

def lineText (t : Text) : Text := t.takeWhile (· ≠ Symbol.newline)

/-- Fails over the token that stands here. -/
def unexpectedHere {α : Type} : Read α := do
  blanks
  let s ← get
  match s.rest with
  | [] => ended
  | r => throw (.unexpected (tokenOf r) s.line (lineText s.start))

/-- Fails over the token that stands where a word must be; the end of the text counts as the end of a line. -/
def noWordHere {α : Type} : Read α := do
  blanks
  let s ← get
  if s.rest.isEmpty then throw (.unexpected "newline" s.line (lineText s.start)) else unexpectedHere

def expect (t : String) : Read Unit := do
  if ← isAt t then drop t.length else unexpectedHere

/-- Passes over the word `t`. -/
def keyword (t : String) : Read Unit := do
  blanks
  if ← isAtWord t then drop t.length else unexpectedHere

/-! Aliases -/

/-- Whether an alias is being replaced in whose text the rest begins. -/
def isInUse (s : Source) (name : Text) : Bool :=
  let left := s.rest.length
  s.uses.any fun u => u.1 = name && u.2 < left

/-- Replaces an alias that stands here, if there is one. -/
def aliased : Read Bool := do
  let s ← get
  if s.aliases.toList.isEmpty then return false
  match ← plainWord with
  | none => return false
  | some w =>
    match s.aliases.get? w with
    | none => return false
    | some value =>
      if isInUse s w then return false
      let after := s.rest.drop w.length
      let left := after.length
      let text := value ++ [Symbol.char ' ']
      set { s with
        rest := text ++ after, size := s.size + text.length
        uses := (w, left) :: s.uses.filter fun u => u.2 ≤ left
        expandsAt := if value.getLast?.any isSpace then some left else s.expandsAt }
      return true

/-- Whether the text of an alias that ends in a blank has just ended, so that an alias may follow. -/
def isBehindAlias : Read Bool := do
  let s ← get
  match s.expandsAt with
  | none => return false
  | some left =>
    if s.rest.length ≤ left then
      set { s with expandsAt := none }
      return true
    return false

end Read

/-- A text without its quotation marks, and whether it had any. -/
def unquote : Text → Text × Bool
  | [] => ([], false)
  | .char '\\' :: .char '\n' :: t => unquote t
  | .char '\\' :: s :: t => (s :: (unquote t).1, true)
  | .char '\'' :: t => (go '\'' t, true)
  | .char '"' :: t => (go '"' t, true)
  | s :: t => let (r, q) := unquote t; (s :: r, q)
where
  /-- Inside the quotation mark `q`. -/
  go (q : Char) : Text → Text
    | [] => []
    | .char '\\' :: s :: t =>
      if q = '"' && s.isAnyOf "$\x60\"\\" then s :: go q t
      else if q = '"' then .char '\\' :: s :: go q t
      else if s.is '\'' then .char '\\' :: (unquote t).1
      else .char '\\' :: s :: go q t
    | s :: t => if s.is q then (unquote t).1 else s :: go q t

end Tangle.Shell
