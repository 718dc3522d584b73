import Tangle.Text.Basic

/-! # Positions in a YAML text

A cursor is the rest of the text with the line and column that it starts at. Five characters end a
line; two of them stand for themselves where lines are folded. -/
namespace Tangle.Yaml

inductive Fault where
  | unreadable (c : Char)
  | misplaced (c : Option Char)
  | unclosed (what : String)
  | malformed (what : String)
  | expected (what : String)
  | anchor (name : Text)
  | tag (name : Text)
  | key
  | merge
  | secondDocument
  /-- An escape beyond the last code point; whether it is beyond all machine integers too. -/
  | codePoint (isHuge : Bool)
deriving DecidableEq, Repr

def Fault.message : Fault → Text
  | unreadable _ => "special characters are not allowed"
  | misplaced (some c) => "found character " ++ ([Symbol.char c] : Text) ++ " out of place"
  | misplaced none => "found the end of the text out of place"
  | unclosed what => "found an unclosed " ++ Text.ofString what
  | malformed what => "found a malformed " ++ Text.ofString what
  | expected what => "expected " ++ Text.ofString what
  | anchor n => "found an alias or anchor out of place: " ++ n
  | tag n => "found an unknown tag: " ++ n
  | key => "found a key that is a collection"
  | merge => "expected a mapping to merge"
  | secondDocument => "expected a single document"
  | codePoint _ => "found a code point beyond the last one"

def isBreak (c : Char) : Bool :=
  c == '\n' || c == '\r' || c == '\u0085' || c == '\u2028' || c == '\u2029'

/-- The characters that a text may hold. -/
def isReadable (c : Char) : Bool :=
  let n := c.toNat
  n == 0x09 || n == 0x0A || n == 0x0D || (0x20 ≤ n && n ≤ 0x7E) || n == 0x85 ||
  (0xA0 ≤ n && n ≤ 0xFFFD) || 0x10000 ≤ n

def isMark (c : Char) : Bool := c == '\ufeff'

structure Cursor where
  rest : List Char
  index : Nat := 0
  line : Nat := 0
  column : Nat := 0
deriving Repr

namespace Cursor

def peek (c : Cursor) (n : Nat := 0) : Option Char := c.rest[n]?

/-- Holds of the character `n` places on, and of the end if `atEnd` does. -/
def sees (c : Cursor) (p : Char → Bool) (n : Nat := 0) (atEnd : Bool := false) : Bool :=
  (c.peek n).elim atEnd p

def isEnd (c : Cursor) : Bool := c.rest.isEmpty

def pass (c : Cursor) (x : Char) (rest : List Char) : Cursor :=
  if isBreak x && !(x == '\r' && rest.head? == some '\n') then ⟨rest, c.index + 1, c.line + 1, 0⟩
  else ⟨rest, c.index + 1, c.line, if isMark x then c.column else c.column + 1⟩

def next (c : Cursor) : Cursor :=
  match c.rest with
  | [] => c
  | x :: rest => c.pass x rest

def skip : Nat → Cursor → Cursor
  | 0, c => c
  | n + 1, c => skip n c.next

/-- The characters from here on that satisfy `p`, and the cursor after them. -/
def takeBy (p : Char → Bool) (c : Cursor) : List Char × Cursor :=
  let taken := c.rest.takeWhile p
  (taken, c.skip taken.length)

def skipBy (p : Char → Bool) (c : Cursor) : Cursor := (c.takeBy p).2

def skipSpaces (c : Cursor) : Cursor := c.skipBy (· == ' ')

/-- Passes the end of a line, with the character that it counts as. -/
def lineEnd? (c : Cursor) : Option (Char × Cursor) :=
  match c.rest with
  | '\r' :: '\n' :: _ => some ('\n', c.skip 2)
  | x :: _ =>
    if x == '\u2028' || x == '\u2029' then some (x, c.next)
    else if isBreak x then some ('\n', c.next)
    else none
  | [] => none

def skipLineEnd (c : Cursor) : Cursor := (c.lineEnd?.map (·.2)).getD c

/-- A blank, the end of a line or the end of the text stands `n` places on. -/
def gapAt (c : Cursor) (n : Nat := 0) : Bool :=
  c.sees (fun x => x == ' ' || x == '\t' || isBreak x) n true

/-- As `gapAt`, but a tab does not count. -/
def spaceAt (c : Cursor) : Bool := c.sees (fun x => x == ' ' || isBreak x) 0 true

def lineEndAt (c : Cursor) : Bool := c.sees isBreak 0 true

/-- One of the three-character lines that divide documents stands here. -/
def dividerAt (c : Cursor) : Bool :=
  let head := c.rest.take 3
  (head == ['-', '-', '-'] || head == ['.', '.', '.']) && c.gapAt 3

/-- Spaces and a comment up to the end of a line, and the line end. -/
def restOfLine (what : String) (c : Cursor) : Except Fault Cursor :=
  let c := c.skipSpaces
  let c := if c.sees (· == '#') then c.skipBy (!isBreak ·) else c
  if c.lineEndAt then .ok c.skipLineEnd else .error (.malformed what)

end Cursor
end Tangle.Yaml
