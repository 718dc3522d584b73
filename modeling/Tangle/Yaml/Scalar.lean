import Tangle.Yaml.Cursor

/-! # Scalars

The three ways to write a text: plain, between quotes, and as a block of lines. In each of them a
single line end is folded to a space, except in a literal block. -/
namespace Tangle.Yaml

open Cursor

/-- A folded line end: nothing remains of it if blank lines follow, and each of those is kept. -/
def folded (lineEnd : Char) (blank : List Char) : Text :=
  if lineEnd != '\n' then .char lineEnd :: Text.ofChars blank
  else if blank.isEmpty then [.char ' ']
  else Text.ofChars blank

namespace Plain

/-- Where a plain text stops: at a gap, at a colon before one, and inside brackets at the marks that
divide collections. -/
def stops (inFlow : Bool) (c : Cursor) : Bool :=
  c.gapAt ||
  (c.sees (· == ':') &&
    (c.gapAt 1 || (inFlow && c.sees (fun x => ",[]\x7b\x7d".toList.contains x) 1))) ||
  (inFlow && c.sees fun x => ",?[]\x7b\x7d".toList.contains x)

def word (inFlow : Bool) : Nat → Cursor → List Char × Cursor
  | 0, c => ([], c)
  | n + 1, c =>
    if stops inFlow c then ([], c)
    else
      let (w, c') := word inFlow n c.next
      (c.rest.take 1 ++ w, c')

/-- Blank lines and spaces after a line end; the flag tells that a document ends here. -/
def blankLines : Nat → Cursor → List Char × Cursor × Bool
  | 0, c => ([], c, false)
  | n + 1, c =>
    if c.sees (· == ' ') then blankLines n c.next
    else match c.lineEnd? with
      | none => ([], c, false)
      | some (x, c) =>
        if c.dividerAt then ([x], c, true)
        else
          let (xs, c, stop) := blankLines n c
          (x :: xs, c, stop)

/-- What stands between two words, if anything that joins them does; the flag tells whether a line
end was passed. -/
def gap (c : Cursor) : Option Text × Cursor × Bool :=
  let (spaces, c) := c.takeBy (· == ' ')
  match c.lineEnd? with
  | none => (if spaces.isEmpty then none else some (Text.ofChars spaces), c, false)
  | some (x, c) =>
    if c.dividerAt then (none, c, true)
    else
      let (blank, c, stop) := blankLines (c.rest.length + 1) c
      (if stop then none else some (folded x blank), c, true)

/-- The words of a plain text; the flag tells whether the last thing read is a line end. -/
def wordsFrom (inFlow : Bool) (indent : Nat) : Nat → Text → Bool → Cursor → Text × Cursor × Bool
  | 0, _, newLine, c => ([], c, newLine)
  | n + 1, before, newLine, c =>
    if c.sees (· == '#') then ([], c, newLine)
    else match word inFlow (c.rest.length + 1) c with
      | ([], _) => ([], c, newLine)
      | (w, c) =>
        let here := before ++ Text.ofChars w
        match gap c with
        | (none, c, newLine) => (here, c, newLine)
        | (some between, c, newLine) =>
          if c.sees (· == '#') || (!inFlow && c.column < indent) then (here, c, newLine)
          else
            let (t, c, newLine) := wordsFrom inFlow indent n between newLine c
            (here ++ t, c, newLine)

def scan (inFlow : Bool) (indent : Nat) (c : Cursor) : Text × Cursor × Bool :=
  wordsFrom inFlow indent (c.rest.length + 1) [] false c

end Plain

namespace Quoted

/-- The escapes of one letter. -/
def escapes : List (Char × Char) := [
  ('0', '\x00'), ('a', '\x07'), ('b', '\x08'), ('t', '\t'), ('\t', '\t'), ('n', '\n'),
  ('v', '\x0b'), ('f', '\x0c'), ('r', '\r'), ('e', '\x1b'), (' ', ' '), ('"', '"'), ('\\', '\\'),
  ('/', '/'), ('N', '\u0085'), ('_', '\u00a0'), ('L', '\u2028'), ('P', '\u2029')]

/-- The escapes that give a code point, and their number of digits. -/
def widths : List (Char × Nat) := [('x', 2), ('u', 4), ('U', 8)]

def digit? (c : Char) : Option Nat :=
  if c.isDigit then some (c.toNat - '0'.toNat)
  else if 'a' ≤ c ∧ c ≤ 'f' then some (c.toNat - 'a'.toNat + 10)
  else if 'A' ≤ c ∧ c ≤ 'F' then some (c.toNat - 'A'.toNat + 10)
  else none

def codePoint (ds : List Char) : Option Nat :=
  ds.foldlM (fun n d => (digit? d).map (n * 16 + ·)) 0

/-- The text of a code point. -/
def codePointText (n : Nat) : Except Fault Text :=
  match Symbol.ofCodePoint? n with
  | some s => .ok [s]
  | none => .error (.codePoint (0x80000000 ≤ n))

/-- The line ends at the start of the lines that follow, and the blanks before them. -/
def blankLines : Nat → Cursor → Except Fault (List Char × Cursor)
  | 0, c => .ok ([], c)
  | n + 1, c =>
    if c.dividerAt then .error (.unclosed "text")
    else
      let c := c.skipBy fun x => x == ' ' || x == '\t'
      match c.lineEnd? with
      | none => .ok ([], c)
      | some (x, c) => do
        let (xs, c) ← blankLines n c
        return (x :: xs, c)

def gap (c : Cursor) : Except Fault (Text × Cursor) :=
  let (blanks, c) := c.takeBy fun x => x == ' ' || x == '\t'
  if c.isEnd then .error (.unclosed "text")
  else match c.lineEnd? with
  | none => .ok (Text.ofChars blanks, c)
  | some (x, c) => do
    let (xs, c) ← blankLines (c.rest.length + 1) c
    return (folded x xs, c)

def escape (c : Cursor) : Except Fault (Text × Cursor) :=
  match c.peek with
  | none => .error (.unclosed "text")
  | some x =>
    match escapes.lookup x, widths.lookup x with
    | some y, _ => .ok ([.char y], c.next)
    | none, some w =>
      let ds := c.next.rest.take w
      match if ds.length = w then codePoint ds else none with
      | none => .error (.malformed "escape")
      | some n => (·, c.next.skip w) <$> codePointText n
    | none, none =>
      match c.lineEnd? with
      | none => .error (.malformed "escape")
      | some (_, c) => do
        let (xs, c) ← blankLines (c.rest.length + 1) c
        return (Text.ofChars xs, c)

/-- The text up to the closing quote. -/
def scanFrom (mark : Char) : Nat → Cursor → Except Fault (Text × Cursor)
  | 0, _ => .error (.unclosed "text")
  | n + 1, c =>
    match c.peek with
    | none => .error (.unclosed "text")
    | some x => do
      if x == ' ' || x == '\t' || isBreak x then
        let (t, c) ← gap c
        let (u, c) ← scanFrom mark n c
        return (t ++ u, c)
      else if x == mark then
        if mark == '\'' && c.sees (· == '\'') 1 then
          let (u, c) ← scanFrom mark n (c.skip 2)
          return (.char '\'' :: u, c)
        else return ([], c.next)
      else if mark == '"' && x == '\\' then
        let (t, c) ← escape c.next
        let (u, c) ← scanFrom mark n c
        return (t ++ u, c)
      else
        let (u, c) ← scanFrom mark n c.next
        return (.char x :: u, c)

def scan (mark : Char) (c : Cursor) : Except Fault (Text × Cursor) :=
  scanFrom mark (c.rest.length + 1) c.next

end Quoted

namespace BlockText

/-- What is kept of the line ends after the last line. -/
inductive Chomp where
  | clip
  | strip
  | keep
deriving DecidableEq, Repr

def chomp? (c : Cursor) : Option (Chomp × Cursor) :=
  match c.peek with
  | some '+' => some (.keep, c.next)
  | some '-' => some (.strip, c.next)
  | _ => none

def increment? (c : Cursor) : Option (Nat × Cursor) :=
  match c.peek with
  | some x => if x.isDigit then some (x.toNat - '0'.toNat, c.next) else none
  | none => none

/-- The chomping and the explicit indentation, in either order. -/
def header (c : Cursor) : Except Fault (Chomp × Option Nat × Cursor) :=
  let (chomp, increment, c) := match chomp? c with
    | some (h, c) => match increment? c with
      | some (i, c) => (h, some i, c)
      | none => (h, none, c)
    | none => match increment? c with
      | some (i, c) => match chomp? c with
        | some (h, c) => (h, some i, c)
        | none => (Chomp.clip, some i, c)
      | none => (Chomp.clip, none, c)
  if increment = some 0 || !c.spaceAt then .error (.malformed "block header")
  else .ok (chomp, increment, c)

/-- Blank lines before the first line, and the deepest column that their spaces reach. -/
def leading : Nat → Cursor → List Char × Nat × Cursor
  | 0, c => ([], 0, c)
  | n + 1, c =>
    if c.sees (· == ' ') then
      let (xs, deepest, c') := leading n c.next
      (xs, max deepest c.next.column, c')
    else match c.lineEnd? with
      | none => ([], 0, c)
      | some (x, c) =>
        let (xs, deepest, c) := leading n c
        (x :: xs, deepest, c)

def toColumn (indent : Nat) (c : Cursor) : Cursor :=
  c.skip (min (indent - c.column) (c.rest.takeWhile (· == ' ')).length)

/-- Blank lines, and the indentation of the line after them. -/
def blankLines (indent : Nat) : Nat → Cursor → List Char × Cursor
  | 0, c => ([], c)
  | n + 1, c =>
    let c := toColumn indent c
    match c.lineEnd? with
    | none => ([], c)
    | some (x, c) =>
      let (xs, c) := blankLines indent n c
      (x :: xs, c)

def isOpenLine (c : Cursor) : Bool := !c.sees (fun x => x == ' ' || x == '\t')

/-- The lines of the block. The line end before a line is folded if both lines start without a
blank. -/
def linesFrom (folds : Bool) (indent : Nat) (chomp : Chomp) : Nat → List Char → Cursor → Text × Cursor
  | 0, _, c => ([], c)
  | n + 1, blank, c =>
    let isOpen := isOpenLine c
    let (line, c) := c.takeBy (!isBreak ·)
    let (lineEnd, c) := match c.lineEnd? with
      | some (x, c) => ([x], c)
      | none => ([], c)
    let (after, c) := blankLines indent (c.rest.length + 1) c
    let here := Text.ofChars (blank ++ line)
    if c.column == indent && !c.isEnd then
      let joint : Text :=
        if folds && lineEnd == ['\n'] && isOpen && isOpenLine c then
          if after.isEmpty then " " else []
        else Text.ofChars lineEnd
      let (t, c) := linesFrom folds indent chomp n after c
      (here ++ joint ++ t, c)
    else match chomp with
      | .strip => (here, c)
      | .clip => (here ++ Text.ofChars lineEnd, c)
      | .keep => (here ++ Text.ofChars (lineEnd ++ after), c)

/-- A block after its mark; `parent` is the least column that its lines may start at. -/
def scan (folds : Bool) (parent : Nat) (c : Cursor) : Except Fault (Text × Cursor) := do
  let (chomp, increment, c) ← header c.next
  let c ← c.restOfLine "block header"
  let least := max parent 1
  let (blank, indent, c) := match increment with
    | some i =>
      let indent := least + i - 1
      let (blank, c) := blankLines indent (c.rest.length + 1) c
      (blank, indent, c)
    | none =>
      let (blank, deepest, c) := leading (c.rest.length + 1) c
      (blank, max least deepest, c)
  if c.column == indent && !c.isEnd then
    return linesFrom folds indent chomp (c.rest.length + 1) blank c
  else return (if chomp = .keep then Text.ofChars blank else [], c)

end BlockText
end Tangle.Yaml
