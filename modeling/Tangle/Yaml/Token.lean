import Tangle.Yaml.Scalar
import Tangle.Text.Utf8

/-! # Tokens

A text as a list of tokens. Indentation is made explicit: block collections are opened and closed by
tokens of their own. A key in one line is recognised only at the colon after it, so the token that
announces it is put in front of what has been read since the key began. -/
namespace Tangle.Yaml

inductive Directive where
  | version (major : Nat)
  | handle (name stem : Text)
  | other
deriving DecidableEq, Repr

inductive Token where
  | directive (d : Directive)
  | documentStart
  | documentEnd
  | openSequence
  | openMapping
  | close
  | openBracket
  | closeBracket
  | openBrace
  | closeBrace
  | item
  | comma
  | key
  | value
  | alias (name : Text)
  | anchor (name : Text)
  | tag (handle : Option Text) (suffix : Text)
  | scalar (t : Text) (isPlain : Bool)
deriving DecidableEq, Repr

namespace Lexical

def isWordChar (c : Char) : Bool := c.isAlphanum || c == '-' || c == '_'

def isUriChar (c : Char) : Bool := c.isAlphanum || "-;/?:@&=+$,_.!~*'()[]".toList.contains c

def byteOf (a b : Char) : Option UInt8 := do
  return ((← Quoted.digit? a) * 16 + (← Quoted.digit? b)).toUInt8

/-- The bytes of the percent escapes that stand here. -/
def escapedBytes : Nat → Cursor → Except Fault (Bytes × Cursor)
  | 0, c => .ok ([], c)
  | n + 1, c =>
    match c.rest with
    | '%' :: a :: b :: _ =>
      match byteOf a b with
      | none => .error (.malformed "escape")
      | some x => do
        let (xs, c) ← escapedBytes n (c.skip 3)
        return (x :: xs, c)
    | '%' :: _ => .error (.malformed "escape")
    | _ => .ok ([], c)

/-- A run of percent escapes has to be the encoding of characters. -/
def uriFrom : Nat → Cursor → Except Fault (Text × Cursor)
  | 0, c => .ok ([], c)
  | n + 1, c => do
    if c.sees (· == '%') then
      let (bytes, c) ← escapedBytes (c.rest.length + 1) c
      match (Text.decode bytes).chars? with
      | none => .error (.malformed "escape")
      | some cs =>
        let (t, c) ← uriFrom n c
        return (Text.ofChars cs ++ t, c)
    else if c.sees isUriChar then
      let (t, c') ← uriFrom n c.next
      return (Text.ofChars (c.rest.take 1) ++ t, c')
    else return ([], c)

def uri (c : Cursor) : Except Fault (Text × Cursor) := do
  let (t, c) ← uriFrom (c.rest.length + 1) c
  if t.isEmpty then .error (.malformed "tag") else return (t, c)

/-- A tag handle: an exclamation mark, or a word between two of them. -/
def handle (c : Cursor) : Except Fault (Text × Cursor) :=
  if !c.sees (· == '!') then .error (.malformed "tag")
  else if c.sees (· == ' ') 1 then .ok ("!", c.next)
  else
    let (w, c) := c.next.takeBy isWordChar
    if c.sees (· == '!') then .ok (.char '!' :: Text.ofChars w ++ [.char '!'], c.next)
    else .error (.malformed "tag")

/-- Whether an exclamation mark follows before the next space. -/
def hasHandle (c : Cursor) : Bool :=
  (c.next.rest.takeWhile fun x => x != ' ' && !isBreak x).contains '!'

def tag (c : Cursor) : Except Fault (Token × Cursor) := do
  let (t, c) ←
    if c.sees (· == '<') 1 then do
      let (u, c) ← uri (c.skip 2)
      if c.sees (· == '>') then pure (Token.tag none u, c.next) else .error (.malformed "tag")
    else if c.gapAt 1 then pure (Token.tag none "!", c.next)
    else do
      let (h, c) ← if hasHandle c then handle c else pure (("!" : Text), c.next)
      let (u, c) ← uri c
      pure (Token.tag (some h) u, c)
  if c.spaceAt then return (t, c) else .error (.malformed "tag")

def number (c : Cursor) : Except Fault (Nat × Cursor) :=
  match c.takeBy Char.isDigit with
  | ([], _) => .error (.malformed "directive")
  | (ds, c) => .ok (ds.foldl (fun n d => n * 10 + (d.toNat - '0'.toNat)) 0, c)

def version (c : Cursor) : Except Fault (Directive × Cursor) := do
  let (major, c) ← number c.skipSpaces
  if !c.sees (· == '.') then .error (.malformed "directive")
  else
    let (_, c) ← number c.next
    if c.spaceAt then return (.version major, c) else .error (.malformed "directive")

def handleDirective (c : Cursor) : Except Fault (Directive × Cursor) := do
  let (h, c) ← handle c.skipSpaces
  if !c.sees (· == ' ') then .error (.malformed "directive")
  else
    let (u, c) ← uri c.skipSpaces
    if c.spaceAt then return (.handle h u, c) else .error (.malformed "directive")

def directive (c : Cursor) : Except Fault (Token × Cursor) := do
  let (name, c) := c.next.takeBy isWordChar
  if name.isEmpty || !c.spaceAt then .error (.malformed "directive")
  else
    let (d, c) ←
      if name = "YAML".toList then version c
      else if name = "TAG".toList then handleDirective c
      else pure (Directive.other, c.skipBy (!isBreak ·))
    let c ← c.restOfLine "directive"
    return (.directive d, c)

/-- The name after the mark of an anchor or alias. -/
def anchorName (c : Cursor) : Except Fault (Text × Cursor) :=
  let (name, c) := c.next.takeBy isWordChar
  if name.isEmpty || !(c.gapAt || c.sees fun x => "?:,]\x7d%@\x60".toList.contains x) then
    .error (.malformed "anchor")
  else .ok (Text.ofChars name, c)

/-- Spaces, comments and line ends; the flag tells whether a line end was among them. -/
def toNextToken : Nat → Cursor → Cursor × Bool
  | 0, c => (c, false)
  | n + 1, c =>
    let c := c.skipSpaces
    let c := if c.sees (· == '#') then c.skipBy (!isBreak ·) else c
    match c.lineEnd? with
    | none => (c, false)
    | some (_, c) => ((toNextToken n c).1, true)

end Lexical

/-- A place where a key may have begun: the number of tokens before it, and where it stands. -/
structure KeyMark where
  position : Nat
  isRequired : Bool
  start : Cursor

/-- `indents` are the columns of the open block collections, the innermost first; `level` counts
the open brackets, and `marks` holds at most one place for each level. -/
structure Lexer where
  cursor : Cursor
  tokens : Array Token := #[]
  level : Nat := 0
  indents : List Nat := []
  keyAllowed : Bool := true
  marks : List (Nat × KeyMark) := []

namespace Lexer

/-- The longest text that can be a key in one line. -/
def longestKey : Nat := 1024

def inFlow (l : Lexer) : Bool := 0 < l.level

/-- The least column of what belongs to the innermost block collection. -/
def innerColumn (l : Lexer) : Nat := (l.indents.head?.map (· + 1)).getD 0

def push (l : Lexer) (t : Token) : Lexer := { l with tokens := l.tokens.push t }

def insert (l : Lexer) (i : Nat) (t : Token) : Lexer :=
  { l with tokens := l.tokens.insertIdxIfInBounds i t }

def moveTo (l : Lexer) (c : Cursor) : Lexer := { l with cursor := c }

/-- A token of `n` characters. -/
def symbol (l : Lexer) (t : Token) (n : Nat := 1) : Lexer := (l.push t).moveTo (l.cursor.skip n)

def forget (l : Lexer) : Lexer := { l with marks := l.marks.filter (·.1 != l.level) }

/-- Drops the mark of this level. A mark that has to become a key cannot be dropped. -/
def dropMark (l : Lexer) : Except Fault Lexer :=
  if (l.marks.lookup l.level).any (·.isRequired) then .error (.misplaced l.cursor.peek)
  else .ok l.forget

def isStale (l : Lexer) (m : KeyMark) : Bool :=
  m.start.line != l.cursor.line || longestKey < l.cursor.index - m.start.index

/-- Drops the marks that are too far back. -/
def dropStale (l : Lexer) : Except Fault Lexer :=
  if l.marks.any fun m => l.isStale m.2 && m.2.isRequired then .error (.misplaced l.cursor.peek)
  else .ok { l with marks := l.marks.filter fun m => !l.isStale m.2 }

/-- Marks this place as the possible begin of a key. In a block, a text in the column of the
collection has to be a key. -/
def markKey (l : Lexer) : Except Fault Lexer :=
  if !l.keyAllowed then .ok l
  else do
    let isRequired := !l.inFlow && l.indents.head? = some l.cursor.column
    let l ← l.dropMark
    return { l with marks := (l.level, ⟨l.tokens.size, isRequired, l.cursor⟩) :: l.marks }

/-- Closes the block collections that are indented more than a column. -/
def closeTo (l : Lexer) (keeps : Nat → Bool) : Lexer :=
  let closed := l.indents.takeWhile (!keeps ·)
  { l with
    tokens := closed.foldl (fun ts _ => ts.push .close) l.tokens
    indents := l.indents.drop closed.length }

def deepens (l : Lexer) (column : Nat) : Bool := l.indents.head?.all (· < column)

/-- Opens a block collection at the cursor if it is indented more than the innermost one. -/
def openAt (l : Lexer) (t : Token) : Lexer :=
  if l.deepens l.cursor.column then
    { l.push t with indents := l.cursor.column :: l.indents }
  else l

def outside (l : Lexer) : Except Fault Lexer := do
  let l ← (l.closeTo fun _ => false).dropMark
  return { l with keyAllowed := false }

def openFlow (l : Lexer) (t : Token) : Except Fault Lexer := do
  let l ← l.markKey
  return { l.symbol t with level := l.level + 1, keyAllowed := true }

def closeFlow (l : Lexer) (t : Token) : Except Fault Lexer := do
  let l ← l.dropMark
  if l.level = 0 then .error (.misplaced l.cursor.peek)
  else return { l.symbol t with level := l.level - 1, keyAllowed := false }

def comma (l : Lexer) : Except Fault Lexer := do
  let l ← l.dropMark
  return { l.symbol .comma with keyAllowed := true }

def item (l : Lexer) : Except Fault Lexer := do
  if !l.inFlow && !l.keyAllowed then .error (.misplaced (some '-'))
  else
    let l := if l.inFlow then l else l.openAt .openSequence
    let l ← l.dropMark
    return { l.symbol .item with keyAllowed := true }

def key (l : Lexer) : Except Fault Lexer := do
  if !l.inFlow && !l.keyAllowed then .error (.misplaced (some '?'))
  else
    let l := if l.inFlow then l else l.openAt .openMapping
    let l ← l.dropMark
    return { l.symbol .key with keyAllowed := !l.inFlow }

def value (l : Lexer) : Except Fault Lexer := do
  match l.marks.lookup l.level with
  | some m =>
    let l := l.forget.insert m.position .key
    let l :=
      if !l.inFlow && l.deepens m.start.column then
        { l.insert m.position .openMapping with indents := m.start.column :: l.indents }
      else l
    return { l.symbol .value with keyAllowed := false }
  | none =>
    if !l.inFlow && !l.keyAllowed then .error (.misplaced (some ':'))
    else
      let l := if l.inFlow then l else l.openAt .openMapping
      return { l.symbol .value with keyAllowed := !l.inFlow }

/-- A token that may be the begin of a key. -/
def content (l : Lexer) (scan : Cursor → Except Fault (Token × Cursor)) : Except Fault Lexer := do
  let l ← l.markKey
  let (t, c) ← scan l.cursor
  return { (l.push t).moveTo c with keyAllowed := false }

def plain (l : Lexer) : Except Fault Lexer := do
  let l ← l.markKey
  let (t, c, newLine) := Plain.scan l.inFlow l.innerColumn l.cursor
  return { (l.push (.scalar t true)).moveTo c with keyAllowed := newLine }

def block (l : Lexer) (folds : Bool) : Except Fault Lexer := do
  let l ← l.dropMark
  let (t, c) ← BlockText.scan folds l.innerColumn l.cursor
  return { (l.push (.scalar t false)).moveTo c with keyAllowed := true }

/-- No plain text begins with one of these, except that three of them may if no gap follows. -/
def isIndicator (c : Char) : Bool := "-?:,[]\x7b\x7d#&*!|>'\"%@\x60".toList.contains c

def startsPlain (l : Lexer) (x : Char) : Bool :=
  !(l.cursor.gapAt || isIndicator x) ||
  (!l.cursor.gapAt 1 && (x == '-' || (!l.inFlow && (x == '?' || x == ':'))))

/-- Reads the token that begins with a character. -/
def read (l : Lexer) (x : Char) : Except Fault Lexer := do
  let c := l.cursor
  let firstColumn := c.column == 0
  let marks := l.inFlow || c.gapAt 1
  if x == '%' && firstColumn then
    let l ← l.outside
    let (t, c) ← Lexical.directive l.cursor
    return (l.push t).moveTo c
  else if x == '-' && firstColumn && c.dividerAt then return (← l.outside).symbol .documentStart 3
  else if x == '.' && firstColumn && c.dividerAt then return (← l.outside).symbol .documentEnd 3
  else if x == '[' then l.openFlow .openBracket
  else if x == '\x7b' then l.openFlow .openBrace
  else if x == ']' then l.closeFlow .closeBracket
  else if x == '\x7d' then l.closeFlow .closeBrace
  else if x == ',' then l.comma
  else if x == '-' && c.gapAt 1 then l.item
  else if x == '?' && marks then l.key
  else if x == ':' && marks then l.value
  else if x == '*' then
    l.content fun c => (fun (n, c) => (Token.alias n, c)) <$> Lexical.anchorName c
  else if x == '&' then
    l.content fun c => (fun (n, c) => (Token.anchor n, c)) <$> Lexical.anchorName c
  else if x == '!' then l.content Lexical.tag
  else if (x == '|' || x == '>') && !l.inFlow then l.block (x == '>')
  else if x == '\'' || x == '"' then
    l.content fun c => (fun (t, c) => (Token.scalar t false, c)) <$> Quoted.scan x c
  else if l.startsPlain x then l.plain
  else .error (.misplaced (some x))

/-- Reads the next token; whether the text goes on. -/
def advance (l : Lexer) : Except Fault (Lexer × Bool) := do
  let (c, newLine) := Lexical.toNextToken (l.cursor.rest.length + 1) l.cursor
  let l := { l with cursor := c, keyAllowed := l.keyAllowed || (newLine && !l.inFlow) }
  let l ← l.dropStale
  let l := if l.inFlow then l else l.closeTo (· ≤ c.column)
  match c.peek with
  | none => return (← l.outside, false)
  | some x => return (← l.read x, true)

/-- The number of tokens that are settled: no key can begin before any of them. -/
def settled (l : Lexer) : Nat :=
  (l.marks.map (·.2.position)).foldl min l.tokens.size

/-- Reads up to the end or the first fault, and gives the tokens that are settled by then. -/
def readAll : Nat → Lexer → List Token × Option Fault
  | 0, l => (l.tokens.toList, none)
  | n + 1, l =>
    match l.advance with
    | .error f => (l.tokens.toList.take l.settled, some f)
    | .ok (l, true) => readAll n l
    | .ok (l, false) => (l.tokens.toList, none)

end Lexer

/-- The tokens of a text up to its first fault, and this fault. -/
def Token.scan (cs : List Char) : List Token × Option Fault :=
  let start : Cursor := ⟨cs, 0, 0, 0⟩
  let start := if start.sees isMark then start.next else start
  Lexer.readAll (2 * cs.length + 2) { cursor := start }

end Tangle.Yaml
