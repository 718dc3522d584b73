import Tangle.Shell.Source
import Tangle.Shell.Layout
import Tangle.Shell.Escape

/-! # Reading words

The parts of a word, of a quoted text, of a here-document and of the operands inside an expansion.
They differ in where they end and in which symbols stand for themselves. Commands inside a word are
read by a reader that is given. -/
namespace Tangle.Shell

inductive Setting where
  | word
  | regex
  | quoted
  | document
  | operand (isDouble : Bool) (stop : Option Char)
  | arithmetic
  | subscript
deriving DecidableEq, Repr

namespace Setting

/-- Whether a backslash escapes only what keeps a meaning between quotation marks. -/
def isDouble : Setting → Bool
  | quoted | document | arithmetic => true
  | operand d _ => d
  | _ => false

def isOrdinary (m : Setting) (s : Symbol) : Bool :=
  match m with
  | word => isPlain s && !s.isAnyOf "?*+@!"
  | regex => isPlain s
  | quoted => !s.isAnyOf "\"\\$\x60"
  | document => !s.isAnyOf "\\$\x60"
  | operand _ stop => !s.isAnyOf "\"'\\$\x60\x7d()" && !stop.any s.is
  | arithmetic => !s.isAnyOf "()\"'\\$\x60"
  | subscript => !s.isAnyOf "[]\"'\\$\x60"

/-- Whether the end of the source is as good as a symbol that ends a setting. -/
def mayEnd : Setting → Bool
  | word | regex | document => true
  | _ => false

/-- The sign that is missed at the end of the source. -/
def closer : Setting → Text
  | quoted => "\""
  | arithmetic => ")"
  | subscript => "]"
  | operand .. => "\x7d"
  | _ => ""

/-- A fault in a setting that was begun on a line. -/
def faultFrom (m : Setting) (line : Nat) : ParseFault → ParseFault
  | .ended n => if m.mayEnd then .ended n else .unclosed m.closer line
  | f => f

end Setting

namespace Part

def ofPlain (t : Text) (ps : List Part) : List Part :=
  match ps with
  | plain u :: ps => plain (t ++ u) :: ps
  | ps => if t.isEmpty then ps else plain t :: ps

end Part

namespace Read

def isSpecialParameter (s : Symbol) : Bool := s.isAnyOf "@*#?-$!"

/-- The name of a parameter at the start of a text. -/
def parameterName : Text → Text
  | s :: t =>
    if s.isIdentifierStart then s :: t.takeWhile Symbol.isIdentifier
    else if s.isDigit then s :: t.takeWhile Symbol.isDigit
    else if isSpecialParameter s then [s]
    else []
  | [] => []

def isIdentifierText (t : Text) : Bool :=
  t.head?.any Symbol.isIdentifierStart && t.all Symbol.isIdentifier

/-- What stands between backquotes, as written, if they are closed. -/
def backquoted : Text → Option Text
  | [] => none
  | .char '\\' :: s :: t => (backquoted t).map fun r => .char '\\' :: s :: r
  | s :: t => if s.is '\x60' then some [] else (backquoted t).map (s :: ·)

/-- The commands between backquotes without the backslashes that guard them. -/
def unguarded (isDouble : Bool) : Text → Text
  | [] => []
  | .char '\\' :: s :: t =>
    if s.isAnyOf "$\x60\\" || (isDouble && s.is '"') then s :: unguarded isDouble t
    else .char '\\' :: s :: unguarded isDouble t
  | s :: t => s :: unguarded isDouble t

def unclosed {α : Type} (closer : Text) : Read α := do throw (.unclosed closer (← get).line)

/-- A text between apostrophes, behind the first of them. -/
def apostrophes : Read Text := do
  let t ← ahead (!·.is '\'')
  if ((← rest).drop t.length).isEmpty then unclosed "'"
  let _ ← take (t.length + 1)
  return t

/-- The symbols up to an apostrophe that no backslash stands before. -/
def untilApostrophe : Text → Option Text
  | [] => none
  | .char '\\' :: s :: t => (untilApostrophe t).map fun r => .char '\\' :: s :: r
  | s :: t => if s.is '\'' then some [] else (untilApostrophe t).map (s :: ·)

/-- A text with escapes, behind `$'`. What is kept of it is the text that it stands for. -/
def escapedText : Read Text := do
  match untilApostrophe (← rest) with
  | none => unclosed "'"
  | some t =>
    let u := Escape.quoted t
    drop (t.length + 1)
    keep (apostrophed u)
    return u

section
variable (commands : Read Command)

/-- A fault as it is seen from outside of a command substitution. -/
def faultOutside : ParseFault → ParseFault
  | .ended line => .unclosed ")" line
  | .unclosed c line => .unclosed c line
  | .inSubstitution f => .inSubstitution f
  | f => .inSubstitution f

/-- Commands up to a closing parenthesis, behind the opening that `head` spells. -/
def enclosed (head : Text) : Read Command := do
  let aliases := (← get).aliases
  modify fun s => { s with aliases := {} }
  let (_, c) ← refaulted faultOutside do
    let r ← keeping commands
    expect ")"
    return r
  modify fun s => { s with aliases }
  let t := c.inlineText (← get).documents
  keep (head ++ (if t.head?.any (·.is '(') then " " else "") ++ t ++ ")")
  return c

/-- Commands between backquotes, behind the first of them. -/
def backquotes (isDouble : Bool) : Read Part := do
  match backquoted (← rest) with
  | none => unclosed "\x60"
  | some t =>
    let _ ← take (t.length + 1)
    return .backquotes (unguarded isDouble t)

/-- Where parts end. -/
def isEnd (m : Setting) (depth : Nat) (s : Symbol) (next : Option Symbol) : Bool :=
  match m with
  | .word => depth = 0 && isMeta s && !((s.is '<' || s.is '>') && next.any (·.is '('))
  | .regex => depth = 0 && (isMeta s && !s.isAnyOf "(|<>")
  | .quoted => s.is '"'
  | .document => false
  | .operand _ stop => s.is '\x7d' || (depth = 0 && stop.any s.is)
  | .arithmetic => depth = 0 && s.is ')'
  | .subscript => depth = 0 && s.is ']'

def deepen (m : Setting) (depth : Nat) (s : Symbol) : Nat :=
  match m with
  | .word | .regex | .arithmetic | .operand .. =>
    if s.is '(' then depth + 1 else if s.is ')' then depth - 1 else depth
  | .subscript => if s.is '[' then depth + 1 else if s.is ']' then depth - 1 else depth
  | _ => depth

/-- A command in a word, an arithmetic expansion or a process, which begin with two symbols; the
parts of an expression are read by `parts`. -/
def substitution (parts : Setting → Read (List Part)) : Read Part := do
  let arithmetic ← if ← isAt "$((" then attempt do
      let _ ← take 3
      let ps ← parts .arithmetic
      if ← isAt "))" then
        let _ ← take 2
        return Part.arithmetic ps
      else ended
    else pure none
  match arithmetic with
  | some p => return p
  | none =>
    let isRead ← peekIs '<'
    let isCommand ← peekIs '$'
    let head := (← rest).take 2
    drop 2
    let c ← enclosed commands head
    return if isCommand then .substitution c else .process isRead c

def dollar (parts : Setting → Read (List Part)) (braces : Read Part) (m : Setting) : Read Part := do
  match (← rest).drop 1 with
  | .char '(' :: _ => substitution commands parts
  | .char '\x7b' :: _ => braces
  | .char '[' :: _ =>
    let _ ← take 2
    let ps ← parts .subscript
    if ← peekIs ']' then
      let _ ← take 1
      return .arithmetic ps
    else unclosed "]"
  | .char '\'' :: _ =>
    if m.isDouble then let _ ← take 1; return .plain "$"
    else drop 2; return .quoted (← escapedText)
  | .char '"' :: _ =>
    if m.isDouble then let _ ← take 1; return .plain "$"
    else
      drop 1
      let _ ← take 1
      let ps ← parts .quoted
      let _ ← take 1
      return .double ps
  | s :: t =>
    let name := if s.isDigit then [s] else parameterName (s :: t)
    let _ ← take (name.length + 1)
    return if name.isEmpty then .plain "$" else .parameter name false .none .value
  | [] =>
    let _ ← take 1
    return .plain "$"

/-- An index behind the name of a parameter. -/
def index (parts : Setting → Read (List Part)) (name : Text) : Read Index := do
  if !(isIdentifierText name && (← peekIs '[')) then return .none
  else if ← isAt "[@]" then let _ ← take 3; return .all
  else if ← isAt "[*]" then let _ ← take 3; return .joined
  else
    let _ ← take 1
    let ps ← parts .subscript
    if !(← peekIs ']') then unclosed "]"
    let _ ← take 1
    return .at ps

/-- The use of a parameter, up to the closing brace. -/
def use (parts : Setting → Read (List Part)) (isDouble : Bool) : Read Use := do
  let pattern := parts (.operand false none)
  let word := parts (.operand isDouble none)
  let begins (t : String) : Read Bool := do
    if ← isAt t then let _ ← take t.length; return true else return false
  let choices : List (String × (Bool → List Part → Use)) :=
    [("-", .orElse), ("=", .orAssign), ("?", .orFail), ("+", .andThen)]
  if ← peekIs '\x7d' then return .value
  for (mark, make) in choices do
    if ← begins (":" ++ mark) then return make true (← word)
    if ← begins mark then return make false (← word)
  if ← begins ":" then
    let offset ← parts (.operand true (some ':'))
    if ← begins ":" then return .slice offset (some (← parts (.operand true none)))
    return .slice offset none
  if ← begins "##" then return .trim false true (← pattern)
  if ← begins "#" then return .trim false false (← pattern)
  if ← begins "%%" then return .trim true true (← pattern)
  if ← begins "%" then return .trim true false (← pattern)
  if ← begins "/" then
    let extent : Extent ← (do
      if ← begins "/" then return .everywhere
      if ← begins "#" then return .atStart
      if ← begins "%" then return .atEnd
      return .once)
    let ps ← parts (.operand false (some '/'))
    if ← begins "/" then return .replace extent ps (← pattern)
    return .replace extent ps []
  if ← begins "^^" then return .recase .upper true (← pattern)
  if ← begins "^" then return .recase .upper false (← pattern)
  if ← begins ",," then return .recase .lower true (← pattern)
  if ← begins "," then return .recase .lower false (← pattern)
  if ← begins "~~" then return .recase .toggled true (← pattern)
  if ← begins "~" then return .recase .toggled false (← pattern)
  match ← rest with
  | .char '@' :: .char c :: _ => let _ ← take 2; return .transform c
  | _ => ended

def closeBrace : Read Unit := do
  if ← peekIs '\x7d' then let _ ← take 1 else unclosed "\x7d"

/-- The length of a parameter, behind `#`, if that is what is asked for. -/
def lengthName? (t : Text) : Option Text :=
  let name := parameterName t
  match t.drop name.length with
  | s :: _ => if !name.isEmpty && (s.is '\x7d' || (s.is '[' && isIdentifierText name)) then some name else none
  | [] => none

/-- The stem of `$\x7b!stem*}` and the sign behind it. -/
def stem? (t : Text) : Option (Text × Bool) :=
  let name := parameterName t
  match t.drop name.length with
  | a :: b :: _ =>
    if isIdentifierText name && b.is '\x7d' && (a.is '*' || a.is '@') then some (name, a.is '*') else none
  | _ => none

/-- Whether the name behind `!` is that of the parameter to be looked up. -/
def isIndirect (t : Text) : Bool :=
  match t with
  | s :: _ => s.isIdentifier || s.is '#' || s.is '@' || s.is '*'
  | [] => false

/-- The inside of braces, behind the opening one. -/
def parameter (parts : Setting → Read (List Part)) (isDouble : Bool) : Read Part := do
  match ← rest with
  | .char '#' :: t =>
    match lengthName? t with
    | some name =>
      let _ ← take (name.length + 1)
      let i ← index parts name
      if !(← peekIs '\x7d') then ended
      return .parameter name false i .length
    | none =>
      let _ ← take 1
      return .parameter "#" false .none (← use parts isDouble)
  | .char '!' :: t =>
    match stem? t with
    | some (name, joined) =>
      let _ ← take (name.length + 2)
      return .names name joined
    | none =>
      if isIndirect t then
        let name := parameterName t
        let _ ← take (name.length + 1)
        let i ← index parts name
        return .parameter name true i (← use parts isDouble)
      else
        let _ ← take 1
        return .parameter "!" false .none (← use parts isDouble)
  | t =>
    let name := parameterName t
    if name.isEmpty then ended
    let _ ← take name.length
    let i ← index parts name
    return .parameter name false i (← use parts isDouble)

/-- An expansion in braces. One that cannot be read is an error only when it is carried out. -/
def braces (parts : Setting → Read (List Part)) (isDouble : Bool) : Read Part := do
  let known ← attempt do
    let _ ← take 2
    let p ← parameter parts isDouble
    closeBrace
    return p
  match known with
  | some p => return p
  | none =>
    let (t, _) ← keeping do
      let _ ← take 2
      let _ ← parts (.operand isDouble none)
      closeBrace
    keep t
    return .bad t

/-- The parts up to the end of their setting, which is not passed over. -/
def parts (m : Setting) : Nat → (depth : Nat) → Read (List Part)
  | 0, _ => ended
  | n + 1, depth => do
    let line := (← get).line
    let here (m : Setting) : Read (List Part) := refaulted (m.faultFrom line) (parts m n 0)
    match ← rest with
    | [] => if m.mayEnd then return [] else ended
    | s :: t =>
      if isEnd m depth s t.head? then return []
      let plainly (count depth : Nat) : Read (List Part) := do
        let u ← take count
        return Part.ofPlain u (← parts m n depth)
      if m.isOrdinary s then plainly ((← ahead m.isOrdinary).length) depth
      else match s with
      | .char '\\' =>
        match t with
        | .char '\n' :: _ => drop 2; parts m n depth
        | c :: _ =>
          if !m.isDouble then
            let _ ← take 2
            return .quoted [c] :: (← parts m n depth)
          else if c.isAnyOf "$\x60\\" || (c.is '"' && m ≠ .document) ||
              (c.is '\x7d' && m ≠ .document && m ≠ .quoted) then
            let _ ← take 2
            return .quoted [c] :: (← parts m n depth)
          else plainly 1 depth
        | [] => plainly 1 depth
      | .char '\'' =>
        if m.isDouble then plainly 1 depth
        else
          let _ ← take 1
          let u ← apostrophes
          return .quoted u :: (← parts m n depth)
      | .char '"' =>
        if m = .document then plainly 1 depth
        else
          let _ ← take 1
          let ps ← here .quoted
          let _ ← take 1
          return .double ps :: (← parts m n depth)
      | .char '\x60' =>
        let _ ← take 1
        let p ← backquotes m.isDouble
        return p :: (← parts m n depth)
      | .char '$' =>
        match ← dollar commands here (braces here m.isDouble) m with
        | .plain u => return Part.ofPlain u (← parts m n depth)
        | p => return p :: (← parts m n depth)
      | _ =>
        if m = .word && (s.is '<' || s.is '>') && t.head?.any (·.is '(') then
          let p ← substitution commands here
          return p :: (← parts m n depth)
        else if m = .word && s.isAnyOf "?*+@!" && t.head?.any (·.is '(') && (← get).hasGroups then
          plainly 2 (depth + 1)
        else plainly 1 (deepen m depth s)

/-- A word with its source. -/
def word (m : Setting) : Read Word := do
  let (t, ps) ← keeping (parts commands m (2 * (← get).size + 2) 0)
  return .mk t ps

end

end Read
end Tangle.Shell
