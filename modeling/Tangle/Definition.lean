import Tangle.Text.Blank

/-! # Function definitions

The layouts of one function definition of the shell, read as text: a header that names the
function, a body between braces or parentheses, and whatever follows. The body ends at the last
closing delimiter of the text. -/
namespace Tangle

/-- What stands before the opening delimiter. `keyword` holds the blanks after the word `function`
if it is there, `parens` the blanks between the parentheses after the name. -/
structure Header where
  lead : Text
  keyword : Option Text
  name : Text
  gap : Text
  parens : Option Text
  tail : Text
deriving DecidableEq, Repr

namespace Header

def text (h : Header) : Text :=
  h.lead ++ (match h.keyword with | some b => "function" ++ b | none => []) ++ h.name ++ h.gap ++
    (match h.parens with | some b => "(" ++ b ++ ")" | none => []) ++ h.tail

/-- A header says that a function follows by the word `function` or by the parentheses. -/
def isMarked (h : Header) : Bool := h.keyword.isSome || h.parens.isSome

def isNameSymbol (s : Symbol) : Bool := !s.isBlank && !s.isAnyOf "()\x7b\x7d|&;<>"

def blanks (t : Text) : Text × Text := t.span Symbol.isBlank

def readParens (t : Text) : Option Text × Text :=
  match t with
  | .char '(' :: t₁ =>
    match blanks t₁ with
    | (b, .char ')' :: t₂) => (some b, t₂)
    | _ => (none, t)
  | _ => (none, t)

def readFrom (lead : Text) (keyword : Option Text) (t : Text) : Option (Header × Text) :=
  let (name, t₁) := t.span isNameSymbol
  if name.isEmpty then none else
  let (gap, t₂) := blanks t₁
  let (parens, t₃) := readParens t₂
  let (tail, t₄) := blanks t₃
  some (⟨lead, keyword, name, gap, parens, tail⟩, t₄)

/-- The longest header at the start of a text. The word `function` is a keyword only if blanks and
a name follow it. -/
def read (source : Text) : Option (Header × Text) :=
  let (lead, t) := blanks source
  let named := readFrom lead none t
  match t.after? "function" with
  | none => named
  | some t₁ =>
    let (b, t₂) := blanks t₁
    if b.isEmpty then named
    else match readFrom lead (some b) t₂ with
      | none => named
      | r => r

end Header

inductive Enclosure where
  | braces
  | parens
deriving DecidableEq, Repr

namespace Enclosure

def opener : Enclosure → Symbol
  | braces => .char '\x7b'
  | parens => .char '('

def closer : Enclosure → Symbol
  | braces => .char '\x7d'
  | parens => .char ')'

def ofOpener? (s : Symbol) : Option Enclosure :=
  if s = braces.opener then some braces else if s = parens.opener then some parens else none

end Enclosure

inductive DefinitionFault where
  | undefined (name : Text)
  | notADefinition (firstLine : Text)
  | noBody (name : Text)
  | unterminated (name : Text)
deriving DecidableEq, Repr

def DefinitionFault.message : DefinitionFault → Text
  | undefined n => "function '" ++ n ++ "' is not defined"
  | notADefinition l => "function '" ++ l ++ "' is not a function definition"
  | noBody n => "function '" ++ n ++ "' has no recognizable body delimiters"
  | unterminated n => "function '" ++ n ++ "' has an unterminated body"

structure Definition where
  header : Header
  enclosure : Enclosure
  body : Text
  trailer : Text
deriving DecidableEq, Repr

namespace Definition

def name (d : Definition) : Text := d.header.name

def text (d : Definition) : Text :=
  d.header.text ++ d.enclosure.opener :: d.body ++ d.enclosure.closer :: d.trailer

/-- The parts of a text before and after the last `c` in it. -/
def splitLast? (c : Symbol) : Text → Option (Text × Text)
  | [] => none
  | s :: t =>
    match splitLast? c t with
    | some (b, r) => some (s :: b, r)
    | none => if s = c then some ([], t) else none

/-- What a message calls a text that defines nothing: its first line. -/
def firstLine (source : Text) : Text :=
  let l := source.trim.takeWhile (· ≠ Symbol.newline)
  if l.isEmpty then "<empty>" else l

def read (source : Text) : Except DefinitionFault Definition :=
  match Header.read source with
  | none => .error (.notADefinition (firstLine source))
  | some (h, rest) =>
    if h.isMarked then
      match rest with
      | [] => .error (.noBody h.name)
      | s :: t =>
        match Enclosure.ofOpener? s with
        | none => .error (.noBody h.name)
        | some e =>
          match splitLast? e.closer t with
          | none => .error (.unterminated h.name)
          | some (body, trailer) => .ok ⟨h, e, body, trailer⟩
    else .error (.notADefinition (firstLine source))

def openIndex (d : Definition) : Nat := d.header.text.length

def closeIndex (d : Definition) : Nat := d.openIndex + 1 + d.body.length

/-- The text of the body, trimmed. -/
def bodyText (d : Definition) : Text := d.body.trim

/-- The definition with other texts in place of its delimiters. -/
def rewritten (d : Definition) (before after : Option Text) : Text :=
  d.header.text ++ before.getD [d.enclosure.opener] ++ d.body ++
    after.getD [d.enclosure.closer] ++ d.trailer

end Definition

/-- The name that a function definition declares. -/
def definedName (source : Text) : Except DefinitionFault Text := Definition.name <$> Definition.read source

def rewriteDefinition (source : Text) (before after : Option Text) : Except DefinitionFault Text :=
  (·.rewritten before after) <$> Definition.read source

end Tangle
