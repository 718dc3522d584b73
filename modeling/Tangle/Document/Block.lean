import Tangle.Text.Blank

/-! # Code blocks and lines

A document has code blocks, fenced or indented. What a single line can be to them: the opener of a fence,
its closing line, or a line of an indented block. Fences are recognised on the trimmed line. -/
namespace Tangle

inductive BlockKind where
  | fenced
  | indented
deriving DecidableEq, Repr

namespace BlockKind

def name : BlockKind → Text
  | fenced => "fenced"
  | indented => "indented"

end BlockKind

/-- A code block of a document. An indented block has no tag and width zero; `line` counts the
lines of the document from one and names the block's first line. -/
structure Block where
  tag : Text
  rawTag : Text
  content : Text
  kind : BlockKind
  width : Nat
  line : Nat
deriving DecidableEq, Repr

/-- Only a fence of width three with a tag becomes code; all other blocks are documentation. -/
def Block.isEmittable (b : Block) : Bool :=
  b.kind == .fenced && b.width == 3 && !b.tag.isEmpty

namespace Document

/-- The opening line of a fence: its mark, how often the mark is repeated, and the rest. -/
structure Opening where
  mark : Symbol
  width : Nat
  rest : Text
deriving DecidableEq, Repr

namespace Opening

def run (o : Opening) : Text := List.replicate o.width o.mark

def ofTrimmed? : Text → Option Opening
  | [] => none
  | c :: t =>
    if c.is '\x60' || c.is '~' then
      let run := t.takeWhile (· = c)
      if 2 ≤ run.length then some ⟨c, run.length + 1, t.dropWhile (· = c)⟩ else none
    else none

def ofLine? (line : Text) : Option Opening := ofTrimmed? line.trimLine

/-- The language tag: the rest of the line, trimmed. -/
def tag (o : Opening) : Text := o.rest.trimLine

end Opening

/-- Holds of a line that consists of `mark` alone, at least `width` times, once trimmed. -/
def closes (mark : Symbol) (width : Nat) (line : Text) : Bool :=
  let t := line.trimLine
  width ≤ t.length && t.all (· = mark)

def isIndented (line : Text) : Bool :=
  (line.startsWith "    " || line.startsWith "\t") && !line.trimLine.isEmpty

end Document
end Tangle
