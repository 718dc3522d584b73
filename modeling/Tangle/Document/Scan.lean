import Tangle.Document.Block

/-! # Scanning

A document is read one line at a time. The state between two lines is the fence that is open, if
one is, and otherwise the indented lines that are not yet known to be complete. A line completes
at most one block. -/
namespace Tangle

/-- The fault of a document whose last fence is never closed. -/
structure ScanFault where
  mark : Symbol
  width : Nat
  line : Nat
deriving DecidableEq, Repr

def ScanFault.message (f : ScanFault) : Text :=
  "unterminated " ++ List.replicate f.width f.mark ++ " fence (line " ++ Text.ofNat f.line ++ ")"

namespace Document

inductive Pending where
  | none
  | fence (opening : Opening) (line : Nat) (body : List Text)
  | indent (line : Nat) (body : List Text)
deriving DecidableEq, Repr

namespace Pending

def indentedBlock (line : Nat) (body : List Text) : Block :=
  { tag := [], rawTag := [], content := body.flatten, kind := .indented, width := 0, line }

def fencedBlock (o : Opening) (line : Nat) (body : List Text) : Block :=
  { tag := o.tag, rawTag := o.rest, content := body.flatten, kind := .fenced, width := o.width, line }

/-- The indented block that is complete once a line outside it follows. -/
def flush : Pending → Option Block
  | .indent line body => some (indentedBlock line body)
  | _ => .none

/-- The effect of the line with number `n`. -/
def step (p : Pending) (n : Nat) (line : Text) : Pending × Option Block :=
  match p with
  | .fence o start body =>
    if closes o.mark o.width line then (.none, some (fencedBlock o start body))
    else (.fence o start (body ++ [line]), .none)
  | _ =>
    match Opening.ofLine? line with
    | some o => (.fence o n [], p.flush)
    | .none =>
      if isIndented line then
        match p with
        | .indent start body => (.indent start (body ++ [line]), .none)
        | _ => (.indent n [line], .none)
      else (.none, p.flush)

/-- What the end of the document leaves: a last block, or the fault of an open fence. -/
def finish : Pending → Except ScanFault (Option Block)
  | .fence o start _ => .error ⟨o.mark, o.width, start⟩
  | p => .ok p.flush

end Pending

/-- The blocks of numbered lines, and the fault that ends them if there is one. -/
def scanLines (p : Pending) (n : Nat) : List Text → List Block × Option ScanFault
  | [] => match p.finish with
    | .ok b => (b.toList, none)
    | .error f => ([], some f)
  | l :: ls =>
    let (p', b) := p.step n l
    let (bs, f) := scanLines p' (n + 1) ls
    (b.toList ++ bs, f)

def scan (text : Text) : List Block × Option ScanFault := scanLines .none 1 text.lines

end Document
end Tangle
