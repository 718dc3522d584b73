import Tangle.Fragment

/-! # Passes

One pass over a document. Blocks are translated as they are found, so the first failure in
document order ends the pass; the file hooks run after the last block. -/
namespace Tangle.Pass
variable {σ : Type}

/-- The pieces of the script so far, and the number of blocks they come from. -/
structure Progress where
  pieces : List HookValue := []
  blocks : Nat := 0

def visit (shell : Shell σ) (done : Progress) (b : Block) : Work σ CompileError Progress := do
  if b.isEmittable then
    let pieces ← Fragment.ofBlock shell b
    return ⟨done.pieces ++ pieces, done.blocks + 1⟩
  else
    Bench.writeNote 3 ("Line " ++ Text.ofNat b.line ++ ": skipping " ++ b.kind.name ++ " block")
    return done

def visitAny (shell : Shell σ) (done : Progress) : Option Block → Work σ CompileError Progress
  | none => pure done
  | some b => visit shell done b

/-- Scans numbered lines and translates each block as soon as it is complete. -/
def walk (shell : Shell σ) (p : Document.Pending) (n : Nat) (done : Progress) :
    List Text → Work σ CompileError Progress
  | [] => match p.finish with
    | .ok b => visitAny shell done b
    | .error f => throw (.scan f)
  | l :: ls => do
    let (p', b) := p.step n l
    let done ← visitAny shell done b
    walk shell p' (n + 1) done ls

/-- The text of a file hook; nothing if there is none. -/
def fileText (shell : Shell σ) (hook : Option FileHook) (label : Text) :
    Work σ CompileError HookValue :=
  match hook with
  | none => pure (.text [])
  | some (.shell f) => Fragment.called shell f { code := [], label }
  | some (.host r) => fun bench =>
    (r.mapError (fun e => .hook ⟨label, 0, none, e.shown⟩), bench)

structure Outcome where
  pieces : List HookValue
  blocks : Nat
  data : Collection

/-- All the pieces of the script of a document, in order. -/
def run (shell : Shell σ) (text : Text) (evalMode : Bool) : Work σ CompileError Outcome := do
  let done ← walk shell .none 1 {} text.lines
  let header ← fileText shell (← get).session.bindings.fileHeader "file-header"
  let footer ← fileText shell (← get).session.bindings.fileFooter "file-footer"
  let bench ← get
  let trailer := if evalMode then [.text (bench.session.settings.evalTrailer ++ "\n")] else []
  return ⟨header :: done.pieces ++ footer :: trailer, done.blocks, bench.data⟩

/-- The pieces as one text; the first one that is no text is the fault. -/
def assemble : List HookValue → Except CompileError Text :=
  go 0
where
  go (n : Nat) : List HookValue → Except CompileError Text
    | [] => .ok []
    | .text t :: vs => (t ++ ·) <$> go (n + 1) vs
    | .other kind _ :: _ => .error (.notText n kind)

end Tangle.Pass
