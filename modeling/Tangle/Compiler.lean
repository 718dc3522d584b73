import Tangle.Pass
import Tangle.Text.Utf8

/-! # The compiler

A compiler holds the caller's bindings and search path, and what the last pass has counted and
collected. -/
namespace Tangle

structure Compiler where
  bindings : Bindings := {}
  searchPath : List Text := []
  blockCount : Nat := 0
  data : Collection := {}

namespace Compiler
variable {σ : Type}

/-- The world and the journal outlive a pass, whether it succeeds or fails. -/
structure Result (σ : Type) where
  script : Except CompileError Text
  compiler : Compiler
  world : σ
  journal : Journal

def compile (c : Compiler) (shell : Shell σ) (site : Site) (settings : Settings) (world : σ)
    (journal : Journal) (document : Text) (evalMode : Bool) : Result σ :=
  let journal := journal.note 2 "Starting compilation..."
  match Session.start site settings c.searchPath c.bindings with
  | .error e => ⟨.error (.definition e), c, world, journal⟩
  | .ok session =>
    let session := session.install builtinHooks
    match Pass.run shell document evalMode { session, world, journal } with
    | (.error e, bench) => ⟨.error e, c, bench.world, bench.journal⟩
    | (.ok o, bench) =>
      let c := { c with blockCount := o.blocks, data := o.data }
      match Pass.assemble o.pieces with
      | .error e => ⟨.error e, c, bench.world, bench.journal⟩
      | .ok script =>
        ⟨.ok script, c, bench.world, bench.journal.note 2 ("Compiled " ++ Text.ofNat o.blocks ++
          " blocks into " ++ Text.ofNat script.length ++ " chars")⟩

/-- A function of the caller's bindings with other texts in place of its delimiters. -/
def rewriteFunction (c : Compiler) (name : Text) (before after : Option Text) :
    Except DefinitionFault Text :=
  match c.bindings.functions.get? name with
  | none => .error (.undefined name)
  | some source => rewriteDefinition source before after

end Compiler
end Tangle
