import Tangle.Hook

/-! # Bindings

The hooks that are in effect while a document is compiled. -/
namespace Tangle

structure Bindings where
  templates : Table Template := {}
  compilers : Table CompileHook := {}
  after : Table Template := {}
  misc : Option MiscHook := none
  fileHeader : Option FileHook := none
  fileFooter : Option FileHook := none
  functions : Table Text := {}
  prelude : Text := []

/-- The fault of advice for a language without a template or a host hook. -/
structure AdviceFault where
  language : Text
deriving DecidableEq, Repr

def AdviceFault.message (f : AdviceFault) : Text :=
  "no template or Python compile hook bound for language '" ++ f.language ++ "'"

namespace Bindings

/-- A template takes the code into its body; a host hook has its output framed. The hook that runs a block itself is
put in for a pass only, and so stands in no bindings that are advised. -/
def advise (b : Bindings) (language before after : Text) : Except AdviceFault Bindings :=
  match b.templates.get? language with
  | some t => .ok { b with templates := b.templates.set language (t.advised before after) }
  | none =>
    match b.compilers.get? language with
    | some (.host h) =>
      .ok { b with compilers := b.compilers.set language (.host (h.advised before after)) }
    | _ => .error ⟨language⟩

end Bindings
end Tangle
