import Tangle.Bindings

/-! # Policies

How a block is translated. A command on the tag comes first, then the template of the language,
then its compile hook; a block with none of them is left to the fallback. -/
namespace Tangle

inductive Policy where
  | runCommand (code : Text)
  | compileCommand (code : Text)
  | template (t : Template)
  | hook (h : CompileHook)
  | fallback

namespace Policy

def name : Policy → Text
  | runCommand _ => "command-run"
  | compileCommand _ => "command-compile"
  | template _ => "template"
  | hook _ => "compile-fn"
  | fallback => "fallback"

def ofLanguage (language : Text) (b : Bindings) : Policy :=
  match b.templates.get? language with
  | some t => template t
  | none =>
    match b.compilers.get? language with
    | some h => hook h
    | none => fallback

def resolve (tag : Tag) (b : Bindings) : Policy :=
  match tag.request with
  | .run code => runCommand code
  | .compile code => compileCommand code
  | .plain _ => ofLanguage tag.language b

end Policy
end Tangle
