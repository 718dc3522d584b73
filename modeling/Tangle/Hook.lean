import Tangle.Tag
import Tangle.Table
import Tangle.Text.Display

/-! # Hooks

A hook turns the content of a block into script text. It is a function of the compile-time shell,
or a function of the program that uses this library, which may fail or hand back a value that is
no text at all. -/
namespace Tangle

/-- The failure of the hook or command of one block. A negative status is the number of the signal
that ended the shell. -/
structure HookFailure where
  language : Text
  line : Nat
  status : Option Int := none
  detail : Text := []
deriving DecidableEq, Repr

namespace HookFailure

def message (f : HookFailure) : Text :=
  "compile hook for '" ++ f.language ++ "' block at line " ++ Text.ofNat f.line ++ " failed" ++
    f.status.elim ([] : Text) (fun s => " with status " ++ Text.ofInt s) ++
    if f.detail.isEmpty then ([] : Text) else ": " ++ f.detail

def shown (f : HookFailure) : Text := "DirectiveInvocationError(" ++ f.message.display ++ ")"

end HookFailure

/-- An error that a host hook raises: its kind, its message, and how it is shown. -/
structure Raised where
  kind : Text
  message : Text
  shown : Text
deriving DecidableEq, Repr

inductive HookError where
  | raised (e : Raised)
  | failed (f : HookFailure)
deriving DecidableEq, Repr

def HookError.shown : HookError → Text
  | raised e => e.shown
  | failed f => f.shown

/-- What a host hook hands back: a text, or a value of another kind, which can still be shown. -/
inductive HookValue where
  | text (t : Text)
  | other (kind shown : Text)
deriving DecidableEq, Repr

def HookValue.shown : HookValue → Text
  | text t => t
  | other _ s => s

abbrev HookResult := Except HookError HookValue

/-- A command that runs when the script runs and reads the block on its input. -/
structure Template where
  body : Text
  name : Text := []
deriving DecidableEq, Repr

/-- The template with code at the entry and the exit of its body. -/
def Template.advised (t : Template) (before after : Text) : Template :=
  { t with body := Text.join "\n" ([before, t.body, after].filter (!·.isEmpty)) }

/-- A host hook for the blocks of a language. -/
structure HostHook where
  name : Text := []
  run : (content : Text) → Tag → HookResult

/-- The host hook with its output framed by two texts. -/
def HostHook.advised (h : HostHook) (before after : Text) : HostHook :=
  { h with run := fun content tag => do
      let v ← h.run content tag
      return .text (before ++ v.shown ++ after) }

/-- `evaluate` runs the block itself in the compile-time shell. -/
inductive CompileHook where
  | host (h : HostHook)
  | evaluate
  | shell (function : Text)

inductive MiscHook where
  | host (run : (language content : Text) → HookResult)
  | shell (function : Text)

inductive FileHook where
  | host (run : HookResult)
  | shell (function : Text)

end Tangle
