import Tangle.Files.Tree
import Tangle.Quoting.Heredoc

/-! # Embedding

A module of shell code is embedded as a statement that sources its whole text from a
here-document, so the module does not take itself for the program that is run. -/
namespace Tangle

inductive EmbedFault where
  | notFound (name : Text)
  | notInPath (name : Text)
  | unreadable (name : Text) (e : FileError)
  | delimiter (f : Heredoc.Fault)
  | file (e : FileError)
deriving DecidableEq, Repr

def EmbedFault.message : EmbedFault → Text
  | notFound n => "module '" ++ n ++ "' not found"
  | notInPath n => "module '" ++ n ++ "' not found in search path"
  | unreadable n e => "module '" ++ n ++ "' could not be read: " ++ e.reason
  | delimiter f => f.message
  | file e => e.reason

namespace Embedding

def sourceStatement : Text :=
  "\x7b if [[ $OSTYPE != cygwin && $OSTYPE != msys && -e /dev/fd/0 ]]; " ++
  "then source /dev/fd/0; else source <(cat); fi; \x7d"

/-- Whether a path leads to a regular file. A name that is too long is an error of its own; any
other obstacle means that there is no such file. -/
def check (t : Tree) (cwd : Place) (p : Path) : Except EmbedFault Bool :=
  match t.lookup cwd p with
  | .ok (_, n) => .ok n.isRegular
  | .error .nameTooLong => .error (.file .nameTooLong)
  | _ => .ok false

def findIn (t : Tree) (cwd : Place) (name : Text) : List Text → Except EmbedFault Path
  | [] => .error (.notInPath name)
  | d :: ds => do
    if d.isEmpty then return ← findIn t cwd name ds
    let candidate := Path.ofText d / name
    if ← check t cwd candidate then return candidate
    findIn t cwd name ds

/-- A name with a slash is a path; any other is looked up in the directories in order. -/
def find (t : Tree) (cwd : Place) (name : Text) (searchPath : List Text) : Except EmbedFault Path := do
  if Path.slash ∈ name then
    let candidate := Path.ofText name
    if ← check t cwd candidate then return candidate else .error (.notFound name)
  else findIn t cwd name searchPath

/-- The file name as it appears in the delimiter. -/
def label (p : Path) : Text := p.name.filter fun s => !s.is '\'' && !s.is '\n'

def statement (p : Path) (content : Text) : Except EmbedFault Text :=
  (Heredoc.statement sourceStatement content
    (Heredoc.delimiter content ("# --- EOF " ++ label p ++ " ---"))).mapError .delimiter

def embed (t : Tree) (cwd : Place) (name : Text) (searchPath : List Text) : Except EmbedFault Text := do
  let p ← find t cwd name searchPath
  match t.read cwd p with
  | .error e => .error (.unreadable name e)
  | .ok bytes => statement p (Text.decode bytes)

end Embedding
end Tangle
