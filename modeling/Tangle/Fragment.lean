import Tangle.Session.Run
import Tangle.Document.Scan
import Tangle.Quoting.Heredoc

/-! # Fragments

The script text of one block under the policy it resolves to. A run-time command becomes a group
that reads the block from a here-document; a compile-time command or hook runs now and its output
is the fragment; a block without either is appended to an array, and recorded. -/
namespace Tangle

inductive CompileError where
  | scan (f : ScanFault)
  | hook (f : HookFailure)
  | definition (f : DefinitionFault)
  | delimiter (f : Heredoc.Fault)
  | notText (index : Nat) (kind : Text)
  | file (e : FileError)
deriving DecidableEq, Repr

def CompileError.message : CompileError → Text
  | scan f => f.message
  | hook f => f.message
  | definition f => f.message
  | delimiter f => f.message
  | notText i k =>
    "sequence item " ++ Text.ofNat i ++ ": expected str instance, " ++ k ++ " found"
  | file e => e.reason

def CompileError.ofRun : RunError → CompileError
  | .hook f => .hook f
  | .file e => .file e

/-- The test of a script that it is run directly and not read by another. -/
def mainGuard : Text := "if [[ $0 == \"$\x7bBASH_SOURCE-\x7d\" ]]; then\n"

/-- Shell code as it stands; a block with the word `@main` runs only if the script is run
directly. -/
def passage (content : Text) (tag : Tag) : Text :=
  if tag.words.contains "@main" then mainGuard ++ content.terminated ++ "fi\n" else content

def shellLanguages : List Text := ["shell", "sh", "bash"]

/-- The hooks that every document gets. -/
def builtinHooks : List (Text × CompileHook) :=
  shellLanguages.map (fun (l : Text) =>
    (l, CompileHook.host ⟨"builtin-" ++ l, fun content tag => .ok (.text (passage content tag))⟩)) ++
  [(("mdsh" : Text), CompileHook.evaluate)]

namespace Fragment

/-- A group of commands. One without commands does nothing. -/
def group (body : Text) : Text :=
  "\x7b\n" ++ (if body.isEmpty then (":\n" : Text) else body.terminated) ++ "\x7d"

/-- A group of commands with a text on its input. -/
def wrapper (delimiter body content : Text) : Except Heredoc.Fault Text :=
  Heredoc.statement (group body) content (Heredoc.delimiter content delimiter)

def append (stem key quoted : Text) : Text := stem ++ key ++ "+=(" ++ quoted ++ ")\n"

def blame (b : Block) (tag : Tag) (status : Option Int) (detail : Text) : HookFailure :=
  ⟨tag.language, b.line, status, detail⟩

variable {σ : Type}

/-- A call of the shell for a block. -/
def callFor (b : Block) (tag : Tag) (code : Text) (args : List Text) : Call :=
  { code, args, label := tag.language, line := b.line }

def failing {ε α : Type} (f : ε → CompileError) (w : Work σ ε α) : Work σ CompileError α :=
  w.adapt f

def wrapped (b : Block) (body : Text) : Work σ CompileError HookValue := fun bench =>
  (((wrapper bench.session.settings.heredocDelimiter body b.content).mapError .delimiter).map .text,
    bench)

def called (shell : Shell σ) (function : Text) (c : Call) : Work σ CompileError HookValue :=
  .text <$> failing .ofRun (Bench.callFunction shell function c)

/-- The result of a compile hook of the host. It has to be text; whatever goes wrong is blamed on
the block. -/
def hosted (h : HostHook) (b : Block) (tag : Tag) : Except HookFailure HookValue :=
  match h.run b.content tag with
  | .ok (.text t) => .ok (.text t)
  | .ok (.other kind _) =>
    .error (blame b tag none
      ((if h.name.isEmpty then ("hook" : Text) else h.name) ++ " returned " ++ kind ++ ", not str"))
  | .error (.failed f) => .error (blame b tag f.status f.detail)
  | .error (.raised e) => .error (blame b tag none e.shown)

/-- The failure of a block that runs itself. It keeps its status and detail and takes the block's line; and an
error of a file is shown in it. -/
def blamed (b : Block) (tag : Tag) : RunError → CompileError
  | .hook f => .hook (blame b tag f.status f.detail)
  | .file e => .hook (blame b tag none e.shown)

/-- Runs the block itself. -/
def evaluated (shell : Shell σ) (b : Block) (tag : Tag) : Work σ CompileError HookValue :=
  .text <$> failing (blamed b tag) (Bench.run shell { code := b.content, label := tag.language })

def hooked (shell : Shell σ) (h : CompileHook) (b : Block) (tag : Tag) :
    Work σ CompileError HookValue :=
  match h with
  | .shell f => called shell f (callFor b tag [] [b.content, tag.language])
  | .evaluate => evaluated shell b tag
  | .host h => fun bench => ((hosted h b tag).mapError .hook, bench)

/-- Appends the block to the array of its language, in the script and in the record. -/
def collected (b : Block) (tag : Tag) : Work σ CompileError HookValue := fun bench =>
  match Quoting.word b.content with
  | .error e => (.error (.hook (blame b tag none e.message)), bench)
  | .ok quoted =>
    (.ok (.text (append bench.session.settings.dataStem (identifierFragment tag.language) quoted)),
      { bench with data := bench.data.add tag.language b.content })

def leftOver (shell : Shell σ) (b : Block) (tag : Tag) : Work σ CompileError HookValue := do
  match (← get).session.bindings.misc with
  | some (.shell f) => called shell f (callFor b tag [] [tag.language, b.content])
  | some (.host run) => fun bench =>
    ((run tag.language b.content).mapError (fun e => .hook (blame b tag none e.shown)), bench)
  | none => collected b tag

def translated (shell : Shell σ) (b : Block) (tag : Tag) (p : Policy) : Work σ CompileError HookValue :=
  match p with
  | .runCommand code => wrapped b code
  | .template t => wrapped b t.body
  | .compileCommand code =>
    .text <$> failing .ofRun (Bench.run shell (callFor b tag code [b.content, tag.language]))
  | .hook h => hooked shell h b tag
  | .fallback => leftOver shell b tag

/-- The fragment of a block, and the text that is bound to follow each block of its language. -/
def ofBlock (shell : Shell σ) (b : Block) : Work σ CompileError (List HookValue) := do
  let tag := Tag.ofText b.rawTag
  let policy := Policy.resolve tag (← get).session.bindings
  Bench.writeNote 2 ("Line " ++ Text.ofNat b.line ++ ": '" ++ tag.language ++ "' -> " ++ policy.name)
  let fragment ← translated shell b tag policy
  match (← get).session.bindings.after.get? tag.language with
  | none => return [fragment]
  | some t => return [fragment, .text t.body.terminated]

end Fragment
end Tangle
