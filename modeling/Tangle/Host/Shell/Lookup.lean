import Tangle.Host.Shell.Argument
import Tangle.Shell.Layout

/-! # What a command name means

A name is looked up among the words of the language, the functions, the commands of the shell itself, and
the programs on the search path. -/
namespace Tangle.Shell.Run

def keywords : List Text := [
  "if", "then", "else", "elif", "fi", "case", "esac", "for", "select", "while", "until", "do", "done",
  "in", "function", "time", "\x7b", "\x7d", "!", "[[", "]]", "coproc"]

def builtinNames : List Text := List.map Text.ofString [
  ".", ":", "[", "alias", "bg", "bind", "break", "builtin", "caller", "cd", "command", "compgen",
  "complete", "compopt", "continue", "declare", "dirs", "disown", "echo", "enable", "eval", "exec",
  "exit", "export", "false", "fc", "fg", "getopts", "hash", "help", "history", "jobs", "kill", "let",
  "local", "logout", "mapfile", "popd", "printf", "pushd", "pwd", "read", "readarray", "readonly",
  "return", "set", "shift", "shopt", "source", "suspend", "test", "times", "trap", "true", "type",
  "typeset", "ulimit", "umask", "unalias", "unset", "wait"]

/-- The programs that are installed. -/
def programNames : List Text := List.map Text.ofString [
  "[", "arch", "b2sum", "base32", "base64", "basename", "basenc", "bash", "cat", "chgrp", "chmod",
  "chown", "cksum", "cmp", "comm", "cp", "csplit", "cut", "date", "dd", "diff", "dir", "dirname",
  "du", "echo", "egrep", "env", "expand", "expr", "factor", "false", "fgrep", "fmt", "fold", "grep",
  "groups", "head", "hostname", "id", "install", "join", "link", "ln", "logname", "ls", "md5sum",
  "mkdir", "mkfifo", "mktemp", "mv", "nice", "nl", "nohup", "nproc", "numfmt", "od", "paste",
  "pathchk", "printenv", "printf", "pwd", "readlink", "realpath", "rev", "rm", "rmdir", "sed", "seq",
  "setsid", "sh", "sha1sum", "sha224sum", "sha256sum", "sha384sum", "sha512sum", "shuf", "sleep",
  "sort", "split", "stat", "stdbuf", "sum", "sync", "tac", "tail", "tee", "test", "timeout", "touch",
  "tr", "true", "truncate", "tsort", "tty", "uname", "unexpand", "uniq", "unlink", "vdir", "wc",
  "which", "whoami", "xargs", "yes"]

/-- The directories in which the programs are installed. -/
def programDirectories : List Text := ["/usr/bin", "/bin"]

/-- A program that can be started: one of those installed, or a file that can be run. -/
inductive Executable where
  | installed (name : Text)
  | file (path : Text) (content : Bytes)
  | unusable (path : Text)

/-- The names that are functions, commands of the shell or programs. -/
inductive Meaning where
  | alias (value : Text)
  | keyword
  | function (f : Function)
  | builtin
  | program (path : Text)
  /-- A program that has been found before. -/
  | remembered (path : Text)

/-- What is at a path, if it can be run. -/
def programAt? (path : Text) : Run (Option Executable) := do
  match ← lookup path with
  | .ok (_, .file content mode) =>
    return if mode &&& 0o111 ≠ 0 then some (.file path content) else some (.unusable path)
  | .ok _ => return some (.unusable path)
  | .error _ =>
    let p := Path.ofText path
    let directory := p.parent.text
    return if programDirectories.contains directory && programNames.contains p.name then
        some (.installed p.name) else none

def searchIn (name : Text) : List Text → Run (Option (Text × Executable))
  | [] => return none
  | d :: ds => do
    let path := (if d.isEmpty then ("." : Text) else d) ++ "/" ++ name
    match ← programAt? path with
    | some (.unusable _) => searchIn name ds
    | some p => return some (path, p)
    | none => searchIn name ds

/-- The program that a name means, with its path. -/
def program? (name : Text) : Run (Option (Text × Executable)) := do
  if name.any (·.is '/') then return (← programAt? name).map (name, ·)
  match (← binding? "PATH").bind Variable.plain? with
  | some path => searchIn name (Text.pieces (.char ':') path)
  | none => return none

/-- The program that a name means to another program, which looks into the usual directories if there is no search
path. -/
def executable? (name : Text) : Run (Option (Text × Executable)) := do
  if name.any (·.is '/') || ((← binding? "PATH").bind Variable.plain?).isSome then program? name
  else searchIn name ["/bin", "/usr/bin"]

def functionText (name : Text) (f : Function) : Text :=
  Command.definitionText f.documents name f.body

/-- The environment that a program is started with, the functions in it included. -/
def wholeEnvironment : Run (List (Text × Text)) := do
  let functions := (← process).functions.toList.filter (·.2.isExported)
  let entries := functions.map fun e =>
    (("BASH_FUNC_" : Text) ++ e.1 ++ "%%", Command.handedText e.2.documents e.2.body)
  return (← environment) ++ entries

def functionNames : Run (List Text) := do return sortedNames (← process).functions.keys

def isBuiltin (name : Text) : Bool := builtinNames.contains name

/-- Whether a name is that of a command of the shell that is in use. -/
def isEnabled (name : Text) : Run Bool := do return isBuiltin name && !(← process).disabled.contains name

/-! Remembered programs -/

def remembered? (name : Text) : Run (Option Remembered) := do
  return (← process).remembered.find? (·.name = name)

/-- Remembers where a program is, and how often it has been called. -/
def remember (r : Remembered) : Run Unit := modifyProcess fun p =>
  if p.remembered.any (·.name = r.name) then
    { p with remembered := p.remembered.map fun q => if q.name = r.name then r else q }
  else { p with remembered := r :: p.remembered }

def forget (name : Text) : Run Unit := modifyProcess fun p =>
  { p with remembered := p.remembered.filter (·.name ≠ name) }

/-- The path of a program that has been found before; this counts as a call. -/
def recalled? (name : Text) : Run (Option Text) := do
  match ← remembered? name with
  | none => return none
  | some r =>
    remember { r with calls := r.calls + 1 }
    return some r.path

/-- Remembers a program that is called by its name. -/
def noteCall (name : Text) : Run Unit := do
  if !name.any (·.is '/') && !(← process).options.contains "posix" then
    if (← recalled? name).isNone then
      match ← program? name with
      | some (path, _) => remember { name, path, calls := 1 }
      | none => pure ()

/-! Meanings -/

/-- The programs on the search path that go by a name. -/
def programPaths (name : Text) : Run (List Text) := do
  if name.any (·.is '/') then
    match ← program? name with
    | some (_, .unusable _) => return []
    | some (path, _) => return [path]
    | none => return []
  let path := ((← binding? "PATH").bind Variable.plain?).getD []
  let found ← (Text.pieces (.char ':') path).mapM fun d => searchIn name [d]
  return found.filterMap fun f => f.map (·.1)

/-- The meanings of a name, the first of which counts, without the programs that it means. -/
def innerMeanings (name : Text) : Run (List Meaning) := do
  let p ← process
  let aliased := if p.extended.contains "expand_aliases" then (p.aliases.get? name).toList.map Meaning.alias else []
  let keyword := if keywords.contains name then [Meaning.keyword] else []
  let function := (p.functions.get? name).toList.map Meaning.function
  let builtin := if ← isEnabled name then [Meaning.builtin] else []
  return aliased ++ keyword ++ function ++ builtin

/-- The meanings of a name. A program that has been found before is one only if nothing else is. -/
def meanings (name : Text) (all : Bool) : Run (List Meaning) := do
  let inner ← innerMeanings name
  if !inner.isEmpty && !all then return inner.take 1
  if !all then
    match ← recalled? name with
    | some path => return [.remembered path]
    | none => pure ()
  return inner ++ (← programPaths name).map Meaning.program

end Tangle.Shell.Run
