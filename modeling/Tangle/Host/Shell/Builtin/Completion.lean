import Tangle.Host.Shell.Builtin.Signal
import Tangle.Host.Shell.Builtin.Setting
import Tangle.Host.Shell.Calling.Code

/-! # Completion

The commands that tell by which words another word can be completed, and that remember for which command
which of them are to be used. -/
namespace Tangle.Shell.Builtin
open Run

/-! Specifications -/

/-- The kinds of names with a letter of their own. -/
def kindLetters : List (Char × String) := [
  ('a', "alias"), ('b', "builtin"), ('c', "command"), ('d', "directory"), ('e', "export"), ('f', "file"),
  ('g', "group"), ('j', "job"), ('k', "keyword"), ('s', "service"), ('u', "user"), ('v', "variable")]

/-- The kinds of names without one. -/
def otherKinds : List String := [
  "arrayvar", "binding", "disabled", "enabled", "function", "helptopic", "hostname", "running", "setopt",
  "shopt", "signal", "stopped"]

/-- All kinds, in the order in which names are gathered. -/
def kindsInOrder : List String := [
  "alias", "arrayvar", "binding", "builtin", "disabled", "enabled", "export", "function", "helptopic",
  "hostname", "job", "keyword", "running", "setopt", "shopt", "signal", "stopped", "variable", "command",
  "file", "user", "group", "service", "directory"]

def completionOptions : List String := [
  "bashdefault", "default", "dirnames", "filenames", "noquote", "nosort", "nospace", "plusdirs"]

/-- How words are found by which a word can be completed. -/
structure Completing where
  kinds : List Text := []
  options : List Text := []
  pattern : Option Text := none
  words : Option Text := none
  function : Option Text := none
  command : Option Text := none
  filter : Option Text := none
  prefix_ : Option Text := none
  suffix_ : Option Text := none

def isKind (t : Text) : Bool := kindsInOrder.any fun (k : String) => t = (k : Text)

/-- Reads a specification from options, or tells what is wrong with them. -/
def completingOf : Chosen → Completing → Except Text Completing
  | [], c => .ok c
  | (l, t) :: os, c =>
    match l with
    | 'A' => if isKind t then completingOf os { c with kinds := t :: c.kinds } else .error (t ++ ": invalid action name")
    | 'o' =>
      if completionOptions.any fun (o : String) => t = (o : Text) then completingOf os { c with options := t :: c.options }
      else .error (t ++ ": invalid option name")
    | 'G' => completingOf os { c with pattern := some t }
    | 'W' => completingOf os { c with words := some t }
    | 'F' => completingOf os { c with function := some t }
    | 'C' => completingOf os { c with command := some t }
    | 'X' => completingOf os { c with filter := some t }
    | 'P' => completingOf os { c with prefix_ := some t }
    | 'S' => completingOf os { c with suffix_ := some t }
    | l =>
      match kindLetters.lookup l with
      | some k => completingOf os { c with kinds := Text.ofString k :: c.kinds }
      | none => completingOf os c

/-- The arguments that stand for a specification. -/
def Completing.arguments (c : Completing) : Text :=
  let options : List Text := completionOptions.map fun o =>
    if c.options.contains (Text.ofString o) then "-o " ++ Text.ofString o ++ " " else []
  let letters : List Text := kindLetters.map fun (l, k) =>
    if c.kinds.contains (Text.ofString k) then "-" ++ ([.char l] : Text) ++ " " else []
  let others : List Text := otherKinds.map fun k =>
    if c.kinds.contains (Text.ofString k) then "-A " ++ Text.ofString k ++ " " else []
  let quoted (letter : Text) (t : Option Text) : Text :=
    t.elim [] fun t => letter ++ " '" ++ Text.replaceAll (.char '\'') "'\\''" t ++ "' "
  let given (f : Text) : Text := "-F " ++ f ++ " "
  (options ++ letters ++ others).flatten ++ quoted "-G" c.pattern ++ quoted "-W" c.words ++ quoted "-P" c.prefix_ ++
    quoted "-S" c.suffix_ ++ quoted "-X" c.filter ++ quoted "-C" c.command ++
    c.function.elim [] given

/-! Names -/

def variableNames : Run (List Text) := do
  let names := (← visible).filterMap fun (n, v) => if v.value == .none then none else some n
  let ordinary := (← process).ordinary
  let computed := dynamicNames.filter fun n => n ≠ ("FUNCNAME" : Text) && !ordinary.contains n
  return sortedNames ((names ++ computed).eraseDups)

/-- The names that begin with a word which may lead into a directory. -/
def namesInDirectory (onlyDirectories : Bool) (word : Text) : Run (List Text) := do
  let stem := (word.reverse.takeWhile (!·.is '/')).reverse
  let head := word.take (word.length - stem.length)
  match ← lookup (if head.isEmpty then "." else head) with
  | .ok (at_, .directory _) =>
    return ((← tree).children at_).filterMap fun (n, node) =>
      if n.startsWith stem && (!onlyDirectories || node.isDirectory) then some (head ++ n) else none
  | _ => return []

def kindNames (kind : String) (word : Text) : Run (List Text) := do
  match kind with
  | "variable" => variableNames
  | "function" => functionNames
  | "builtin" => return builtinNames
  | "enabled" => return builtinNames
  | "helptopic" => return builtinNames
  | "keyword" => return keywords
  | "alias" => return sortedNames (← process).aliases.keys
  | "export" =>
    return sortedNames ((← visible).filterMap fun (n, v) => if v.isExported && v.value ≠ .none then some n else none)
  | "arrayvar" =>
    return sortedNames ((← visible).filterMap fun (n, v) => if v.isList || v.isTable then some n else none)
  | "shopt" => return Options.extended.map Text.ofString
  | "setopt" => return Options.named.map fun e => Text.ofString e.1
  | "signal" => return occasions.map fun o => occasionText o.1
  | "file" => namesInDirectory false word
  | "directory" => namesInDirectory true word
  | "command" =>
    return sortedNames (← process).aliases.keys ++ keywords ++ (← functionNames) ++ builtinNames ++ programNames
  | "user" => return ["root"]
  | "group" => return ["root"]
  | "running" => return (← process).jobs.map (·.text)
  | "job" => return (← process).jobs.map (·.text)
  | _ => return []

section
variable (run : Command → Run Unit)

/-- What a function leaves in `COMPREPLY`. -/
def functionReplies (name word : Text) : Run (List Text) := do
  let _ ← Run.write 2 ("bash: compgen: warning: -F option may not work as you expect\n")
  match (← process).functions.get? name with
  | none =>
    complain ("warning: compgen: function \x60" ++ name ++ "' not found")
    return []
  | some f =>
    callFunction run name f ["compgen", word, []]
    let replies := ((← binding? "COMPREPLY").map Variable.elements).getD []
    removeVariable "COMPREPLY"
    return replies

/-- The lines that a command writes. -/
def commandReplies (command word : Text) : Run (List Text) := do
  let t ← capturedText run (command ++ " " ++ apostrophed "compgen" ++ " " ++ apostrophed word ++ " ''")
  return (Text.pieces (.char '\n') t).filter (!·.isEmpty)

/-- The words that a specification gives for a word. -/
def completions (c : Completing) (word : Text) : Run (List Text) := do
  let begins (t : Text) : Bool := t.startsWith word
  let named ← (kindsInOrder.filter fun k => c.kinds.contains (Text.ofString k)).mapM fun k => do
    return (← kindNames k word).filter begins
  let files ← match c.pattern with
    | some t => filenames (Glyph.ofText false t)
    | none => pure []
  let files := files.filter fun t => c.pattern ≠ some t
  let listed ← match c.words with
    | some t => pure ((← fields run (Read.wordsOf t)).filter begins)
    | none => pure []
  let replied ← match c.function with
    | some f => functionReplies run f word
    | none => pure []
  let written ← match c.command with
    | some t => commandReplies run t word
    | none => pure []
  let found := named.flatten ++ files ++ listed ++ replied ++ written
  let kept ← match c.filter with
    | none => pure found
    | some t => do
      let (isNegated, t) : Bool × Text := match t with
        | .char '!' :: t => (true, t)
        | t => (false, t)
      let p := Pattern.ofGlyphs true (Glyph.ofText false (Text.replaceAll (.char '&') word t))
      pure (found.filter fun u => Pattern.isMatch p false u == isNegated)
  let shown := kept.map fun t => c.prefix_.getD [] ++ t ++ c.suffix_.getD []
  if shown.isEmpty && c.options.contains "dirnames" then namesInDirectory true word
  else if c.options.contains "plusdirs" then return shown ++ (← namesInDirectory true word)
  else return shown

def compgen (args : List Text) : Run Nat :=
  withOptions "compgen" "abcdefgjksuv" "oAGWPSXFC" args fun os rest => do
    match completingOf os {} with
    | .error message =>
      tell "compgen" message
      return 2
    | .ok c =>
      let found ← completions run c (rest.headD [])
      if found.isEmpty then return 1
      say (found.flatMap fun t => t ++ "\n")

end

/-! Remembered specifications -/

def completionLine (name arguments : Text) : Text :=
  "complete " ++ arguments ++ (if name.isEmpty then ("''" : Text) else name) ++ "\n"

/-- The remembered specifications in the order in which they are listed. -/
def orderedCompletions (t : Table Text) : List (Text × Text) :=
  let keyed := t.toList.reverse.map fun e => (Variable.hash e.1 % 512, e)
  (keyed.mergeSort fun a b => a.1 ≤ b.1).map (·.2)

def complete (args : List Text) : Run Nat :=
  withOptions "complete" "abcdefgjksuvprDEI" "oAGWPSXFC" args fun os rest => do
    let targets := if hasOption 'D' os then [("-D" : Text)] else if hasOption 'E' os then ["-E"]
      else if hasOption 'I' os then ["-I"] else rest
    let unknown (name : Text) : Run Nat := fault "complete" (name ++ ": no completion specification")
    if hasOption 'r' os then
      if targets.isEmpty then
        modifyProcess fun p => { p with completions := {} }
        return 0
      eachText targets fun name => do
        if !(← process).completions.contains name then return ← unknown name
        modifyProcess fun p => { p with completions := p.completions.erase name }
        return 0
    else if hasOption 'p' os || args.isEmpty then
      let known := (← process).completions
      if targets.isEmpty then
        say ((orderedCompletions known).flatMap fun e => completionLine e.1 e.2)
      else eachText targets fun name => do
        match known.get? name with
        | some t => say (completionLine name t)
        | none => unknown name
    else
      match completingOf os {} with
      | .error message =>
        tell "complete" message
        return 2
      | .ok c =>
        if targets.isEmpty then showUsage "complete"
        else
          modifyProcess fun p => { p with
            completions := targets.foldl (fun t name => t.set name c.arguments) p.completions }
          return 0

def compopt (args : List Text) : Run Nat :=
  withOptions "compopt" "DEI" "o" (args.filter (!·.startsWith "+o")) fun _ rest => do
    if rest.isEmpty then fault "compopt" "not currently executing completion function"
    else eachText rest fun name => do
      if (← process).completions.contains name then return 0
      fault "compopt" (name ++ ": no completion specification")

end Tangle.Shell.Builtin
