import Tangle.Host.Shell.Calling.Code
import Tangle.Host.Shell.Builtin.Completion
import Tangle.Host.Shell.Builtin.Describe
import Tangle.Host.Shell.Builtin.Input
import Tangle.Host.Shell.Builtin.Job
import Tangle.Host.Shell.Builtin.Process

/-! # Calling a command by its name

A name is that of a function, of a command of the shell, or of a program, in this order. The commands
that change the course of the shell end by saying how it goes on. -/
namespace Tangle.Shell.Run
open Builtin

/-- Which meanings of a name count when it is called. -/
inductive Calling where
  | everything
  | withoutFunctions
  | ofShell
deriving DecidableEq

/-- The status that is in force for a command that is not given one: in the action of a trap, that before it. -/
def currentStatus : Run Nat := do
  let p ← process
  return match p.inTraps with
    | (occasion, status) :: _ => if occasion = ("DEBUG" : Text) then p.status else status
    | [] => p.status

/-- The status that an argument of `exit` or `return` asks for. -/
def statusArgument (command : Text) (args : List Text) : Run Nat := do
  match withoutMark args with
  | [] => currentStatus
  | t :: rest =>
    match Brace.integer? t with
    | none =>
      tell command (t ++ ": numeric argument required")
      return 2
    | some n =>
      let _ ← boundArguments command 0 rest
      return (n % 256).toNat

/-- The number of loops that `break` or `continue` is about. -/
def levels (command : Text) (args : List Text) : Run Int := do
  match withoutMark args with
  | [] => return 1
  | t :: rest =>
    match Brace.integer? t with
    | some n =>
      let _ ← boundArguments command 0 rest
      return n
    | none =>
      tell command (t ++ ": numeric argument required")
      setStatus 128
      throw .discard

/-- Leaves loops, if there are any. -/
def leaveLoops (command : Text) (args : List Text) (how : Nat → Control) : Run Nat := do
  let loops := (← process).loops
  if loops = 0 then
    tell command "only meaningful in a \x60for', \x60while', or \x60until' loop"
    return 0
  let n ← levels command args
  if n ≤ 0 then
    tell command (args.getLastD [] ++ ": loop count out of range")
    setStatus 1
    throw (.stopLoop loops)
  setStatus 0
  throw (how (min n.toNat loops))

/-- The commands of the shell that only use their arguments. -/
def plainBuiltin? (name : Text) (args : List Text) : Option (Run Nat) :=
  match name.toDisplayString with
  | ":" => some (return 0)
  | "true" => some (return 0)
  | "false" => some (return 1)
  | "echo" => some (Builtin.echo args)
  | "printf" => some (Builtin.printf args)
  | "read" => some (Builtin.read args)
  | "set" => some (Builtin.set args)
  | "shopt" => some (Builtin.shopt args)
  | "unset" => some (Builtin.unset args)
  | "shift" => some (Builtin.shift args)
  | "let" => some (Builtin.letAll args)
  | "getopts" => some (Builtin.getopts args)
  | "alias" => some (Builtin.aliasAll args)
  | "unalias" => some (Builtin.unaliasAll args)
  | "type" => some (Builtin.type args)
  | "hash" => some (Builtin.hash args)
  | "cd" => some (Builtin.cd args)
  | "pwd" => some (Builtin.pwd args)
  | "dirs" => some (Builtin.dirs args)
  | "pushd" => some (Builtin.pushd args)
  | "popd" => some (Builtin.popd args)
  | "trap" => some (Builtin.trap args)
  | "wait" => some (Builtin.wait args)
  | "jobs" => some (Builtin.jobs args)
  | "kill" => some (Builtin.kill args)
  | "disown" => some (Builtin.disown args)
  | "umask" => some (Builtin.umask args)
  | "caller" => some (Builtin.caller args)
  | "test" => some (Builtin.test args)
  | "[" => some (Builtin.bracket args)
  | "enable" => some (Builtin.enable args)
  | "times" => some (say "0m0.000s 0m0.000s\n0m0.000s 0m0.000s\n")
  | "ulimit" => some (if args.any fun t => t = ("unlimited" : Text) || isNumber t then return 0 else say "unlimited\n")
  | "fg" => some (Builtin.withoutControl "fg")
  | "bg" => some (Builtin.withoutControl "bg")
  | "logout" => some (return 1)
  | "suspend" => some (return 1)
  | _ => if isBuiltin name then some (return 0) else none

section
variable (run : Command → Run Unit)

/-- The commands that run code or end what is running. -/
def controlBuiltin? (name : Text) (args : List Text) : Option (Run Nat) :=
  match name.toDisplayString with
  | "eval" => some do
    let args := match args with
      | t :: rest => if t = ("--" : Text) then rest else args
      | [] => args
    evaluate run "eval" (← process).line false (Text.join " " args)
    return (← process).status
  | "source" => some do sourceFile run "source" args; return (← process).status
  | "." => some do sourceFile run "." args; return (← process).status
  | "exit" => some do throw (.exit (← statusArgument "exit" args))
  | "return" => some do
    let p ← process
    if p.sourced = 0 && p.calls = 0 then
      tell "return" "can only \x60return' from a function or sourced script"
      return 2
    throw (.leave (← statusArgument "return" args))
  | "break" => some (leaveLoops "break" args .stopLoop)
  | "continue" => some (leaveLoops "continue" args .nextTurn)
  | "compgen" => some (Builtin.compgen run args)
  | "complete" => some (Builtin.complete args)
  | "compopt" => some (Builtin.compopt args)
  | "mapfile" => some (Builtin.mapfile run "mapfile" args)
  | "readarray" => some (Builtin.mapfile run "readarray" args)
  | _ => none

/-- Puts a program in the place of the shell. -/
def replaceShell (args : List Text) : Run Nat := do
  withOptions "exec" "cl" "a" args fun _ rest => do
  if !rest.isEmpty && (← process).isRestricted then return ← fault "exec" "restricted"
  match rest with
  | [] => return 0
  | name :: rest =>
    match ← program? name with
    | none =>
      complain ("exec: " ++ name ++ ": not found")
      throw (.exit 127)
    | some (_, .unusable _) =>
      complain ("exec: " ++ name ++ ": cannot execute: Permission denied")
      throw (.exit 126)
    | some _ => throw (.replaced (← launchProgram run (name :: rest)))

def isDeclaring (name : Text) : Bool := Read.isDeclarer name

/-- Runs the function that is called for names without a meaning, or reports the name. -/
def callUnknown (words : List Text) : Run Nat := do
  match (← process).functions.get? "command_not_found_handle" with
  | some f => inSubshell run id (callFunction run "command_not_found_handle" f words)
  | none =>
    let isSearched := ((← binding? "PATH").bind Variable.plain?).isSome
    complain (words.headD [] ++ (if isSearched then ": command not found" else ": No such file or directory"))
    return 127

/-- Calls a program by its name. -/
def callProgram (name : Text) (args : List Text) : Run Nat := do
  if name.any (·.is '/') && (← process).isRestricted then
    complain (name ++ ": restricted: cannot specify \x60/' in command names")
    return 1
  else if (← program? name).isNone && !name.any (·.is '/') then callUnknown run (name :: args)
  else
    noteCall name
    start run (name :: args)

/-- The status of a command that is called by name, with as many names that lead on to others as the
number allows. -/
def callName : Nat → Calling → List Operand → Run Nat
  | 0, _, _ => throw .exhausted
  | _, _, [] => return 0
  | n + 1, which, o :: os => do
    let name := operandText o
    let args := os.map operandText
    if which = .everything && !((← isOn "posix") && specialNames.contains name) then
      match (← process).functions.get? name with
      | some f =>
        callFunction run name f args
        return (← process).status
      | none => pure ()
    if (← process).disabled.contains name then callProgram run name args
    else if isDeclaring name then declare run name os
    else if name = ("command" : Text) then
      withOptions "command" "pvV" "" (args.takeWhile fun t => t.startsWith "-") fun options _ => do
        let rest := os.dropWhile fun o => (operandText o).startsWith "-" && operandText o ≠ ("--" : Text)
        let rest := match rest with
          | o :: more => if operandText o = ("--" : Text) then more else rest
          | [] => rest
        if hasOption 'v' options || hasOption 'V' options then
          describeCommand (hasOption 'V' options) (rest.map operandText)
        else callName n .withoutFunctions rest
    else if name = ("builtin" : Text) then
      let rest := match os with
        | o :: more => if operandText o = ("--" : Text) then more else os
        | [] => os
      match rest with
      | [] => return 0
      | o :: more =>
        if ← isEnabled (operandText o) then callName n .ofShell (o :: more)
        else
          complain ("builtin: " ++ operandText o ++ ": not a shell builtin")
          return 1
    else if name = ("exec" : Text) then replaceShell run args
    else match (controlBuiltin? run name args).or (plainBuiltin? name args) with
      | some r => r
      | none => callProgram run name args

/-! Simple commands -/

/-- An assignment as the text of an argument. -/
def assignmentText (name : Text) (index : Option Text) (appends : Bool) (t : Text) : Text :=
  name ++ (match index with | some i => "[" ++ i ++ "]" | none => []) ++ Read.signText appends ++ t

/-- Whether an operand of a declaring command asks for a table. -/
def asksForTable (o : Operand) : Bool :=
  match o with
  | .text (.char '-' :: letters) => letters.any (·.is 'A')
  | _ => false

/-- The operands that an argument comes to, some of which may be meant to be tables. The elements of an
array are found before the command is called. -/
def operandsOf (isTable : Bool) : Argument → Run (List Operand)
  | .word w => do return (← fieldsOf run w).map .text
  | .assignment (.mk _ name index appends (.scalar w)) => do
    let i ← indexOf run index
    let t ← valueOf run w
    return [.text (assignmentText name i appends t)]
  | .assignment (.mk _ name index appends (.array es)) => do
    let inCall := 0 < (← process).calls
    let old ← if inCall then local? name else binding? name
    let ps := (← es.mapM (element run (isTable || old.any (·.isTable)))).flatten
    let source := name ++ Read.signText appends ++ "(" ++ Text.join " " (ps.map (·.source)) ++ ")"
    trace run fun _ => source
    return [.assignment (.mk source name index appends (.array (ps.map (·.element))))]

/-- The operands that some arguments come to, behind others. -/
def allOperands : List Argument → (before : List Operand) → Run (List Operand)
  | [], before => return before
  | a :: rest, before => do
    allOperands rest (before ++ (← operandsOf run (before.any asksForTable) a))

/-- The variable that an assignment sets for one command, in the scope of that command. -/
def bindForCommand : Assignment → Run Unit
  | .mk source name _ appends value => do
    let t ← match value with
      | .scalar w => valueOf run w
      | .array _ => pure (source.drop (name.length + 1))
    let old := (← binding? name).getD {}
    let t := if appends then old.plain?.getD [] ++ t else t
    traceAssignment run name false t
    if old.isReadonly then complain (name ++ ": readonly variable")
    else
      modifyProcess fun p => { p.withLocalName name with scopes := match p.scopes with
        | s :: ss => { s with table := s.table.set name { value := .text t.normal, isExported := true } } :: ss
        | [] => [] }

/-- Whether the redirections of a command stay. -/
def isForGood (words : List Text) : Bool :=
  let isCarrier (t : Text) : Bool := t = ("command" : Text) || t = ("builtin" : Text)
  (words.dropWhile isCarrier).head? = some "exec"

def greatestLead : Nat := 100

/-- An operand as it is written in a trace: an array is left out, which is written by itself. -/
def shownWord : Operand → Text
  | .text t => t
  | .assignment a => a.name

/-- Whether a wrong use of a command ends the shell: a status of those that run other commands is not their
own. -/
def endsShell (operands : List Operand) : Bool :=
  let runners : List Text := ["eval", ".", "source", "exec", "exit", "return"]
  !(operands.head?.map operandText).any runners.contains

/-- Calls a command with its redirections and the variables set for it. Where the option `posix` is on,
those of a special command stay, and its failures are those of the shell. -/
def callWith (as : List Assignment) (rs : List Redirect) (operands : List Operand) : Run Unit := do
  let isSpecial := (← isOn "posix") && (operands.head?.map operandText).any specialNames.contains
  if isSpecial then carryOutAll run as
  let as := if isSpecial then [] else as
  if !as.isEmpty then modifyProcess fun p => { p with scopes := { level := p.calls } :: p.scopes }
  unlessEnding (do
    for a in as do bindForCommand run a
    traceWords run (operands.map shownWord)
    let isCalled ← redirected run rs (isForGood (operands.map operandText)) do
      setStatus (← callName run greatestLead .everything operands)
      let status := (← process).status
      if isSpecial && status = 2 && endsShell operands then throw (.exit 2)
    if isSpecial && !isCalled then throw (.exit 1))
    (if as.isEmpty then pure () else modifyProcess fun p => { p with scopes := p.scopes.tail })

/-- Assigns without a command; the status is that of the last command in the values. -/
def assignOnly (as : List Assignment) (rs : List Redirect) : Run Unit := do
  carryOutAll run as
  let _ ← redirected run rs false do
    setStatus ((← process).substitutionStatus.getD 0)

/-- Runs a simple command; whether its redirections stay. -/
def callSimple (as : List Assignment) (arguments : List Argument) (rs : List Redirect) : Run Bool := do
  let operands ← allOperands run arguments []
  let words := operands.map operandText
  if operands.isEmpty then assignOnly run as rs
  else
    callWith run as rs operands
    modifyProcess fun p => { p with lastArgument := words.getLastD [] }
  return isForGood words

/-- Makes a simple command the current one, and tells whether it is to be run. -/
def announcedSimple (line : Nat) (as : List Assignment) (arguments : List Argument) (rs : List Redirect) :
    Run Bool := do
  modifyProcess fun p => { p with line }
  announced run fun _ docs => (Command.simple line as arguments rs).inlineText docs

/-- Runs a simple command that is the current one. -/
def currentSimple (as : List Assignment) (arguments : List Argument) (rs : List Redirect) : Run Unit := do
  modifyProcess fun p => { p with substitutionStatus := none }
  withProcesses (callSimple run as arguments rs)
  finish run

def simple (line : Nat) (as : List Assignment) (arguments : List Argument) (rs : List Redirect) : Run Unit := do
  if ← announcedSimple run line as arguments rs then currentSimple run as arguments rs

end

end Tangle.Shell.Run
