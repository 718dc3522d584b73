import Tangle.Host.Shell.Parameter

/-! # A new shell

The state of a shell that has just been started: variables from the environment, and those that every
shell sets itself. -/
namespace Tangle.Shell

/-- The variables that do not come from the environment. -/
def ownVariables : List (String × Variable) := [
  ("BASH", .ofText "/usr/bin/bash"), ("BASH_ALIASES", { isTable := true, value := .table [] }),
  ("BASH_ARGC", Run.listOf ["0"]), ("BASH_ARGV", { isList := true, value := .list [] }),
  ("BASH_CMDS", { isTable := true, value := .table [] }),
  ("BASH_LOADABLES_PATH", .ofText "/usr/local/lib/bash:/usr/lib/bash:."),
  ("BASH_VERSION", .ofText "5.2.15(1)-release"),
  ("EUID", { value := .text "0", isInteger := true, isReadonly := true }),
  ("HOSTNAME", .ofText "localhost"), ("HOSTTYPE", .ofText "x86_64"), ("IFS", .ofText " \t\n"),
  ("MACHTYPE", .ofText "x86_64-pc-linux-gnu"), ("OPTERR", .ofText "1"), ("OPTIND", .ofText "1"),
  ("OSTYPE", .ofText "linux-gnu"),
  ("PPID", { value := .text "3999", isInteger := true, isReadonly := true }),
  ("PS4", .ofText "+ "), ("UID", { value := .text "0", isInteger := true, isReadonly := true })]

/-- The variables that a shell sets if the environment does not. -/
def defaultVariables : List (String × String) := [
  ("PATH", "/usr/local/sbin:/usr/local/bin:/usr/sbin:/usr/bin:/sbin:/bin"), ("SHELL", "/bin/bash"),
  ("TERM", "dumb")]

def isEnvironmentName (t : Text) : Bool := t.head?.any Symbol.isIdentifierStart && t.all Symbol.isIdentifier

def initialVariables (environment : List (Text × Text)) (here : Text) : Table Variable :=
  let given : Table Variable := (environment.filter fun e => isEnvironmentName e.1).foldl
    (fun t e => t.set e.1 { value := .text e.2, isExported := true }) {}
  let own := ownVariables.foldl (fun t e => t.set (Text.ofString e.1) e.2) given
  let full := defaultVariables.foldl (fun t e => t.setDefault (Text.ofString e.1) (.ofText (Text.ofString e.2))) own
  let depth := match (given.get? "SHLVL").bind Variable.plain? with
    | some t => t.foldl (fun n d => n * 10 + (Escape.digitValue d).getD 0) 0
    | none => 0
  let full := full.set "SHLVL" { value := .text (Text.ofNat (depth + 1)), isExported := true }
  let full := full.set "PWD" { value := .text here, isExported := true }
  full.setDefault "OLDPWD" { isExported := true }

/-- The path of the directory as the environment gives it, if it is right. -/
def inheritedPath (environment : List (Text × Text)) (t : Tree) (directory : Place) : Text :=
  let given := (environment.lookup ("PWD" : Text)).filter fun path =>
    path.startsWith "/" && (t.resolve [] (.ofText path)).toOption = some directory &&
      (Text.pieces (.char '/') path).all fun n => n ≠ ("." : Text) && n ≠ (".." : Text)
  given.getD (Run.placeText directory)

/-- A shell as it is when it starts, in the directory and with the descriptors of its parent. -/
def Process.fresh (environment : List (Text × Text)) (here : Text) (identity : Nat) (parent : Process) : Process where
  globals := initialVariables environment here
  functions := parent.functions.filter fun e => e.2.isExported
  descriptors := parent.descriptors
  directory := parent.directory
  here
  mask := parent.mask
  traps := parent.traps.filter fun e => e.2.isEmpty
  identity := identity
  shell := identity
  task := parent.task
  enclosing := parent.enclosing
  aside := parent.aside

end Tangle.Shell
