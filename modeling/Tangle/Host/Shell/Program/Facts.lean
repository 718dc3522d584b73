import Tangle.Host.Shell.Program.Source

/-! # Facts about the machine and its user

The programs that tell what the machine is called, who uses it and what the environment holds, and the one that
says the same thing without end. -/
namespace Tangle.Shell.Program
open Run

/-- Writes a text again and again. -/
def repeatedly (block : Text) : Nat → Run Unit
  | 0 => throw .exhausted
  | n + 1 => do
    put "yes" block
    tick 100
    repeatedly block n

def yes (args : List Text) : Run Nat := do
  let line := (if args.isEmpty then ("y" : Text) else Text.join " " (withoutMark args)) ++ "\n"
  repeatedly (List.replicate (4096 / line.length + 1) line).flatten greatestPieces
  return 1

/-! The machine -/

/-- The facts that are told together, each by its letter. -/
def machineFacts : List (Char × String) := [
  ('s', "Linux"), ('n', "localhost"), ('r', "6.1.0"), ('v', "#1 SMP"), ('m', "x86_64"), ('p', "unknown"), ('i', "unknown"),
  ('o', "GNU/Linux")]

def uname (args : List Text) : Run Nat := do
  let fs : List Flag := [
    { key := 'a', name := "all" }, { key := 's', name := "kernel-name" }, { key := 'n', name := "nodename" },
    { key := 'r', name := "kernel-release" }, { key := 'v', name := "kernel-version" }, { key := 'm', name := "machine" },
    { key := 'p', name := "processor" }, { key := 'i', name := "hardware-platform" },
    { key := 'o', name := "operating-system" }]
  withFlags "uname" 1 fs args fun cs operands => do
    needOperands "uname" 0 (some 0) operands
    let chosen := machineFacts.filter fun f =>
      if hasOption 'a' cs then f.2 ≠ "unknown" else if cs.isEmpty then f.1 = 's' else hasOption f.1 cs
    put "uname" (Text.join " " (chosen.map fun f => (f.2 : Text)) ++ "\n")
    return 0

/-- A program that tells one thing and takes no operands. -/
def tellOne (program fact : Text) (args : List Text) : Run Nat := withFlags program 1 [] args fun _ operands => do
  needOperands program 0 (some 0) operands
  put program (fact ++ "\n")
  return 0

def nproc (args : List Text) : Run Nat := do
  let fs : List Flag := [{ key := 'a', name := "all", isLetter := false },
    { key := 'i', name := "ignore", need := .required, isLetter := false }]
  withFlags "nproc" 1 fs args fun _ operands => do
    needOperands "nproc" 0 (some 0) operands
    put "nproc" "1\n"
    return 0

/-- No input comes from a terminal. -/
def tty (args : List Text) : Run Nat := do
  let fs : List Flag := [{ key := 's', name := "silent" }, { key := 's', name := "quiet", isLetter := false }]
  withFlags "tty" 2 fs args fun cs operands => do
    needOperands "tty" 0 (some 0) operands 2
    if !hasOption 's' cs then put "tty" "not a tty\n"
    return 1

/-! The user -/

def isRoot (t : Text) : Bool := t = ("root" : Text) || t = ("0" : Text)

def userFacts (args : List Text) : Run Nat := do
  let fs : List Flag := [
    { key := 'a' }, { key := 'Z', name := "context" }, { key := 'g', name := "group" }, { key := 'G', name := "groups" },
    { key := 'n', name := "name" }, { key := 'r', name := "real" }, { key := 'u', name := "user" },
    { key := 'z', name := "zero" }]
  withFlags "id" 1 fs args fun cs users => do
    let kinds := cs.filter fun c => "gGu".contains c.1
    if kinds.any fun c => kinds.any fun d => c.1 ≠ d.1 then
      die "id" 1 "cannot print \"only\" of more than one choice"
    if kinds.isEmpty && (hasOption 'n' cs || hasOption 'r' cs) then
      die "id" 1 "cannot print only names or real IDs in default format"
    if kinds.isEmpty && hasOption 'z' cs then die "id" 1 "option --zero not permitted in default format"
    let fact : Text := if kinds.isEmpty then "uid=0(root) gid=0(root) groups=0(root)"
      else if hasOption 'n' cs then "root" else "0"
    let oks ← (if users.isEmpty then [("root" : Text)] else users).mapM fun u => do
      if isRoot u then
        put "id" (fact ++ (if hasOption 'z' cs then [Symbol.nul] else "\n"))
        return true
      else
        report "id" (curved u ++ ": no such user")
        return false
    return statusOf (oks.all (·))

def groups (args : List Text) : Run Nat := withFlags "groups" 1 [] args fun _ users => do
  if users.isEmpty then
    put "groups" "root\n"
    return 0
  let oks ← users.mapM fun u => do
    if isRoot u then
      put "groups" (u ++ " : root\n")
      return true
    else
      report "groups" (curved u ++ ": no such user")
      return false
  return statusOf (oks.all (·))

def logname (args : List Text) : Run Nat := withFlags "logname" 1 [] args fun _ operands => do
  needOperands "logname" 0 (some 0) operands
  die "logname" 1 "no login name"

/-! The environment -/

def printenv (args : List Text) : Run Nat := do
  withFlagsFirst "printenv" 2 [{ key := '0', name := "null" }] args fun cs names => do
    let mark : Text := if hasOption '0' cs then [Symbol.nul] else "\n"
    let environment ← wholeEnvironment
    if names.isEmpty then
      put "printenv" (environment.flatMap fun e => e.1 ++ "=" ++ e.2 ++ mark)
      return 0
    let found := names.map fun n => environment.lookup n
    put "printenv" ((found.filterMap (·)).flatMap (· ++ mark))
    return statusOf (found.all (·.isSome))

/-! The search path -/

def which (args : List Text) : Run Nat := withFlags "which" 2 [{ key := 'a' }, { key := 's' }] args fun cs names => do
  let oks ← names.mapM fun n => do
    let places ← programPaths n
    if !hasOption 's' cs then putLines "which" (if hasOption 'a' cs then places else places.take 1)
    return !places.isEmpty
  return if oks.all (·) && !names.isEmpty then 0 else 1

end Tangle.Shell.Program
