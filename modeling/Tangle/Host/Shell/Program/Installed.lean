import Tangle.Host.Shell.Program.Search
import Tangle.Host.Shell.Program.Sed
import Tangle.Host.Shell.Program.Sorting
import Tangle.Host.Shell.Program.Filling
import Tangle.Host.Shell.Program.Portion
import Tangle.Host.Shell.Program.Translation
import Tangle.Host.Shell.Program.Checksum
import Tangle.Host.Shell.Program.Encoding
import Tangle.Host.Shell.Program.Dump
import Tangle.Host.Shell.Program.Naming
import Tangle.Host.Shell.Program.Moving
import Tangle.Host.Shell.Program.Sequence
import Tangle.Host.Shell.Program.Quantity
import Tangle.Host.Shell.Program.Expression
import Tangle.Host.Shell.Program.Facts
import Tangle.Host.Shell.Program.Comparing
import Tangle.Host.Shell.Program.Starting
import Tangle.Host.Shell.Builtin.Directory
import Tangle.Host.Shell.Builtin.Output
import Tangle.Host.Shell.Builtin.Test

/-! # Installed programs

The program behind each name. Programs that start others are given the ways in which that is done. -/
namespace Tangle.Shell.Program
open Run

/-! Programs that are commands of the shell as well -/

def echo (args : List Text) : Run Nat := do
  let (newline, escapes, ts) := Builtin.echoOptions args true false
  let t := Text.join " " ts
  let (t, stopped) := if escapes then Escape.run .echo t else (t, false)
  put "echo" (t ++ (if newline && !stopped then "\n" else ""))
  return 0

def printf (args : List Text) : Run Nat := do
  match withoutMark args with
  | [] => misuse "printf" 1 "missing operand"
  | format :: rest =>
    let w := Format.run (← Builtin.moments) format rest
    for c in w.complaints do report "printf" c
    put "printf" w.text
    return if w.isSound then 0 else 1

def pwd (args : List Text) : Run Nat := do
  let fs : List Flag := [{ key := 'L', name := "logical" }, { key := 'P', name := "physical" }]
  withFlags "pwd" 1 fs args fun cs _ => do
    if lastOf "LP" cs = some 'L' then Builtin.pwd ["-L"] else Builtin.pwd ["-P"]

/-! Tables -/

abbrev Entrance := String × (List Text → Run Nat)

def shared : List Entrance := [
  ("true", fun _ => return 0), ("false", fun _ => return 1), ("echo", echo), ("printf", printf), ("pwd", pwd),
  ("test", Builtin.testWith (report "test")), ("[", Builtin.bracketWith (report "["))]

def textual : List Entrance := [
  ("cat", cat), ("tac", tac), ("rev", rev), ("tee", tee), ("nl", nl), ("head", head), ("tail", tail), ("split", split),
  ("csplit", csplit), ("truncate", truncate), ("dd", dd), ("sort", sort), ("uniq", uniq), ("comm", comm), ("join", join),
  ("tsort", tsort), ("shuf", shuf), ("wc", wc), ("cut", cut), ("paste", paste), ("expand", expand),
  ("unexpand", unexpand), ("fold", fold), ("fmt", fmt), ("tr", tr), ("cmp", cmp), ("diff", diff), ("od", od),
  ("base64", base64), ("base32", base32), ("basenc", basenc), ("grep", grep .basic), ("egrep", grep .extended),
  ("fgrep", grep .fixed)]

def digesting : List Entrance := [
  ("md5sum", digestProgram "md5sum" .md5), ("sha1sum", digestProgram "sha1sum" .sha1),
  ("sha224sum", digestProgram "sha224sum" .sha224), ("sha256sum", digestProgram "sha256sum" .sha256),
  ("sha384sum", digestProgram "sha384sum" .sha384), ("sha512sum", digestProgram "sha512sum" .sha512),
  ("b2sum", b2sum), ("sum", sum), ("cksum", cksum)]

def filing : List Entrance := [
  ("ls", ls), ("dir", dir), ("vdir", vdir), ("stat", stat), ("du", du), ("mkdir", mkdir), ("rmdir", rmdir), ("rm", rm),
  ("unlink", unlink), ("ln", ln), ("link", link), ("mkfifo", mkfifo), ("mktemp", mktemp), ("touch", touch),
  ("chmod", chmod), ("chown", chown "chown"), ("chgrp", chown "chgrp"), ("cp", cp), ("mv", mv), ("install", install),
  ("basename", basename), ("dirname", dirname), ("realpath", realpath), ("readlink", readlink), ("pathchk", pathchk)]

def telling : List Entrance := [
  ("seq", seq), ("factor", factor), ("numfmt", numfmt), ("expr", expr), ("yes", yes), ("uname", uname),
  ("arch", tellOne "arch" "x86_64"), ("hostname", tellOne "hostname" "localhost"), ("nproc", nproc), ("tty", tty),
  ("id", userFacts), ("whoami", tellOne "whoami" "root"), ("groups", groups), ("logname", logname),
  ("printenv", printenv), ("which", which), ("date", date), ("sleep", sleep), ("sync", fun _ => return 0)]

def starting (starter : Starter) : List Entrance := [
  ("sed", sed fun words => do return (← starter.run words).code), ("env", env starter), ("nice", nice starter),
  ("nohup", nohup starter), ("stdbuf", stdbuf starter), ("setsid", setsid starter), ("timeout", timeout starter),
  ("xargs", xargs starter)]

/-- Runs an installed program other than a shell. -/
def installed (starter : Starter) (name : Text) (args : List Text) : Run Nat :=
  match (shared ++ textual ++ digesting ++ filing ++ telling ++ starting starter).find? fun e => name = (e.1 : Text) with
  | some e => e.2 args
  | none => return 127

end Tangle.Shell.Program
