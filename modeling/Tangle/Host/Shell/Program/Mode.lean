import Tangle.Host.Shell.Argument
import Tangle.Files.Tree

/-! # Permissions

How permissions are written, and the changes to them that a text such as `u+x,go=r` asks for. -/
namespace Tangle.Shell.Program
open Run

def octalText (n : Nat) : Text := Text.ofChars (Nat.toDigits 8 n)

/-- The letter for the kind of a node. -/
def kindLetter : Node → Char
  | .file .. | .sealed .. => '-'
  | .directory _ => 'd'
  | .link _ => 'l'
  | .pipe .. => 'p'
  | .device _ => 'c'
  | .shared _ => '-'

/-- The kind of a node in words. -/
def kindText : Node → Text
  | .file content _ => if content.isEmpty then "regular empty file" else "regular file"
  | .sealed .. => "regular empty file"
  | .directory _ => "directory"
  | .link _ => "symbolic link"
  | .pipe .. => "fifo"
  | .device _ => "character special file"
  | .shared _ => "regular file"

/-- The number that stands for the kind of a node before its permissions. -/
def kindBits : Node → Nat
  | .file .. | .sealed .. => 0o100000
  | .directory _ => 0o040000
  | .link _ => 0o120000
  | .pipe .. => 0o010000
  | .device _ => 0o020000
  | .shared _ => 0o100000

/-- Permissions in letters. -/
def rightsText (mode : Nat) : Text :=
  let bit (n : Nat) : Bool := mode &&& n ≠ 0
  let three (r w x special : Nat) (letter : Char) : List Char := [
    if bit r then 'r' else '-', if bit w then 'w' else '-',
    if bit special then (if bit x then letter else letter.toUpper) else if bit x then 'x' else '-']
  Text.ofChars (three 0o400 0o200 0o100 0o4000 's' ++ three 0o040 0o020 0o010 0o2000 's' ++
    three 0o004 0o002 0o001 0o1000 't')

def modeText (n : Node) : Text := ([.char (kindLetter n)] : Text) ++ rightsText n.mode

/-- What a change is applied to. -/
structure ModeSubject where
  mode : Nat
  isDirectory : Bool := false
  /-- The permissions that are taken away where nobody is named. -/
  mask : Nat := 0o022

/-- The permissions that the letters for some people cover. -/
def coveredBy (who : Text) : Nat :=
  let has (c : Char) : Bool := who.any (·.is c)
  if has 'a' then 0o7777
  else (if has 'u' then 0o4700 else 0) ||| (if has 'g' then 0o2070 else 0) ||| (if has 'o' then 0o1007 else 0)

/-- The permissions that letters ask for, all people taken together. -/
def askedFor (s : ModeSubject) (letters : Text) : Nat :=
  let has (c : Char) : Bool := letters.any (·.is c)
  let execute := has 'x' || (has 'X' && (s.isDirectory || s.mode &&& 0o111 ≠ 0))
  let copied (shift : Nat) : Nat := (s.mode >>> shift &&& 7) * 0o111
  (if has 'r' then 0o444 else 0) ||| (if has 'w' then 0o222 else 0) ||| (if execute then 0o111 else 0) |||
    (if has 's' then 0o6000 else 0) ||| (if has 't' then 0o1000 else 0) |||
    (if has 'u' then copied 6 else 0) ||| (if has 'g' then copied 3 else 0) ||| (if has 'o' then copied 0 else 0)

/-- The changes behind the people whom they are for. -/
def changeActions (who : Text) : Nat → Text → ModeSubject → Option ModeSubject
  | 0, _, _ => none
  | _, [], s => some s
  | n + 1, sign :: t, s =>
    let letters := t.takeWhile (·.isAnyOf "rwxXstugo")
    let digits := t.takeWhile (·.isAnyOf "01234567")
    let used := if digits.isEmpty then letters.length else digits.length
    let all := if who.isEmpty then 0o7777 else coveredBy who
    let on := if digits.isEmpty then askedFor s letters &&& all
      else digits.foldl (fun n d => n * 8 + (Escape.digitValue d).getD 0) 0
    let on := if who.isEmpty && digits.isEmpty then on &&& (0o7777 ^^^ (s.mask &&& 0o777)) else on
    let off := all &&& (if s.isDirectory then 0o1777 ||| (on &&& 0o6000) else 0o7777)
    let mode? : Option Nat :=
      if sign.is '+' then some (s.mode ||| on)
      else if sign.is '-' then some (s.mode &&& (0o7777 ^^^ on))
      else if sign.is '=' then some (s.mode &&& (0o7777 ^^^ off) ||| on)
      else none
    mode?.bind fun mode => changeActions who n (t.drop used) { s with mode }

/-- The permissions after the changes that a text asks for. -/
def changedMode (spec : Text) (s : ModeSubject) : Option Nat :=
  if !spec.isEmpty && spec.all (·.isAnyOf "01234567") then
    let n := spec.foldl (fun n d => n * 8 + (Escape.digitValue d).getD 0) 0
    if 0o7777 < n then none
    else some (if s.isDirectory && spec.length < 5 then n ||| (s.mode &&& 0o6000) else n)
  else
    let changed : Option ModeSubject := (Text.pieces (.char ',') spec).foldlM (fun (s : ModeSubject) (t : Text) =>
      let who := t.takeWhile (·.isAnyOf "ugoa")
      let rest := t.drop who.length
      if rest.isEmpty then none else changeActions who (rest.length + 1) rest s) s
    changed.map fun s => s.mode

end Tangle.Shell.Program
