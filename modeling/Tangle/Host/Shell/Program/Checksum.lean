import Tangle.Host.Shell.Program.Source
import Tangle.Host.Digest.Md5
import Tangle.Host.Digest.Sha
import Tangle.Host.Digest.Blake
import Tangle.Host.Digest.Check

/-! # Digests of files

The programs that tell the digest of each file, or check files against digests that have been told before. -/
namespace Tangle.Shell.Program
open Run

/-- A way of making a digest. -/
structure Hashing where
  /-- The name of the digest before the name of a file. -/
  tag : Text
  /-- The number of bytes. -/
  size : Nat
  digest : Bytes → Bytes

namespace Hashing

def md5 : Hashing := ⟨"MD5", 16, Digest.md5⟩
def sha1 : Hashing := ⟨"SHA1", 20, Digest.sha1⟩
def sha224 : Hashing := ⟨"SHA224", 28, Digest.sha224⟩
def sha256 : Hashing := ⟨"SHA256", 32, Digest.sha256⟩
def sha384 : Hashing := ⟨"SHA384", 48, Digest.sha384⟩
def sha512 : Hashing := ⟨"SHA512", 64, Digest.sha512⟩

/-- The digest of a number of bits. -/
def blake2b (bits : Nat) : Hashing :=
  ⟨if bits = 512 then "BLAKE2b" else "BLAKE2b-" ++ Text.ofNat bits, bits / 8, Digest.blake2b (bits / 8)⟩

/-- The digest that goes by a name. -/
def ofName? (name : Text) : Option Hashing :=
  match name.toDisplayString with
  | "md5" => some md5
  | "sha1" => some sha1
  | "sha224" => some sha224
  | "sha256" => some sha256
  | "sha384" => some sha384
  | "sha512" => some sha512
  | "blake2b" => some (blake2b 512)
  | _ => none

end Hashing

/-! Telling -/

/-- A file name in which nothing ends the line, with whether that took a change. -/
def escapedName (name : Text) : Text × Bool :=
  if name.any (·.isAnyOf "\\\n\r") then
    (name.flatMap fun s =>
      if s.is '\\' then ("\\\\" : Text) else if s.is '\n' then "\\n" else if s.is '\r' then "\\r" else [s], true)
  else (name, false)

/-- How digests are told. -/
structure DigestForm where
  isTagged : Bool := false
  isBinary : Bool := false
  endsInNul : Bool := false

def DigestForm.line (f : DigestForm) (h : Hashing) (name : Text) (digest : Bytes) : Text :=
  let (name, isEscaped) := if f.endsInNul then (name, false) else escapedName name
  let mark : Text := if isEscaped then "\\" else ""
  let hex := Digest.hexText digest
  let ending : Text := if f.endsInNul then [Symbol.nul] else "\n"
  if f.isTagged then mark ++ h.tag ++ " (" ++ name ++ ") = " ++ hex ++ ending
  else mark ++ hex ++ (if f.isBinary then " *" else "  ") ++ name ++ ending

def tellDigests (program : Text) (h : Hashing) (f : DigestForm) (paths : List Text) : Run Nat := do
  let ((), ok) ← eachSource program (fun path i () => do
    let bs ← keeping i (drain i)
    put program (f.line h path (h.digest bs))) (sourcesOf paths) ()
  return statusOf ok

/-! Checking -/

/-- What a line tells: the digest that a file should have. -/
structure Claim where
  hashing : Hashing
  name : Text
  hex : Text

def isHex (t : Text) : Bool := !t.isEmpty && t.all (·.isAnyOf "0123456789abcdefABCDEF")

/-- A file name as it was before it was escaped. -/
def unescapedName : Text → Text
  | .char '\\' :: .char 'n' :: t => Symbol.newline :: unescapedName t
  | .char '\\' :: .char 'r' :: t => .char '\r' :: unescapedName t
  | .char '\\' :: .char '\\' :: t => .char '\\' :: unescapedName t
  | s :: t => s :: unescapedName t
  | [] => []

/-- The digests that a tag may stand for. -/
def taggedHashing? (hs : List Hashing) (tag : Text) : Option Hashing :=
  (hs.find? (·.tag = tag)).or (
    match Text.after? tag "BLAKE2b-" with
    | some bits =>
      if hs.any (·.tag = ("BLAKE2b" : Text)) && bits.all Symbol.isDigit then some (.blake2b (naturalOf bits)) else none
    | none => none)

def claim? (hs : List Hashing) (line : Text) : Option Claim :=
  let (isEscaped, line) : Bool × Text := match line with
    | .char '\\' :: t => (true, t)
    | t => (false, t)
  let name (t : Text) : Text := if isEscaped then unescapedName t else t
  let tag := line.takeWhile (!·.isAnyOf " (")
  let behind := Text.trimStartBy (·.is ' ') (line.drop tag.length)
  match taggedHashing? hs tag, behind with
  | some h, .char '(' :: t =>
    let hex := (t.reverse.takeWhile (!·.is ' ')).reverse
    let rest := t.take (t.length - hex.length)
    if Text.endsWith rest ") = " && isHex hex && hex.length = 2 * h.size then
      some ⟨h, name (rest.take (rest.length - 4)), hex⟩
    else none
  | _, _ =>
    match hs with
    | [h] =>
      let hex := line.takeWhile (!·.is ' ')
      let h := if h.tag.startsWith "BLAKE2b" then .blake2b (hex.length * 4) else h
      if isHex hex && hex.length = 2 * h.size then
        match line.drop hex.length with
        | .char ' ' :: .char ' ' :: t => some ⟨h, name t, hex⟩
        | .char ' ' :: .char '*' :: t => some ⟨h, name t, hex⟩
        | .char ' ' :: t => if t.isEmpty then none else some ⟨h, name t, hex⟩
        | _ => none
      else none
    | _ => none

structure CheckManner where
  isSilent : Bool := false
  isQuiet : Bool := false
  isStrict : Bool := false
  warns : Bool := false
  ignoresMissing : Bool := false

/-- What checking has come to. -/
structure CheckTally where
  proper : Nat := 0
  improper : Nat := 0
  unread : Nat := 0
  different : Nat := 0
  good : Nat := 0

/-- Checks what one line tells. -/
def checkClaim (program : Text) (m : CheckManner) (t : CheckTally) (c : Claim) : Run CheckTally := do
  let t := { t with proper := t.proper + 1 }
  let (shownName, isEscaped) := escapedName c.name
  let tell (outcome : Text) : Run Unit :=
    put program ((if isEscaped then ("\\" : Text) else "") ++ shownName ++ ": " ++ outcome ++ "\n")
  match ← openSource c.name with
  | .error e =>
    if m.ignoresMissing && e = .notFound then return t
    reportSource program c.name e
    if !m.isSilent then tell "FAILED open or read"
    return { t with unread := t.unread + 1 }
  | .ok i =>
    let digest := c.hashing.digest (← keeping i (drain i))
    if Digest.hexText digest = c.hex.map Symbol.toLower then
      if !m.isSilent && !m.isQuiet then tell "OK"
      return { t with good := t.good + 1 }
    if !m.isSilent then tell "FAILED"
    return { t with different := t.different + 1 }

def checkFile (program : Text) (hs : List Hashing) (m : CheckManner) (path : Text) (bs : Bytes) : Run Bool := do
  let name : Text := if isDash path then "standard input" else path
  let mut t : CheckTally := {}
  let mut number := 0
  for line in linesIn false bs do
    number := number + 1
    if line.head?.any (·.is '#') then continue
    match claim? hs line with
    | some c => t ← checkClaim program m t c
    | none =>
      t := { t with improper := t.improper + 1 }
      if m.warns then
        report program (name ++ ": " ++ Text.ofNat number ++ ": improperly formatted checksum line")
  if t.proper = 0 then
    report program (name ++ ": no properly formatted checksum lines found")
    return false
  let warn (n : Nat) (one many : Text) : Run Unit := do
    if 0 < n && !m.isSilent then
      report program ("WARNING: " ++ Text.ofNat n ++ " " ++ (if n = 1 then one else many))
  warn t.improper "line is improperly formatted" "lines are improperly formatted"
  warn t.unread "listed file could not be read" "listed files could not be read"
  warn t.different "computed checksum did NOT match" "computed checksums did NOT match"
  if m.ignoresMissing && t.good = 0 && !m.isSilent then report program (name ++ ": no file was verified")
  return (!m.ignoresMissing || 0 < t.good) && t.different = 0 && t.unread = 0 && (!m.isStrict || t.improper = 0)

def checkDigests (program : Text) (hs : List Hashing) (m : CheckManner) (paths : List Text) : Run Nat := do
  let found ← (sourcesOf paths).mapM fun p => do
    match ← contentOf? program p with
    | some bs => checkFile program hs m p bs
    | none => return false
  return statusOf (found.all id)

/-! The programs -/

def digestFlags : List Flag := [
  { key := 'b', name := "binary" }, { key := 'c', name := "check" }, { key := 't', name := "text" },
  { key := 'z', name := "zero" }, { key := '\x02', name := "tag", isLetter := false },
  { key := '\x03', name := "quiet", isLetter := false }, { key := '\x04', name := "status", isLetter := false },
  { key := '\x05', name := "strict", isLetter := false }, { key := 'w', name := "warn" },
  { key := '\x06', name := "ignore-missing", isLetter := false }]

def checkMannerOf (cs : Chosen) : CheckManner := {
  isQuiet := hasOption '\x03' cs, isSilent := hasOption '\x04' cs, isStrict := hasOption '\x05' cs
  warns := hasOption 'w' cs, ignoresMissing := hasOption '\x06' cs }

/-- The program that tells one kind of digest. -/
def digestProgram (program : Text) (h : Hashing) (args : List Text) : Run Nat :=
  withFlags program 1 digestFlags args fun cs paths => do
    if hasOption 'c' cs then checkDigests program [h] (checkMannerOf cs) paths
    else
      let isTagged := hasOption '\x02' cs
      tellDigests program h {
        isTagged, isBinary := lastOf "bt" cs = some 'b', endsInNul := hasOption 'z' cs } paths

/-- The size that is asked for, in bits. -/
def digestLength (program : Text) (cs : Chosen) : Run Nat := do
  match optionValue? 'l' cs with
  | none => return 512
  | some t =>
    match natural? t with
    | none => die program 1 ("invalid length: " ++ curved t)
    | some n =>
      if n % 8 ≠ 0 then
        report program ("invalid length: " ++ curved t)
        die program 1 "length is not a multiple of 8"
      if 512 < n then
        report program ("invalid length: " ++ curved t)
        die program 1 ("maximum digest length for " ++ curved "BLAKE2b" ++ " is 512 bits")
      return if n = 0 then 512 else n

def b2sum (args : List Text) : Run Nat :=
  withFlags "b2sum" 1 ({ key := 'l', name := "length", need := .required } :: digestFlags) args fun cs paths => do
    let h := Hashing.blake2b (← digestLength "b2sum" cs)
    if hasOption 'c' cs then checkDigests "b2sum" [.blake2b 512] (checkMannerOf cs) paths
    else tellDigests "b2sum" h {
      isTagged := hasOption '\x02' cs, isBinary := lastOf "bt" cs = some 'b', endsInNul := hasOption 'z' cs } paths

/-- Tells a number for each file, beside its size. -/
def tellSums (program : Text) (line : (bs : Bytes) → Text) (showsNames : Bool) (paths : List Text) : Run Nat := do
  let ((), ok) ← eachSource program (fun path i () => do
    let bs ← keeping i (drain i)
    put program (line bs ++ (if showsNames then " " ++ path else []) ++ "\n")) (sourcesOf paths) ()
  return statusOf ok

def zeroPadded (width n : Nat) : Text :=
  let t := Text.ofNat n
  List.replicate (width - t.length) (.char '0') ++ t

def crcLine (bs : Bytes) : Text := Text.ofNat (Digest.crc bs) ++ " " ++ Text.ofNat bs.length

def turnedLine (bs : Bytes) : Text :=
  zeroPadded 5 (Digest.turnedSum bs) ++ " " ++ padLeft 5 (Text.ofNat ((bs.length + 1023) / 1024))

def foldedLine (bs : Bytes) : Text :=
  Text.ofNat (Digest.foldedSum bs) ++ " " ++ Text.ofNat ((bs.length + 511) / 512)

def sum (args : List Text) : Run Nat :=
  withFlags "sum" 1 [{ key := 'r' }, { key := 's', name := "sysv" }] args fun cs paths =>
    tellSums "sum" (if lastOf "rs" cs = some 's' then foldedLine else turnedLine) (!paths.isEmpty) paths

def cksum (args : List Text) : Run Nat := do
  let fs : List Flag := { key := 'a', name := "algorithm", need := .required } ::
    { key := 'l', name := "length", need := .required } :: { key := '\x07', name := "untagged", isLetter := false } ::
    { key := '\x0e', name := "debug", isLetter := false } :: digestFlags
  withFlags "cksum" 1 fs args fun cs paths => do
    let bits ← digestLength "cksum" cs
    let name := (optionValue? 'a' cs).getD "crc"
    if hasOption 'c' cs then
      let hs := match Hashing.ofName? name with
        | some h => [h]
        | none => [.md5, .sha1, .sha224, .sha256, .sha384, .sha512, .blake2b 512]
      return ← checkDigests "cksum" hs (checkMannerOf cs) paths
    match name.toDisplayString, Hashing.ofName? name with
    | "crc", _ => tellSums "cksum" crcLine (!paths.isEmpty) paths
    | "bsd", _ => tellSums "cksum" turnedLine (!paths.isEmpty) paths
    | "sysv", _ => tellSums "cksum" foldedLine (!paths.isEmpty) paths
    | _, some h =>
      let h := if h.tag = ("BLAKE2b" : Text) then .blake2b bits else h
      tellDigests "cksum" h {
        isTagged := lastOf "\x02\x07" cs ≠ some '\x07', isBinary := lastOf "bt" cs = some 'b'
        endsInNul := hasOption 'z' cs } paths
    | _, none => misuse "cksum" 1 ("invalid argument " ++ curved name ++ " for " ++ curved "--algorithm")

end Tangle.Shell.Program
