import Tangle.Host.Shell.Program.Editing

/-! # The stream editor

How the arguments of the editor make a script and tell what it is applied to: all files as one stream, every
file apart, or every file in its place. -/
namespace Tangle.Shell.Program
open Run Script

/-- A part of a script: given as an argument, with its number, or by a file. -/
inductive ScriptSource where
  | argument (number : Nat)
  | file (path : Text)

/-- The parts of the script that flags give, with what they hold. -/
def scriptParts : (number : Nat) → Chosen → Run (List (ScriptSource × Text))
  | _, [] => return []
  | number, (c, t) :: cs => do
    if c = 'e' then return (.argument number, t) :: (← scriptParts (number + 1) cs)
    else if c = 'f' then
      match ← openSource t with
      | .ok i =>
        let code := Text.decode (← keeping i (drain i))
        return (.file t, if code.endsInNewline then code.dropLast else code) :: (← scriptParts number cs)
      | .error e => die "sed" 1 ("couldn't open file " ++ t ++ ": " ++ e.reason)
    else scriptParts number cs

/-- Where in a script something is wrong. -/
def faultPlace (parts : List (ScriptSource × Text)) (total : Nat) (left : Option Nat) : Text :=
  match left with
  | none =>
    match parts with
    | (.file path, _) :: _ => "file " ++ path ++ " line 0:"
    | _ => "-e expression #1, char 0:"
  | some left => go parts (total - left)
where
  go : List (ScriptSource × Text) → Nat → Text
    | [], _ => "-e expression #1, char 0:"
    | (source, t) :: rest, k =>
      if t.length < k && !rest.isEmpty then go rest (k - t.length - 1)
      else match source with
        | .argument number =>
          ("-e expression #" : Text) ++ Text.ofNat number ++ ", char " ++ Text.ofNat (min k t.length) ++ ":"
        | .file path =>
          ("file " : Text) ++ path ++ " line " ++ Text.ofNat ((t.take (k - 1)).count Symbol.newline + 1) ++ ":"

/-- The paths of the files that steps write to. -/
def writtenPaths (ss : List Step) : List Text :=
  (ss.filterMap fun s => match s.action with
    | .writeSpace path => some path
    | .writeFirst path => some path
    | .substitute sub => sub.file
    | _ => none).eraseDups.filter (· ≠ ("/dev/stdout" : Text))

def openOutlets (paths : List Text) : Run (List Outlet) :=
  paths.mapM fun path => do
    match ← openOutput path .truncate true with
    | .ok i =>
      holdStream i
      return { path, stream := i }
    | .error e => die "sed" 4 ("couldn't open file " ++ path ++ ": " ++ e.reason)

/-- The name under which the file that was there before is kept. -/
def backupName (tail path : Text) : Text :=
  if tail.any (·.is '*') then
    let name := (path.reverse.takeWhile (!·.is '/')).reverse
    let directory := path.take (path.length - name.length)
    let filled := Text.replaceAll (.char '*') name tail
    if filled.any (·.is '/') then filled else directory ++ filled
  else path ++ tail

/-- Edits every file apart, in its place if a backup name, which may be empty, is given. -/
def editApart (m : Manner) (inPlace : Option Text) : List Text → Editor → Run (Option Nat × Editor)
  | [], e => return (none, e)
  | path :: rest, e => do
    let e := { e with feed := { e.feed with paths := [path], source := none, ready := [], remainder := [] }, number := 0 }
    match inPlace with
    | none =>
      let (status, e) ← (editLines m greatestPieces false).run e
      match status with
      | some n => return (some n, e)
      | none => editApart m inPlace rest e
    | some tail =>
      match ← lookup path with
      | .error f =>
        report "sed" ("can't read " ++ path ++ ": " ++ f.reason)
        editApart m inPlace rest { e with feed := { e.feed with hasFailed := true } }
      | .ok (_, .file content mode) =>
        let (status, e) ← (editLines m greatestPieces false).run e
        if !tail.isEmpty then
          match (← locate (backupName tail path)) with
          | .ok old => modifyWorld fun w => w.putNode old (.file content mode)
          | .error f => die "sed" 4 ("cannot rename " ++ path ++ ": " ++ f.reason)
        match ← locate path with
        | .ok place => modifyWorld fun w => (w.remove place).putNode place (.file e.out.reverse.flatten mode)
        | .error f => die "sed" 4 ("cannot rename " ++ path ++ ": " ++ f.reason)
        let e := { e with out := [], owesEnd := false }
        match status with
        | some n => return (some n, e)
        | none => editApart m inPlace rest e
      | .ok _ =>
        report "sed" ("couldn't edit " ++ path ++ ": not a regular file")
        let (status, e) ← editApart m inPlace rest e
        return (status.or (some 4), e)

def sedFlags : List Flag := [
  { key := 'n', name := "quiet" }, { key := 'n', name := "silent", isLetter := false },
  { key := '\x02', name := "debug", isLetter := false }, { key := 'e', name := "expression", need := .required },
  { key := 'f', name := "file", need := .required }, { key := '\x03', name := "follow-symlinks", isLetter := false },
  { key := 'i', name := "in-place", need := .optional }, { key := 'l', name := "line-length", need := .required },
  { key := '\x04', name := "posix", isLetter := false }, { key := 'E', name := "regexp-extended" }, { key := 'r' },
  { key := 's', name := "separate" }, { key := '\x05', name := "sandbox", isLetter := false },
  { key := 'u', name := "unbuffered" }, { key := 'z', name := "null-data" },
  { key := 'z', name := "zero-terminated", isLetter := false },
  { key := versionKey, name := "version", isLetter := false }]

/-- Whether a script begins with the line that asks for no output but that of its steps. -/
def asksForQuiet (t : Text) : Bool := t = ("#n" : Text) || Text.startsWith t "#n\n"

/-- Edits what is read. Commands in the script are run with `start`. -/
def sed (start : List Text → Run Nat) (args : List Text) : Run Nat := do
  match readFlags sedFlags (← isOn "posix") none args with
  | .error f =>
    report "sed" f.message
    let _ ← write 2 usage
    return 1
  | .ok (cs, operands) =>
    let has (c : Char) : Bool := hasOption c cs
    if has versionKey then return ← say "sed (GNU sed) 4.9\n"
    let given ← scriptParts 1 cs
    let (parts, paths) ← if cs.any fun c => c.1 = 'e' || c.1 = 'f' then pure (given, operands) else
      match operands with
      | t :: paths => pure ([(ScriptSource.argument 1, t)], paths)
      | [] => do
        let _ ← write 2 usage
        quit 1
    let code := Text.join "\n" (parts.map (·.2))
    match read (if has 'E' || has 'r' then .editing else .basic) code with
    | .error f => die "sed" 1 (faultPlace parts code.length f.left ++ " " ++ f.message)
    | .ok ss =>
      match missingLabel? ss with
      | some t => die "sed" 1 ("can't find label for jump to \x60" ++ t ++ "'")
      | none => pure ()
      let isInPlace := has 'i'
      let m : Manner := {
        steps := ss.toArray, ends := blockEnds ss, labels := labels ss
        isQuiet := has 'n' || asksForQuiet code, isZero := has 'z'
        width := ((optionValue? 'l' cs).map naturalOf).getD 70, keepsOutput := isInPlace
        evaluate := fun t => do
          let i ← newStream (.output [])
          let _ ← isolated do
            setDescriptor 1 i
            let _ ← start ["sh", "-c", t]
          collected i }
      if isInPlace && paths.isEmpty then die "sed" 1 "no input files"
      let paths := if isInPlace then paths else sourcesOf paths
      let e : Editor := {
        feed := { paths, mark := lineEnd m.isZero }
        outlets := ← openOutlets (writtenPaths ss) }
      let (status, e) ← if isInPlace || has 's' then
          editApart m (if isInPlace then some ((optionValue? 'i' cs).getD []) else none) paths e
        else (editLines m greatestPieces false).run e
      let ((), e) ← flush.run e
      e.feed.putBack
      return status.getD (if e.feed.hasFailed then 2 else 0)
where
  usage : Text := "Usage: sed [OPTION]... \x7bscript-only-if-no-other-script\x7d [input-file]...\n\n"

end Tangle.Shell.Program
