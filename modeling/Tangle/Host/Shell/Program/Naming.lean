import Tangle.Host.Shell.Program.Source

/-! # Names

The programs that take paths apart, and those that tell where paths lead to. -/
namespace Tangle.Shell.Program
open Run

/-! Parts of paths -/

/-- The last name of a path, without the slashes at its end. -/
def lastName (t : Text) : Text :=
  let trimmed := Text.trimEndBy (·.is '/') t
  if trimmed.isEmpty then (if t.isEmpty then [] else "/") else (trimmed.reverse.takeWhile (!·.is '/')).reverse

def withoutEnd (t tail : Text) : Text :=
  if t ≠ tail && !tail.isEmpty && Text.endsWith t tail then t.take (t.length - tail.length) else t

/-- A path without its last name. -/
def parentText (t : Text) : Text :=
  let trimmed := Text.trimEndBy (·.is '/') t
  if trimmed.isEmpty then (if t.isEmpty then "." else "/")
  else
    let head := (trimmed.reverse.dropWhile (!·.is '/')).reverse
    if head.isEmpty then "."
    else
      let head := Text.trimEndBy (·.is '/') head
      if head.isEmpty then "/" else head

/-- Writes texts, each ended by a newline or a NUL. -/
def putEnded (program : Text) (isZero : Bool) (ts : List Text) : Run Unit :=
  put program (ts.flatMap (· ++ endMark isZero true))

def basename (args : List Text) : Run Nat := do
  let fs : List Flag := [
    { key := 'a', name := "multiple" }, { key := 's', name := "suffix", need := .required }, { key := 'z', name := "zero" }]
  withFlagsFirst "basename" 1 fs args fun cs operands => do
    let tail := optionValue? 's' cs
    let isZero := hasOption 'z' cs
    if hasOption 'a' cs || tail.isSome then
      needOperands "basename" 1 none operands
      putEnded "basename" isZero (operands.map fun p => withoutEnd (lastName p) (tail.getD []))
    else
      needOperands "basename" 1 (some 2) operands
      let name := lastName (operands.headD [])
      putEnded "basename" isZero [match operands[1]? with
        | some tail => withoutEnd name tail
        | none => name]
    return 0

def dirname (args : List Text) : Run Nat :=
  withFlags "dirname" 1 [{ key := 'z', name := "zero" }] args fun cs operands => do
    needOperands "dirname" 1 none operands
    putEnded "dirname" (hasOption 'z' cs) (operands.map parentText)
    return 0

/-! Where paths lead to -/

/-- What has to exist of a path. -/
inductive Existence where
  | all
  | allButLast
  | nothing
deriving DecidableEq

/-- The place that names lead to, links being followed. -/
def canonical (need : Existence) (t : Tree) : (links : Nat) → (at_ : Place) → (names : List Text) →
    Except FileError Place
  | _, at_, [] => .ok at_
  | links, at_, n :: ns =>
    if n.isEmpty || n = ("." : Text) then canonical need t links at_ ns
    else if n = (".." : Text) then canonical need t links at_.dropLast ns
    else if Tree.isLong n then .error .nameTooLong
    else
      let p := at_ ++ [n]
      match t.node? p with
      | some (.link target) =>
        match links with
        | 0 => .error .tooManyLinks
        | links + 1 =>
          let path := Path.ofText target
          canonical need t links (Tree.startOf path at_) (path.names ++ ns)
      | some (.directory _) => canonical need t links p ns
      | some _ =>
        if ns.isEmpty || need = .nothing then canonical need t links p ns else .error .notDirectory
      | none =>
        if need = .nothing || (need = .allButLast && ns.all (·.isEmpty)) then canonical need t links p ns
        else .error .notFound
termination_by links _ names => (links, names.length)

/-- The names of a path as they stand, with none for a slash at its end. -/
def namesIn (path : Text) : List Text := Text.pieces (.char '/') path

/-- The place that a path leads to. -/
def canonicalPlace (need : Existence) (path : Text) : Run (Except FileError Place) := do
  if path.isEmpty then return .error .notFound
  let directory := (← process).directory
  let start : Place := if path.head?.any (·.is '/') then [] else directory
  return canonical need (← tree) Tree.mostLinks start (namesIn path)

/-- The place of a path whose links are not followed. -/
def plainPlace (path : Text) : Run Place := do
  let here := (Path.ofText (← process).here).names
  let start : Place := if path.head?.any (·.is '/') then [] else here
  return (namesIn path).foldl (fun at_ n =>
    if n.isEmpty || n = ("." : Text) then at_ else if n = (".." : Text) then at_.dropLast else at_ ++ [n]) start

/-- The path from one place to another. -/
def relativePath (from_ target : Place) : Text :=
  let shared := ((from_.zip target).takeWhile fun (a, b) => a = b).length
  let up : List Text := List.replicate (from_.length - shared) ".."
  let names := up ++ target.drop shared
  if names.isEmpty then "." else Text.join "/" names

def existenceOf (cs : Chosen) (standard : Existence) : Existence :=
  match lastOf "efm" cs with
  | some 'e' => .all
  | some 'f' => .allButLast
  | some _ => .nothing
  | none => standard

def realpath (args : List Text) : Run Nat := do
  let fs : List Flag := [
    { key := 'e', name := "canonicalize-existing" }, { key := 'm', name := "canonicalize-missing" },
    { key := 'L', name := "logical" }, { key := 'P', name := "physical" }, { key := 'q', name := "quiet" },
    { key := '\x02', name := "relative-to", need := .required, isLetter := false },
    { key := '\x03', name := "relative-base", need := .required, isLetter := false },
    { key := 's', name := "strip" }, { key := 's', name := "no-symlinks", isLetter := false }, { key := 'z', name := "zero" }]
  withFlags "realpath" 1 fs args fun cs operands => do
    needOperands "realpath" 1 none operands
    let need := existenceOf cs .allButLast
    let place (path : Text) : Run (Except FileError Place) := do
      if hasOption 's' cs then
        if path.isEmpty then return .error .notFound
        let p ← plainPlace path
        if need = .all && ((← tree).node? p).isNone then return .error .notFound
        return .ok p
      else canonicalPlace need path
    let base (c : Char) : Run (Option Place) := do
      match optionValue? c cs with
      | none => return none
      | some t =>
        match ← place t with
        | .ok p => return some p
        | .error e => die "realpath" 1 (shown t ++ ": " ++ e.reason)
    let root ← base '\x03'
    let start ← base '\x02'
    let start := start.or root
    let oks ← operands.mapM fun path => do
      match ← place path with
      | .error e =>
        if !hasOption 'q' cs then reportSource "realpath" path e
        return false
      | .ok p =>
        let isBelow : Bool := match root, start with
          | some r, some s => r.isPrefixOf p && r.isPrefixOf s
          | _, _ => true
        let text := match start with
          | some s => if isBelow then relativePath s p else placeText p
          | none => placeText p
        putEnded "realpath" (hasOption 'z' cs) [text]
        return true
    return statusOf (oks.all id)

def readlink (args : List Text) : Run Nat := do
  let fs : List Flag := [
    { key := 'f', name := "canonicalize" }, { key := 'e', name := "canonicalize-existing" },
    { key := 'm', name := "canonicalize-missing" }, { key := 'n', name := "no-newline" }, { key := 'q', name := "quiet" },
    { key := 's', name := "silent" }, { key := 'v', name := "verbose" }, { key := 'z', name := "zero" }]
  withFlags "readlink" 1 fs args fun cs operands => do
    needOperands "readlink" 1 none operands
    let isLoud := lastOf "qsv" cs = some 'v'
    let endsLines := !(hasOption 'n' cs && operands.length = 1)
    if hasOption 'n' cs && 1 < operands.length then report "readlink" "ignoring --no-newline with multiple arguments"
    let oks ← operands.mapM fun path => do
      let found : Except FileError Text ← match lastOf "efm" cs with
        | some _ => do pure ((← canonicalPlace (existenceOf cs .allButLast) path).map placeText)
        | none => do
          match ← lookupLink path with
          | .ok (_, .link target) => pure (.ok target)
          | .ok _ => pure (.error .invalidArgument)
          | .error e => pure (.error e)
      match found with
      | .ok t =>
        put "readlink" (t ++ (if endsLines then endMark (hasOption 'z' cs) true else []))
        return true
      | .error e =>
        if isLoud then reportSource "readlink" path e
        return false
    return statusOf (oks.all id)

/-! Portable names -/

def isPortable (s : Symbol) : Bool := s.isIdentifier || s.isAnyOf "-./"

/-- Why a path would not do everywhere. -/
def pathFault? (isPortableOnly isStrict : Bool) (path : Text) : Option Text :=
  let names := (namesIn path).filter (!·.isEmpty)
  if isStrict && names.any (fun n => n.head?.any (·.is '-')) then
    some ("leading '-' in a component of file name " ++ quoted path)
  else if isStrict && path.isEmpty then some "empty file name"
  else if isPortableOnly then
    match path.find? (!isPortable ·) with
    | some s => some ("nonportable character " ++ curved [s] ++ " in file name " ++ quoted path)
    | none =>
      if 255 < path.length then
        some ("limit 255 exceeded by length " ++ Text.ofNat path.length ++ " of file name " ++ quoted path)
      else match names.find? fun n => 14 < n.length with
        | some n =>
          some ("limit 14 exceeded by length " ++ Text.ofNat n.length ++ " of file name component " ++ quoted n)
        | none => none
  else none

def pathchk (args : List Text) : Run Nat :=
  withFlags "pathchk" 1 [{ key := 'p' }, { key := 'P' }, { key := 'B', name := "portability", isLetter := false }] args
    fun cs operands => do
      needOperands "pathchk" 1 none operands
      let oks ← operands.mapM fun path => do
        let isPortableOnly := hasOption 'p' cs || hasOption 'B' cs
        match pathFault? isPortableOnly (hasOption 'P' cs || hasOption 'B' cs) path with
        | some message =>
          report "pathchk" message
          return false
        | none =>
          if isPortableOnly then return true
          match ← lookupLink path with
          | .ok _ => return true
          | .error .notFound =>
            if path.isEmpty then
              reportSource "pathchk" "''" .notFound
              return false
            return true
          | .error e =>
            reportSource "pathchk" path e
            return false
      return statusOf (oks.all id)

end Tangle.Shell.Program
