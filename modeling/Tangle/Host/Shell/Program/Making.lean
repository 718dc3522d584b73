import Tangle.Host.Shell.Program.Listing
import Tangle.Host.Number.Dating

/-! # Making and removing

The programs that make files, directories, links and pipes, change what is known of them, and remove them. -/
namespace Tangle.Shell.Program
open Run

/-- Does something for every path; the status tells whether it always succeeded. -/
def eachPath (paths : List Text) (f : Text → Run Bool) : Run Nat := do
  let oks ← paths.mapM f
  return statusOf (oks.all id)

/-- Tells that something could not be done with a path. -/
def cannot (program action path : Text) (e : FileError) : Run Bool := do
  report program (action ++ " " ++ quoted path ++ ": " ++ e.reason)
  return false

/-- Asks whether to go on; the answer is a line of the standard input. -/
def asks (program question : Text) : Run Bool := do
  let _ ← write 2 (program ++ ": " ++ question ++ "? ")
  match ← descriptor? 0 with
  | none => return false
  | some i => return (← answer i greatestPieces []).head?.any (·.isAnyOf "yY")
where
  answer (i : Nat) : Nat → Text → Run Text
    | 0, t => return t
    | n + 1, t => do
      match (← chunkOf i).head? with
      | none => return t.reverse
      | some b =>
        advanceStream i 1
        if b = 10 then return t.reverse else answer i n (Text.decode [b] ++ t)

/-- The permissions that a text asks for in place of some. -/
def givenMode (program : Text) (spec : Option Text) (standard : Nat) (isDirectory : Bool) : Run Nat := do
  match spec with
  | none => return standard
  | some t =>
    let mask := (← process).mask
    match changedMode t { mode := standard, isDirectory, mask } with
    | some m => return m
    | none => die program 1 ("invalid mode " ++ curved t)

/-! Directories -/

/-- The path that some names of a path lead to. -/
def headPath (p : Path) (k : Nat) : Text := Path.text ⟨p.root, p.names.take k⟩

/-- Makes a directory, with those above it if that is asked for. -/
def makeDirectoryAt (program path : Text) (withParents : Bool) (mode : Option Text) (isLoud : Bool) : Run Bool := do
  let failed (t : Text) (e : FileError) : Run Bool := do
    report program ("cannot create directory " ++ curved t ++ ": " ++ e.reason)
    return false
  let made (t : Text) : Run Unit := do
    if isLoud then put program (program ++ ": created directory " ++ quoted t ++ "\n")
  let standard ← allowed 0o777
  let last (t : Text) (again : Bool) : Run Bool := do
    match ← locate t with
    | .error e => failed t e
    | .ok place =>
      match (← tree).node? place with
      | some _ =>
        if again && (match ← lookup t with
          | .ok (_, n) => n.isDirectory
          | .error _ => false) then return true
        else failed t .alreadyExists
      | none =>
        let m ← givenMode program mode 0o777 true
        let m := if mode.isNone then standard else m
        modifyWorld fun w => w.putNode place (.directory m)
        made t
        return true
  if !withParents then return ← last path false
  let p := Path.ofText path
  let mut ok := true
  for k in List.range (p.names.length - 1) do
    if ok then
      let t := headPath p (k + 1)
      match ← lookup t with
      | .ok (_, .directory _) => pure ()
      | .ok _ => ok ← failed path .notDirectory
      | .error .notFound =>
        match ← locate t with
        | .error e => ok ← failed t e
        | .ok place =>
          if ((← tree).node? place).isSome then ok ← failed t .alreadyExists
          else
            modifyWorld fun w => w.putNode place (.directory (standard ||| 0o300))
            made t
      | .error e => ok ← failed t e
  if ok then last path true else return false

def mkdir (args : List Text) : Run Nat := do
  let fs : List Flag := [
    { key := 'm', name := "mode", need := .required }, { key := 'p', name := "parents" }, { key := 'v', name := "verbose" },
    { key := 'Z' }]
  withFlags "mkdir" 1 fs args fun cs paths => do
    needOperands "mkdir" 1 none paths
    eachPath paths fun p => makeDirectoryAt "mkdir" p (hasOption 'p' cs) (optionValue? 'm' cs) (hasOption 'v' cs)

/-- Removes an empty directory, and tells what that may have failed for. -/
def dropDirectory (path : Text) : Run (Except FileError Unit) := do
  match ← lookupLink path with
  | .error e => return .error e
  | .ok (place, .directory _) =>
    if (lastName path) = ("." : Text) then return .error .invalidArgument
    if !((← tree).children place).isEmpty then return .error .notEmpty
    if place.isEmpty then return .error .busy
    modifyWorld fun w => w.remove place
    return .ok ()
  | .ok _ => return .error .notDirectory

def rmdir (args : List Text) : Run Nat := do
  let fs : List Flag := [
    { key := 'p', name := "parents" }, { key := 'v', name := "verbose" },
    { key := 'i', name := "ignore-fail-on-non-empty", isLetter := false }]
  withFlags "rmdir" 1 fs args fun cs paths => do
    needOperands "rmdir" 1 none paths
    eachPath paths fun p => do
      let path := Path.ofText p
      let count := path.names.length
      go cs p (p :: if hasOption 'p' cs then (List.range (count - 1)).map fun k => headPath path (count - 1 - k) else [])
where
  go (cs : Chosen) (p : Text) : List Text → Run Bool
    | [] => return true
    | t :: ts => do
      if hasOption 'v' cs then put "rmdir" ("rmdir: removing directory, " ++ quoted t ++ "\n")
      match ← dropDirectory t with
      | .ok () => go cs p ts
      | .error e =>
        if e = .notEmpty && hasOption 'i' cs then return true
        cannot "rmdir" (if t = p then "failed to remove" else "failed to remove directory") t e

/-! Removing -/

structure Removal where
  isForced : Bool := false
  descends : Bool := false
  dropsEmpty : Bool := false
  asks : Bool := false
  isLoud : Bool := false

/-- Removes what is at a place; what is below it comes first. -/
def removeAt (r : Removal) : Nat → (path : Text) → (place : Place) → Run Bool
  | 0, _, _ => return false
  | n + 1, path, place => do
    match (← tree).node? place with
    | none => return true
    | some (.directory _) =>
      let children := (← tree).children place
      if !r.descends && !(r.dropsEmpty && children.isEmpty) then
        return ← cannot "rm" "cannot remove" path (if r.dropsEmpty then .notEmpty else .isDirectory)
      if r.asks && !children.isEmpty then
        if !(← asks "rm" ("descend into directory " ++ quoted path)) then return true
      let oks ← children.mapM fun (name, _) => removeAt r n (path ++ "/" ++ name) (place ++ [name])
      if !oks.all id then return false
      if r.asks then
        if !(← asks "rm" ("remove directory " ++ quoted path)) then return true
      if !((← tree).children place).isEmpty then return ← cannot "rm" "cannot remove" path .notEmpty
      modifyWorld fun w => w.remove place
      if r.isLoud then put "rm" ("removed directory " ++ quoted path ++ "\n")
      return true
    | some node =>
      if r.asks then
        if !(← asks "rm" ("remove " ++ kindText ((← tree).settled node) ++ " " ++ quoted path)) then return true
      modifyWorld fun w => w.remove place
      if r.isLoud then put "rm" ("removed " ++ quoted path ++ "\n")
      return true

def rm (args : List Text) : Run Nat := do
  let fs : List Flag := [
    { key := 'f', name := "force" }, { key := 'i' }, { key := 'I' }, { key := 'r', name := "recursive" }, { key := 'R' },
    { key := 'd', name := "dir" }, { key := 'v', name := "verbose" },
    { key := '\x02', name := "interactive", need := .optional, isLetter := false },
    { key := '\x03', name := "one-file-system", isLetter := false },
    { key := '\x04', name := "no-preserve-root", isLetter := false },
    { key := '\x05', name := "preserve-root", need := .optional, isLetter := false }]
  withFlags "rm" 1 fs args fun cs paths => do
    let r : Removal := {
      isForced := lastOf "fiI\x02" cs = some 'f', descends := hasOption 'r' cs || hasOption 'R' cs
      dropsEmpty := hasOption 'd' cs, isLoud := hasOption 'v' cs
      asks := match cs.reverse.find? fun c => "fiI\x02".contains c.1 with
        | some ('i', _) => true
        | some ('\x02', t) => t.isEmpty || t = ("always" : Text)
        | _ => false }
    if paths.isEmpty && hasOption 'f' cs then return 0
    needOperands "rm" 1 none paths
    if hasOption 'I' cs && (3 < paths.length || r.descends) && lastOf "fiI\x02" cs = some 'I' then
      let count := Text.ofNat paths.length
      let what : Text := if paths.length = 1 then " argument" else " arguments"
      if !(← asks "rm" ("remove " ++ count ++ what ++ (if r.descends then " recursively" else ""))) then return 0
    eachPath paths fun p => do
      let last := ((Text.trimEndBy (·.is '/') p).reverse.takeWhile (!·.is '/')).reverse
      if last = ("." : Text) || last = (".." : Text) then
        report "rm" ("refusing to remove " ++ quoted "." ++ " or " ++ quoted ".." ++ " directory: skipping " ++ quoted p)
        return false
      match ← lookupLink p with
      | .error e => if r.isForced && (e = .notFound || e = .notDirectory) then return true else cannot "rm" "cannot remove" p e
      | .ok (place, _) =>
        if place.isEmpty then
          report "rm" "it is dangerous to operate recursively on '/'"
          report "rm" "use --no-preserve-root to override this failsafe"
          return false
        let place ← match ← locate p with
          | .ok q => pure (if endsInSlash p then place else q)
          | .error _ => pure place
        removeAt r 1000 (if r.descends then Text.trimEndBy (·.is '/') p else p) place

def unlink (args : List Text) : Run Nat :=
  withFlags "unlink" 1 [] args fun _ paths => do
    needOperands "unlink" 1 (some 1) paths
    eachPath paths fun p => do
      match ← lookupLink p, ← locate p with
      | .error e, _ => cannot "unlink" "cannot unlink" p e
      | _, .error e => cannot "unlink" "cannot unlink" p e
      | .ok (_, .directory _), _ => cannot "unlink" "cannot unlink" p .isDirectory
      | .ok _, .ok place =>
        modifyWorld fun w => w.remove place
        return true

/-! Links -/

/-- Gives a file that is at a place another name. -/
def shareFile (place : Place) (other : Place) : Run Unit := do
  match (← tree).node? place with
  | some (.file ..) =>
    modifyWorld fun w =>
      let hidden := w.hiddenPlace
      let moved := w.move place hidden
      (moved.putNode place (.shared hidden)).putNode other (.shared hidden)
  | some node => modifyWorld fun w => w.putNode other node
  | none => pure ()

/-- The place that something is put at: a destination, or a name in it if it is a directory. -/
def destinationFor (intoDirectory : Bool) (source destination : Text) : Run (Text × Bool) := do
  if !intoDirectory then return (destination, false)
  match ← lookup destination with
  | .ok (_, .directory _) =>
    let name := lastName source
    return (if Text.endsWith destination "/" then destination ++ name else destination ++ "/" ++ name, true)
  | _ => return (destination, false)

structure Linking where
  isSymbolic : Bool := false
  isForced : Bool := false
  asks : Bool := false
  isRelative : Bool := false
  isLoud : Bool := false
  follows : Bool := false
  keepsOld : Option Text := none

/-- Makes one link to a target. -/
def makeLink (l : Linking) (target path : Text) : Run Bool := do
  let action : Text := if l.isSymbolic then "failed to create symbolic link" else "failed to create hard link"
  let source? : Except FileError Place ← if l.isSymbolic then pure (.ok []) else do
    match ← (if l.follows then lookup target else lookupLink target) with
    | .error e => pure (.error e)
    | .ok (place, _) => pure (.ok place)
  match source?, ← locate path with
  | .error e, _ => cannot "ln" "failed to access" target e
  | _, .error e => cannot "ln" action path e
  | .ok source, .ok place =>
    if !l.isSymbolic then
      if let some (.directory _) := (← tree).node? source then
        report "ln" (shown target ++ ": hard link not allowed for directory")
        return false
    match (← tree).node? place with
    | some old =>
      if old.isDirectory then return ← cannot "ln" action path .alreadyExists
      if l.asks then
        if !(← asks "ln" ("replace " ++ quoted path)) then return true
      else if !l.isForced && l.keepsOld.isNone then return ← cannot "ln" action path .alreadyExists
      if !l.isSymbolic && keptAt (← tree) place = source then
        report "ln" (quoted target ++ " and " ++ quoted path ++ " are the same file")
        return false
      match l.keepsOld with
      | some tail => modifyWorld fun w => w.move place (place.dropLast ++ [place.getLastD [] ++ tail])
      | none => modifyWorld fun w => w.remove place
    | none => pure ()
    let text : Text ← if l.isSymbolic && l.isRelative then do
        match ← canonicalPlace .nothing target, ← canonicalPlace .nothing (parentText path) with
        | .ok to_, .ok from_ => pure (relativePath from_ to_)
        | _, _ => pure target
      else pure target
    if l.isSymbolic then modifyWorld fun w => w.putNode place (.link text) else shareFile source place
    if l.isLoud then
      put "ln" (quoted path ++ (if l.isSymbolic then (" -> " : Text) else " => ") ++ quoted text ++ "\n")
    return true

def ln (args : List Text) : Run Nat := do
  let fs : List Flag := [
    { key := 's', name := "symbolic" }, { key := 'f', name := "force" }, { key := 'i', name := "interactive" },
    { key := 'n', name := "no-dereference" }, { key := 'r', name := "relative" }, { key := 'v', name := "verbose" },
    { key := 'T', name := "no-target-directory" }, { key := 't', name := "target-directory", need := .required },
    { key := 'L', name := "logical" }, { key := 'P', name := "physical" }, { key := 'b' }, { key := 'd' }, { key := 'F' },
    { key := 'S', name := "suffix", need := .required }, { key := 'B', name := "backup", need := .optional, isLetter := false }]
  withFlags "ln" 1 fs args fun cs operands => do
    let has (c : Char) : Bool := hasOption c cs
    let l : Linking := {
      isSymbolic := has 's', isForced := lastOf "fi" cs = some 'f', asks := lastOf "fi" cs = some 'i'
      isRelative := has 'r', isLoud := has 'v', follows := lastOf "LP" cs = some 'L'
      keepsOld := if has 'b' || has 'B' || has 'S' then some ((optionValue? 'S' cs).getD "~") else none }
    match optionValue? 't' cs with
    | some directory =>
      needFiles operands 1
      eachPath operands fun target => do makeLink l target (← destinationFor true target directory).1
    | none =>
      needFiles operands 1
      match operands with
      | [target] => eachPath [target] fun t => do makeLink l t (← destinationFor true t ".").1
      | _ =>
        let destination := operands.getLastD []
        let targets := operands.dropLast
        let isLink ← match ← lookupLink destination with
          | .ok (_, .link _) => pure (has 'n')
          | _ => pure false
        let intoDirectory := !has 'T' && !isLink
        if has 'T' && 1 < targets.length then
          misuse "ln" 1 ("extra operand " ++ quoted (operands.getD 2 []))
        if 1 < targets.length then
          match ← lookup destination with
          | .ok (_, .directory _) => pure ()
          | .ok _ => die "ln" 1 ("target " ++ quoted destination ++ ": Not a directory")
          | .error e => die "ln" 1 ("target " ++ quoted destination ++ ": " ++ e.reason)
        eachPath targets fun target => do makeLink l target (← destinationFor intoDirectory target destination).1
where
  needFiles (operands : List Text) (least : Nat) : Run Unit := do
    if operands.length < least then misuse "ln" 1 "missing file operand"

def link (args : List Text) : Run Nat :=
  withFlags "link" 1 [] args fun _ operands => do
    needOperands "link" 2 (some 2) operands
    let target := operands.getD 0 []
    let path := operands.getD 1 []
    let failed (e : FileError) : Run Nat := do
      report "link" ("cannot create link " ++ quoted path ++ " to " ++ quoted target ++ ": " ++ e.reason)
      return 1
    match ← lookupLink target, ← locate path with
    | .error e, _ => failed e
    | _, .error e => failed e
    | .ok (_, .directory _), _ => failed .notPermitted
    | .ok (source, _), .ok place =>
      if ((← tree).node? place).isSome then failed .alreadyExists
      else
        shareFile source place
        return 0

/-! Pipes and files with names that nothing has -/

def mkfifo (args : List Text) : Run Nat :=
  withFlags "mkfifo" 1 [{ key := 'm', name := "mode", need := .required }, { key := 'Z' }] args fun cs paths => do
    needOperands "mkfifo" 1 none paths
    let standard ← allowed 0o666
    eachPath paths fun p => do
      match ← locate p with
      | .error e => cannot "mkfifo" "cannot create fifo" p e
      | .ok place =>
        if ((← tree).node? place).isSome then cannot "mkfifo" "cannot create fifo" p .alreadyExists
        else
          let mode ← givenMode "mkfifo" (optionValue? 'm' cs) 0o666 false
          let mode := if (optionValue? 'm' cs).isNone then standard else mode
          let number := (← world).pipes.size
          let (source, sink) ← newPipe
          let both ← newStream (.ends number)
          modifyWorld fun w => (w.setPipe number { source, sink, ends := some both }).putNode place (.pipe number mode)
          return true

def nameLetters : String := "abcdefghijklmnopqrstuvwxyzABCDEFGHIJKLMNOPQRSTUVWXYZ0123456789"

/-- A template with letters that follow no rule in place of its marks. -/
def filledTemplate (head : Text) (marks : Nat) (tail : Text) : Run Text := do
  let bs ← noise marks
  return head ++ Text.ofChars (bs.map fun b => nameLetters.toList.getD (b.toNat % 62) 'a') ++ tail

def mktemp (args : List Text) : Run Nat := do
  let fs : List Flag := [
    { key := 'd', name := "directory" }, { key := 'u', name := "dry-run" }, { key := 'q', name := "quiet" },
    { key := 'p', need := .required }, { key := 'T', name := "tmpdir", need := .optional, isLetter := false },
    { key := 't' }, { key := 's', name := "suffix", need := .required, isLetter := false }]
  withFlags "mktemp" 1 fs args fun cs operands => do
    match operands with
    | _ :: _ :: _ => misuse "mktemp" 1 "too many templates"
    | _ => pure ()
    let standard ← do
      let t ← text "TMPDIR"
      let isExported := (← environment).any (·.1 = ("TMPDIR" : Text))
      pure (if t.isEmpty || !isExported then ("/tmp" : Text) else t)
    let directory : Option Text := match cs.reverse.find? fun c => "pT".contains c.1 with
      | some (_, t) => some (if t.isEmpty then standard else t)
      | none => if operands.isEmpty || hasOption 't' cs then some standard else none
    let template := operands.headD "tmp.XXXXXXXXXX"
    let given := optionValue? 's' cs
    let core := (template.reverse.dropWhile (!·.is 'X')).reverse
    let tail := (if given.isSome then [] else template.drop core.length) ++ given.getD []
    let core := if given.isSome then template else core
    let marks := (core.reverse.takeWhile (·.is 'X')).length
    if marks < 3 then
      if !hasOption 'q' cs then report "mktemp" ("too few X's in template " ++ curved template)
      return 1
    if tail.any (·.is '/') then die "mktemp" 1 ("invalid suffix " ++ quoted tail ++ ", contains directory separator")
    let head := core.take (core.length - marks)
    let head := match directory with
      | some d => (if Text.endsWith d "/" then d else d ++ "/") ++ head
      | none => head
    let path ← filledTemplate head marks tail
    match ← locate path with
    | .error e =>
      if !hasOption 'q' cs then
        let what : Text := if hasOption 'd' cs then "directory" else "file"
        report "mktemp" ("failed to create " ++ what ++ " via template " ++
          curved (head ++ List.replicate marks (.char 'X') ++ tail) ++ ": " ++ e.reason)
      return 1
    | .ok place =>
      if !hasOption 'u' cs then
        modifyWorld fun w => w.putNode place (if hasOption 'd' cs then .directory 0o700 else .file [] 0o600)
      put "mktemp" (path ++ "\n")
      return 0

/-! Times and permissions -/

/-- The zone that the environment tells. -/
def zone : Run Civil.Zone := do
  return match (← environment).lookup ("TZ" : Text) with
    | some t => Civil.Zone.read t
    | none => {}

/-- The moment that a text tells, in microseconds. -/
def readMoment (t : Text) : Run (Option Int) := do
  let now := (← world).clock
  let found := Dating.moment? (now / 1000000) (now % 1000000 * 1000) (← zone) t.toDisplayString.toList
  return found.map fun (s, ns) => s * 1000000 + (ns / 1000 : Nat)

/-- A moment in digits: perhaps a year, then month, day, hour and minute, and perhaps seconds. -/
def stampMoment? (now : Int) (zone : Civil.Zone) (t : Text) : Option Int :=
  let ds := t.takeWhile Symbol.isDigit
  let seconds? : Option Nat := match t.drop ds.length with
    | [] => some 0
    | .char '.' :: ss => if ss.length = 2 && ss.all Symbol.isDigit then some (naturalOf ss) else none
    | _ => none
  let year? : Option Int := match ds.length with
    | 8 => some (Civil.ofSeconds now).year
    | 10 => some (let y := naturalOf (ds.take 2); if y < 69 then 2000 + (y : Int) else 1900 + (y : Int))
    | 12 => some (naturalOf (ds.take 4) : Int)
    | _ => none
  match seconds?, year? with
  | some second, some year =>
    let r := ds.drop (ds.length - 8)
    let part (i : Nat) : Nat := naturalOf ((r.drop (2 * i)).take 2)
    if part 0 = 0 || 12 < part 0 || part 1 = 0 || Civil.monthLength year (part 0) < part 1 || 23 < part 2 || 59 < part 3 ||
        60 < second then none
    else some (Civil.seconds ⟨year, part 0, part 1, part 2, part 3, second⟩ - zone.offset)
  | _, _ => none

def touch (args : List Text) : Run Nat := do
  let fs : List Flag := [
    { key := 'a' }, { key := 'c', name := "no-create" }, { key := 'd', name := "date", need := .required }, { key := 'f' },
    { key := 'h', name := "no-dereference" }, { key := 'm' }, { key := 'r', name := "reference", need := .required },
    { key := 't', need := .required }, { key := 'T', name := "time", need := .required, isLetter := false }]
  withFlags "touch" 1 fs args fun cs paths => do
    let now := (← world).clock
    let moment : Int ← match cs.reverse.find? fun c => "drt".contains c.1 with
      | none => pure (now : Int)
      | some ('d', t) => do
        match ← readMoment t with
        | some m => pure m
        | none => die "touch" 1 ("invalid date format " ++ curved t)
      | some ('t', t) => do
        match stampMoment? (now / 1000000) (← zone) t with
        | some s => pure (s * 1000000)
        | none => die "touch" 1 ("invalid date format " ++ curved t)
      | some (_, t) => do
        match ← entryAt true t with
        | .ok e => pure (e.changed : Int)
        | .error e => die "touch" 1 ("failed to get attributes of " ++ quoted t ++ ": " ++ e.reason)
    if paths.isEmpty then misuse "touch" 1 "missing file operand"
    let changes := !(hasOption 'a' cs && !hasOption 'm' cs)
    eachPath paths fun p => do
      if isDash p then return true
      match ← (if hasOption 'h' cs then lookupLink p else lookup p) with
      | .ok (place, _) =>
        if changes then modifyWorld fun w => w.changedAt moment.toNat place
        return true
      | .error e =>
        if hasOption 'c' cs && e = .notFound then return true
        match ← openOutput p .keep true with
        | .ok _ =>
          match ← lookup p with
          | .ok (place, _) => modifyWorld fun w => w.changedAt moment.toNat place
          | .error _ => pure ()
          return true
        | .error e => cannot "touch" "cannot touch" p e

/-- A path and all that is below it, with their places. -/
def withAllBelow (path : Text) (place : Place) : Run (List (Text × Place)) := do
  return (path, place) :: ((← tree).below place).map fun (names, _) => (path ++ "/" ++ Text.join "/" names, place ++ names)

/-- Arguments with a mode such as `-x` moved to the front of the operands, and whether there was one. -/
def modeFirst (args : List Text) : List Text :=
  match args.find? isMode with
  | some m =>
    let rest := args.filter (· ≠ m)
    rest.takeWhile isFlag ++ ("--" : Text) :: m :: rest.dropWhile isFlag
  | none => args
where
  isFlag (t : Text) : Bool := t.head?.any (·.is '-') && t ≠ ("--" : Text)
  isMode (t : Text) : Bool := match t with
    | .char '-' :: r => !r.isEmpty && r.all (·.isAnyOf "rwxXstugo,+=-01234567") && !r.head?.any (·.is '-')
    | _ => false

def chmod (args : List Text) : Run Nat := do
  let fs : List Flag := [
    { key := 'c', name := "changes" }, { key := 'f', name := "silent" }, { key := 'f', name := "quiet", isLetter := false },
    { key := 'v', name := "verbose" }, { key := 'R', name := "recursive" },
    { key := 'r', name := "reference", need := .required, isLetter := false },
    { key := '\x02', name := "preserve-root", isLetter := false }, { key := '\x03', name := "no-preserve-root", isLetter := false }]
  withFlags "chmod" 1 fs (modeFirst args) fun cs operands => do
    let mask := (← process).mask
    let (change, paths) : (Node → Option Nat) × List Text ← match optionValue? 'r' cs with
      | some t => do
        match ← entryAt true t with
        | .ok e => pure ((fun _ => some e.node.mode), operands)
        | .error e => die "chmod" 1 ("failed to get attributes of " ++ quoted t ++ ": " ++ e.reason)
      | none => do
        needOperands "chmod" 1 none operands
        let spec := operands.headD []
        if operands.length < 2 then misuse "chmod" 1 ("missing operand after " ++ curved spec)
        if (changedMode spec { mode := 0, mask }).isNone then misuse "chmod" 1 ("invalid mode: " ++ curved spec)
        pure ((fun n => changedMode spec { mode := n.mode, isDirectory := n.isDirectory, mask }), operands.drop 1)
    if paths.isEmpty then misuse "chmod" 1 "missing operand"
    eachPath paths fun p => do
      match ← lookup p with
      | .error e =>
        match ← lookupLink p with
        | .ok (_, .link _) =>
          if !hasOption 'f' cs then report "chmod" ("cannot operate on dangling symlink " ++ quoted p)
          return false
        | _ => if hasOption 'f' cs then return false else cannot "chmod" "cannot access" p e
      | .ok (place, _) =>
        let all ← if hasOption 'R' cs then withAllBelow p place else pure [(p, place)]
        for (path, place) in all do
          let kept := keptAt (← tree) place
          match (← tree).node? kept with
          | none => pure ()
          | some (.link _) => pure ()
          | some node =>
            let mode := (change node).getD node.mode
            modifyWorld fun w => { w with tree := w.tree.put kept (node.withMode mode) }
            let text (m : Nat) : Text := padded m ++ " (" ++ rightsText m ++ ")"
            if hasOption 'v' cs || hasOption 'c' cs then
              if mode ≠ node.mode then
                put "chmod" ("mode of " ++ quoted path ++ " changed from " ++ text node.mode ++ " to " ++ text mode ++ "\n")
              else if hasOption 'v' cs then
                put "chmod" ("mode of " ++ quoted path ++ " retained as " ++ text mode ++ "\n")
        return true
where
  padded (m : Nat) : Text :=
    let t := octalText m
    List.replicate (4 - t.length) (.char '0') ++ t

/-- Changes of owners: all belongs to one who may give it to nobody else here. -/
def chown (program : Text) (args : List Text) : Run Nat := do
  let fs : List Flag := letters "cfvhRHLP" ++ [
    { key := 'r', name := "reference", need := .required, isLetter := false },
    { key := 'R', name := "recursive", isLetter := false }]
  withFlags program 1 fs args fun cs operands => do
    let paths := if hasOption 'r' cs then operands else operands.drop 1
    if operands.isEmpty then misuse program 1 "missing operand"
    if paths.isEmpty then misuse program 1 ("missing operand after " ++ curved (operands.headD []))
    eachPath paths fun p => do
      match ← lookup p with
      | .ok _ => return true
      | .error e => cannot program "cannot access" p e

end Tangle.Shell.Program
