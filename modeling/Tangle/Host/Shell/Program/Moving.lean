import Tangle.Host.Shell.Program.Making

/-! # Copying and moving files

The programs that copy files and directories, move them, and put them where they are to be used. -/
namespace Tangle.Shell.Program
open Run

/-- When a file is put where there is one already. -/
inductive Overwriting where
  | always
  | never
  | newer
  | asking
deriving DecidableEq

structure Transfer where
  program : Text
  overwriting : Overwriting := .always
  /-- What is put behind the names of files that are replaced, if they are kept. -/
  keepsOld : Option Text := none
  isNumbered : Bool := false
  isLoud : Bool := false
  descends : Bool := false
  /-- Whether links are copied as what they lead to. -/
  follows : Bool := true
  keepsMode : Bool := false
  keepsTime : Bool := false
  isForced : Bool := false
  removesFirst : Bool := false
  makesLinks : Bool := false
  makesSymbolic : Bool := false
  attributesOnly : Bool := false

/-- Moves what is at a place out of the way. -/
def Transfer.putAside (x : Transfer) (place : Place) : Run Unit := do
  match x.keepsOld with
  | none => pure ()
  | some tail =>
    let name := place.getLastD []
    let w ← world
    let isTaken (k : Nat) : Bool := (w.tree.node? (place.dropLast ++ [name ++ ".~" ++ Text.ofNat k ++ "~"])).isSome
    let number := (((List.range 1000).map (· + 1)).find? fun k => !isTaken k).getD 1
    let name := if x.isNumbered then name ++ ".~" ++ Text.ofNat number ++ "~" else name ++ tail
    modifyWorld fun w => w.move place (place.dropLast ++ [name])

/-- Whether a file may be put at a place. -/
def Transfer.mayReplace (x : Transfer) (sourceChange : Nat) (path : Text) (place : Place) : Run Bool := do
  match (← tree).node? place with
  | none => return true
  | some _ =>
    match x.overwriting with
    | .always => return true
    | .never => return false
    | .newer => return (← world).changeOf (keptAt (← tree) place) < sourceChange
    | .asking => asks x.program ("overwrite " ++ quoted path)

def Transfer.tell (x : Transfer) (source path : Text) : Run Unit := do
  if x.isLoud then put x.program (quoted source ++ " -> " ++ quoted path ++ "\n")

def Transfer.fail (x : Transfer) (message : Text) : Run Bool := do
  report x.program message
  return false

/-- What a node that is no directory holds. -/
def contentAt (path : Text) (n : Node) : Run Bytes := do
  match n with
  | .file content _ => return content
  | _ =>
    match ← openInput path with
    | .ok i => keeping i (drain i)
    | .error _ => return []

/-- Copies one thing to a path. `isGiven` tells whether it is an operand, rather than found in a directory. -/
def Transfer.copy (x : Transfer) : Nat → (isGiven : Bool) → (source path : Text) → Run Bool
  | 0, _, _, _ => return false
  | n + 1, isGiven, source, path => do
    match ← entryAt x.follows source with
    | .error e =>
      match descriptorOfPath? source with
      | some _ => copyStream source path
      | none => x.fail ("cannot stat " ++ quoted source ++ ": " ++ e.reason)
    | .ok e =>
      match e.node with
      | .directory mode =>
        if !x.descends then x.fail ("-r not specified; omitting directory " ++ quoted source)
        else copyDirectory n e mode source path
      | node =>
        match ← lookupLink path, ← locate path with
        | _, .error f => x.fail ("cannot create regular file " ++ quoted path ++ ": " ++ f.reason)
        | .ok (_, .directory _), _ =>
          x.fail ("cannot overwrite directory " ++ quoted path ++ " with non-directory")
        | found, .ok place =>
          if endsInSlash path then
            return ← x.fail ("cannot create regular file " ++ quoted path ++ ": Not a directory")
          let isThere := found.isOk
          if isThere && x.overwriting = .never then return true
          if isThere then
            match ← lookup path with
            | .ok (target, other) =>
              if target = e.place && !x.removesFirst && x.keepsOld.isNone then
                return ← x.fail (quoted source ++ " and " ++ quoted path ++ " are the same file")
              if other.isDirectory then
                return ← x.fail ("cannot overwrite directory " ++ quoted path ++ " with non-directory")
            | .error _ => pure ()
          if !(← x.mayReplace e.changed path place) then return true
          if isThere then
            if x.keepsOld.isSome then x.putAside place
            else if x.removesFirst || x.makesLinks || x.makesSymbolic then
              if !x.removesFirst && !x.isForced then
                return ← x.fail ("cannot create " ++ (if x.makesLinks then ("hard link " : Text) else "symbolic link ") ++
                  quoted path ++ (if x.makesLinks then " to " ++ quoted source else []) ++ ": File exists")
              modifyWorld fun w => w.remove place
          x.tell source path
          if x.makesSymbolic then
            modifyWorld fun w => w.putNode place (.link source)
            return true
          if x.makesLinks then
            shareFile e.place place
            return true
          match node with
          | .link target =>
            if ((← tree).node? place).isSome then modifyWorld fun w => w.remove place
            modifyWorld fun w => w.putNode place (.link target)
            return true
          | .sealed f _ => x.fail ("error reading " ++ quoted source ++ ": " ++ f.reason)
          | node =>
            if !x.follows && !isGiven then
              if let .pipe .. := node then return true
            let content ← if x.attributesOnly then pure [] else contentAt source node
            let standard ← allowed (node.mode &&& 0o777)
            let mode := if x.keepsMode then node.mode else standard
            match (← tree).target Tree.mostLinks (← process).directory (.ofText path) with
            | .error f => x.fail ("cannot create regular file " ++ quoted path ++ ": " ++ f.reason)
            | .ok target =>
              match (← tree).node? target with
              | some (.file old oldMode) =>
                modifyWorld fun w => w.putNode target
                  (.file (if x.attributesOnly then old else content) (if x.keepsMode then node.mode else oldMode))
              | some (.device _) => pure ()
              | some (.pipe ..) =>
                match ← openOutput path .truncate true with
                | .ok i =>
                  let _ ← keeping i (writeStream i content)
                | .error _ => pure ()
              | _ => modifyWorld fun w => w.putNode target (.file content mode)
              if x.keepsTime then modifyWorld fun w => w.changedAt e.changed target
              return true
where
  copyStream (source path : Text) : Run Bool := do
    match ← openInput source with
    | .error e => x.fail ("cannot stat " ++ quoted source ++ ": " ++ e.reason)
    | .ok i =>
      let bs ← keeping i (drain i)
      match ← writeFile path bs with
      | .ok () => return true
      | .error e => x.fail ("cannot create regular file " ++ quoted path ++ ": " ++ e.reason)
  copyDirectory (n : Nat) (e : Entry) (mode : Nat) (source path : Text) : Run Bool := do
    match ← lookup path, ← locate path with
    | .ok (place, .directory _), _ =>
      if place = e.place then
        return ← x.fail (quoted source ++ " and " ++ quoted path ++ " are the same file")
      copyChildren n e source path place
    | .ok _, _ => x.fail ("cannot overwrite non-directory " ++ quoted path ++ " with directory " ++ quoted source)
    | .error _, .error f => x.fail ("cannot create directory " ++ quoted path ++ ": " ++ f.reason)
    | .error _, .ok place =>
      if e.place.isPrefixOf place then
        return ← x.fail ("cannot copy a directory, " ++ quoted source ++ ", into itself, " ++ quoted path)
      let standard ← allowed mode
      modifyWorld fun w => w.putNode place (.directory (if x.keepsMode then mode else standard))
      x.tell source path
      copyChildren n e source path place
  copyChildren (n : Nat) (e : Entry) (source path : Text) (place : Place) : Run Bool := do
    let oks ← ((← tree).children e.place).mapM fun (name, _) =>
      let join (t : Text) : Text := if Text.endsWith t "/" then t ++ name else t ++ "/" ++ name
      Transfer.copy x n false (join source) (join path)
    if x.keepsTime then modifyWorld fun w => w.changedAt e.changed place
    return oks.all id

/-- Moves one thing to a path. -/
def Transfer.move (x : Transfer) (source path : Text) : Run Bool := do
  let source := if 1 < source.length then Text.trimEndBy (·.is '/') source else source
  match ← lookupLink source, ← locate source with
  | .error e, _ => x.fail ("cannot stat " ++ quoted source ++ ": " ++ e.reason)
  | _, .error e => x.fail ("cannot stat " ++ quoted source ++ ": " ++ e.reason)
  | .ok (_, node), .ok from_ =>
    match ← locate path with
    | .error e => x.fail ("cannot move " ++ quoted source ++ " to " ++ quoted path ++ ": " ++ e.reason)
    | .ok place =>
      if endsInSlash path && !node.isDirectory then
        return ← x.fail ("cannot move " ++ quoted source ++ " to " ++ quoted path ++ ": Not a directory")
      if place = from_ then return ← x.fail (quoted source ++ " and " ++ quoted path ++ " are the same file")
      if from_.isPrefixOf place then
        return ← x.fail ("cannot move " ++ quoted source ++ " to a subdirectory of itself, " ++ quoted path)
      match (← tree).node? place, node with
      | some (.directory _), .directory _ =>
        if !((← tree).children place).isEmpty then
          return ← x.fail ("cannot move " ++ quoted source ++ " to " ++ quoted path ++ ": Directory not empty")
      | some (.directory _), _ =>
        return ← x.fail ("cannot overwrite directory " ++ quoted path ++ " with non-directory")
      | some _, .directory _ =>
        return ← x.fail ("cannot overwrite non-directory " ++ quoted path ++ " with directory " ++ quoted source)
      | _, _ => pure ()
      let change := (← world).changeOf (keptAt (← tree) from_)
      if !(← x.mayReplace change path place) then return true
      if ((← tree).node? place).isSome then
        if x.keepsOld.isSome then x.putAside place else modifyWorld fun w => w.remove place
      modifyWorld fun w => w.move from_ place
      if x.isLoud then put x.program ("renamed " ++ quoted source ++ " -> " ++ quoted path ++ "\n")
      return true

def transferFlags : List Flag := [
  { key := 'b' }, { key := 'B', name := "backup", need := .optional, isLetter := false }, { key := 'f', name := "force" },
  { key := 'i', name := "interactive" }, { key := 'n', name := "no-clobber" },
  { key := 'S', name := "suffix", need := .required }, { key := 't', name := "target-directory", need := .required },
  { key := 'T', name := "no-target-directory" }, { key := 'u', name := "update" }, { key := 'v', name := "verbose" },
  { key := '\x02', name := "strip-trailing-slashes", isLetter := false }, { key := 'Z', name := "context" }]

def transferOf (program : Text) (cs : Chosen) : Transfer := {
  program, isLoud := hasOption 'v' cs, isForced := hasOption 'f' cs
  overwriting := match lastOf "fin" cs with
    | some 'i' => .asking
    | some 'n' => .never
    | _ => if hasOption 'u' cs then .newer else .always
  keepsOld := if hasOption 'b' cs || hasOption 'B' cs || hasOption 'S' cs then
      some ((optionValue? 'S' cs).getD "~") else none
  isNumbered := match optionValue? 'B' cs with
    | some t => t = ("t" : Text) || t = ("numbered" : Text)
    | none => false }

/-- Goes through sources with the path that each is put at. -/
def transferEach (x : Transfer) (cs : Chosen) (operands : List Text) (keepsPath : Bool)
    (one : (source path : Text) → Run Bool) : Run Nat := do
  let into (source directory : Text) : Run Text := do
    if !keepsPath then return (← destinationFor true source directory).1
    let path := (if Text.endsWith directory "/" then directory else directory ++ "/") ++ source
    let _ ← makeDirectoryAt x.program (parentText path) true none false
    return path
  match optionValue? 't' cs with
  | some directory =>
    if operands.isEmpty then misuse x.program 1 "missing file operand"
    match ← lookup directory with
    | .ok (_, .directory _) => pure ()
    | .ok _ => die x.program 1 ("target directory " ++ quoted directory ++ ": Not a directory")
    | .error e => die x.program 1 ("target directory " ++ quoted directory ++ ": " ++ e.reason)
    eachPath operands fun s => do one s (← into s directory)
  | none =>
    match operands with
    | [] => misuse x.program 1 "missing file operand"
    | [t] => misuse x.program 1 ("missing destination file operand after " ++ quoted t)
    | _ =>
      let destination := operands.getLastD []
      let sources := operands.dropLast
      if hasOption 'T' cs then
        if 1 < sources.length then misuse x.program 1 ("extra operand " ++ quoted (operands.getD 2 []))
        eachPath sources fun s => one s destination
      else
        let isDirectory ← match ← lookup destination with
          | .ok (_, .directory _) => pure true
          | .ok _ => do
            if 1 < sources.length then die x.program 1 ("target " ++ quoted destination ++ ": Not a directory")
            pure false
          | .error e => do
            if 1 < sources.length then die x.program 1 ("target " ++ quoted destination ++ ": " ++ e.reason)
            pure false
        eachPath sources fun s => do one s (← if isDirectory then into s destination else pure destination)

def cp (args : List Text) : Run Nat := do
  let fs := transferFlags ++ [
    { key := 'a', name := "archive" }, { key := '\x03', name := "attributes-only", isLetter := false }, { key := 'd' },
    { key := 'H' }, { key := 'l', name := "link" }, { key := 'L', name := "dereference" },
    { key := 'P', name := "no-dereference" }, { key := 'p' },
    { key := '\x04', name := "preserve", need := .optional, isLetter := false },
    { key := '\x05', name := "no-preserve", need := .required, isLetter := false },
    { key := '\x06', name := "parents", isLetter := false }, { key := 'r', name := "recursive" }, { key := 'R' },
    { key := '\x07', name := "reflink", need := .optional, isLetter := false },
    { key := '\x08', name := "remove-destination", isLetter := false },
    { key := '\x0e', name := "sparse", need := .required, isLetter := false }, { key := 's', name := "symbolic-link" },
    { key := 'x', name := "one-file-system" }]
  withFlags "cp" 1 fs args fun cs operands => do
    let has (c : Char) : Bool := hasOption c cs
    let descends := has 'r' || has 'R' || has 'a'
    let kept : Text := (optionValue? '\x04' cs).getD ""
    let keepsAll := has 'a' || has 'p' || (has '\x04' && kept.isEmpty) || kept = ("all" : Text)
    let x : Transfer := { transferOf "cp" cs with
      descends
      follows := match lastOf "LPHda" cs with
        | some 'L' => true
        | some 'H' => true
        | some _ => false
        | none => !descends
      keepsMode := keepsAll || Text.hasInside "mode" kept
      keepsTime := keepsAll || Text.hasInside "timestamps" kept
      removesFirst := has '\x08', makesLinks := has 'l', makesSymbolic := has 's', attributesOnly := has '\x03' }
    transferEach x cs operands (has '\x06') fun s p => x.copy 1000 true s p

def mv (args : List Text) : Run Nat :=
  withFlags "mv" 1 transferFlags args fun cs operands => do
    let x := transferOf "mv" cs
    transferEach x cs operands false x.move

def install (args : List Text) : Run Nat := do
  let fs := transferFlags.filter (fun f => !"finu".contains f.key) ++ [
    { key := 'c' }, { key := 'C', name := "compare" }, { key := 'd', name := "directory" }, { key := 'D' },
    { key := 'g', name := "group", need := .required }, { key := 'm', name := "mode", need := .required },
    { key := 'o', name := "owner", need := .required }, { key := 'p', name := "preserve-timestamps" },
    { key := 's', name := "strip" }]
  withFlags "install" 1 fs args fun cs operands => do
    let mode ← givenMode "install" (some ((optionValue? 'm' cs).getD "755")) 0 false
    if hasOption 'd' cs then
      if operands.isEmpty then misuse "install" 1 "missing file operand"
      return ← eachPath operands fun p => do
        let ok ← makeDirectoryAt "install" p true (some "755") (hasOption 'v' cs)
        match ← lookup p with
        | .ok (place, node) => modifyWorld fun w => { w with tree := w.tree.put place (node.withMode mode) }
        | .error _ => pure ()
        return ok
    if hasOption 'D' cs then
      match operands.getLast? with
      | some d =>
        let parent := if hasOption 't' cs then (optionValue? 't' cs).getD [] else parentText d
        let _ ← makeDirectoryAt "install" parent true none false
      | none => pure ()
    let x : Transfer := { transferOf "install" cs with removesFirst := true, keepsTime := hasOption 'p' cs }
    transferEach x cs operands false fun s p => do
      match ← lookup s with
      | .ok (_, .directory _) => x.fail ("omitting directory " ++ quoted s)
      | _ =>
        let ok ← x.copy 1000 true s p
        match ← lookup p with
        | .ok (place, node) =>
          if ok then modifyWorld fun w => { w with tree := w.tree.put place (node.withMode mode) }
        | .error _ => pure ()
        return ok

end Tangle.Shell.Program
