import Tangle.Host.Shell.Builtin.Usage

/-! # Going to directories

The commands `cd` and `pwd`, and those that keep a stack of directories, whose top is the one that the shell
is in. -/
namespace Tangle.Shell.Builtin
open Run

/-- The names of a path after `..` has been carried out on the names alone, provided that what it is behind
is a directory. -/
def reduced (t : Tree) : (soFar names : List Text) → Option (List Text)
  | soFar, [] => some soFar
  | soFar, n :: ns =>
    if n = (".." : Text) then
      if t.isDirectory [] ⟨.absolute, soFar⟩ then reduced t soFar.dropLast ns else none
    else reduced t (soFar ++ [n]) ns

/-- The place that a path leads to, with the path by which one has come there. -/
def destination? (isPhysical : Bool) (path : Text) : Run (Except FileError (Place × Text)) := do
  let p ← process
  let t ← tree
  let from_ := if path.startsWith "/" then [] else (Path.ofText p.here).names
  let logical := (reduced t from_ (Path.ofText path).names).filter fun names => t.isDirectory [] ⟨.absolute, names⟩
  match if isPhysical then none else logical with
  | some names => return (t.resolve [] ⟨.absolute, names⟩).map fun place => (place, placeText names)
  | none =>
    match ← lookup path with
    | .error e => return .error e
    | .ok (place, .directory _) => return .ok (place, placeText place)
    | .ok _ => return .error .notDirectory

/-- Goes to a directory; the path of it is the new `PWD`. -/
def enterBy (isPhysical : Bool) (path : Text) : Run (Option FileError) := do
  match ← destination? isPhysical path with
  | .error e => return some e
  | .ok (place, here) =>
    let old ← text "PWD"
    modifyProcess fun p => { p with directory := place, here }
    setText "OLDPWD" old
    setText "PWD" here
    return none

def enter (path : Text) : Run (Option FileError) := do enterBy (← isOn "physical") path

def failedPath (command path : Text) (e : FileError) : Run Nat := fault command (path ++ ": " ++ e.reason)

/-- Whether a path does not depend on where one looks for it. -/
def isRooted (path : Text) : Bool :=
  path.startsWith "/" || path = ("." : Text) || path = (".." : Text) || path.startsWith "./" || path.startsWith "../"

def plainValue? (name : Text) : Run (Option Text) := do return (← binding? name).bind Variable.plain?

/-- Goes to the first directory of `CDPATH` that a path leads on from. -/
def enterFromSearchPath (path : Text) : Run (Option Nat) := do
  if isRooted path then return none
  match ← plainValue? "CDPATH" with
  | none => return none
  | some ds => go (Text.pieces (.char ':') ds)
where
  go : List Text → Run (Option Nat)
    | [] => return none
    | d :: ds => do
      let candidate := if d.isEmpty then "./" ++ path else if d.endsWith "/" then d ++ path else d ++ "/" ++ path
      match ← enter candidate with
      | none => if d.isEmpty then return some 0 else return some (← say ((← text "PWD") ++ "\n"))
      | some _ => go ds

/-- Goes to a directory, which a variable may name. -/
def enterNamed (isPhysical : Bool) (path : Text) : Run Nat := do
  match ← enterFromSearchPath path with
  | some n => return n
  | none =>
    match ← enterBy isPhysical path with
    | none => return 0
    | some e =>
      if ← isExtended "cdable_vars" then
        match ← plainValue? path with
        | some d =>
          if (← enter d).isNone then return ← say (d ++ "\n")
        | none => pure ()
      failedPath "cd" path e

/-- Whether links are to be followed rather than kept in paths. -/
def asksForPlace (os : Chosen) (p : Process) : Bool :=
  match lastOf "LP" os with
  | some c => c == 'P'
  | none => p.options.contains "physical"

def cd (args : List Text) : Run Nat := do
  if (← process).isRestricted then return ← fault "cd" "restricted"
  withOptions "cd" "LPe@" "" args fun os rest => do
  let isPhysical := asksForPlace os (← process)
  match rest with
  | [] =>
    match ← plainValue? "HOME" with
    | none => fault "cd" "HOME not set"
    | some h => if h.isEmpty then return 0 else enterNamed isPhysical h
  | [t] =>
    if t = ("-" : Text) then
      match ← plainValue? "OLDPWD" with
      | none => fault "cd" "OLDPWD not set"
      | some d =>
        match ← enterBy isPhysical d with
        | none => say ((← text "PWD") ++ "\n")
        | some e => failedPath "cd" d e
    else if t.isEmpty then return 0
    else enterNamed isPhysical t
  | _ => fault "cd" "too many arguments"

def pwd (args : List Text) : Run Nat := withOptions "pwd" "LP" "" args fun os _ => do
  let p ← process
  say ((if asksForPlace os p then placeText p.directory else p.here) ++ "\n")

/-! The stack -/

/-- All directories of the stack, the one that the shell is in first. -/
def stackedDirectories : Run (List Text) := do
  let p ← process
  return p.here :: p.directoryStack

/-- The position that `+N` or `-N` means in a stack of some size. -/
def stackIndex? (size : Nat) (t : Text) : Option Nat :=
  match t with
  | .char '+' :: ds => if ds.isEmpty || !ds.all Symbol.isDigit then none else some (naturalOf ds)
  | .char '-' :: ds =>
    if ds.isEmpty || !ds.all Symbol.isDigit then none
    else some (if naturalOf ds < size then size - 1 - naturalOf ds else size)
  | _ => none

def isStackIndex (t : Text) : Bool := (stackIndex? 0 t).isSome

/-- What a call of `dirs` asks for. -/
structure StackShown where
  clears : Bool := false
  isFull : Bool := false
  isTall : Bool := false
  isNumbered : Bool := false
  index : Option Text := none

def stackShown : List Text → StackShown → Except Text StackShown
  | [], s => .ok s
  | t :: rest, s =>
    if isStackIndex t then stackShown rest { s with index := some t }
    else match t with
      | .char '-' :: ls =>
        if ls = ("-" : Text) then .ok s
        else if !ls.isEmpty && ls.all (·.isAnyOf "clpv") then
          stackShown rest { s with
            clears := s.clears || ls.any (·.is 'c'), isFull := s.isFull || ls.any (·.is 'l')
            isTall := s.isTall || ls.any (·.isAnyOf "pv"), isNumbered := s.isNumbered || ls.any (·.is 'v') }
        else .error (t ++ ": invalid number")
      | _ => .error (t ++ ": invalid option")

def dirs (args : List Text) : Run Nat := do
  match stackShown args {} with
  | .error message =>
    tell "dirs" message
    showUsage "dirs"
  | .ok s =>
    if s.clears then
      modifyProcess fun p => { p with directoryStack := [] }
      return 0
    let home ← text "HOME"
    let all ← stackedDirectories
    let shown := all.map fun t => if s.isFull then t else polite home t
    let line (t : Text) (i : Nat) : Text := (if s.isNumbered then Text.padStart 2 (Text.ofNat i) ++ "  " else []) ++ t
    match s.index with
    | some t =>
      match shown[(stackIndex? all.length t).getD all.length]? with
      | some d => say (line d ((stackIndex? all.length t).getD 0) ++ "\n")
      | none => fault "dirs" ((t.drop 1) ++ ": directory stack index out of range")
    | none =>
      if s.isTall then say ((shown.zipIdx.map fun (t, i) => line t i ++ "\n").flatten)
      else say (Text.join " " shown ++ "\n")

/-- Makes a list of directories the stack, and goes to its top. -/
def restack (command : Text) : List Text → Run Nat
  | [] => return 0
  | top :: rest => do
    match ← enter top with
    | some e => failedPath command top e
    | none =>
      modifyProcess fun p => { p with directoryStack := rest }
      dirs []

/-- The arguments of `pushd` or `popd`: whether the shell stays where it is, and the rest. -/
def stackArguments : List Text → Bool × List Text
  | t :: rest =>
    if t = ("-n" : Text) then (true, (stackArguments rest).2)
    else if t = ("--" : Text) then (false, rest)
    else (false, t :: rest)
  | [] => (false, [])

def pushd (args : List Text) : Run Nat := do
  let (stays, rest) := stackArguments args
  let all ← stackedDirectories
  match rest with
  | [] =>
    match all with
    | here :: next :: more =>
      if stays then
        modifyProcess fun p => { p with directoryStack := next :: more }
        return 0
      restack "pushd" (next :: here :: more)
    | _ => fault "pushd" "no other directory"
  | t :: _ =>
    if isStackIndex t then
      if all.length < 2 then fault "pushd" "directory stack empty"
      else
        let i := (stackIndex? all.length t).getD 0
        if all.length ≤ i then fault "pushd" (t ++ ": directory stack index out of range")
        else
          let rotated := all.drop i ++ all.take i
          if stays then
            modifyProcess fun p => { p with directoryStack := rotated.drop 1 }
            dirs []
          else restack "pushd" rotated
    else if t.startsWith "-" && t ≠ ("-" : Text) then
      tell "pushd" (t ++ ": invalid number")
      showUsage "pushd"
    else if stays then
      modifyProcess fun p => { p with directoryStack := t :: p.directoryStack }
      dirs []
    else
      let here := all.headD []
      let target ← if t = ("-" : Text) then text "OLDPWD" else pure t
      match ← enter target with
      | some e => failedPath "pushd" target e
      | none =>
        modifyProcess fun p => { p with directoryStack := here :: p.directoryStack }
        dirs []

def popd (args : List Text) : Run Nat := do
  let (stays, rest) := stackArguments args
  let all ← stackedDirectories
  let index := match rest with
    | [] => some 0
    | t :: _ => stackIndex? all.length t
  match index with
  | none =>
    tell "popd" ((rest.headD []) ++ ": invalid argument")
    showUsage "popd"
  | some i =>
    if all.length < 2 then fault "popd" "directory stack empty"
    else if all.length ≤ i then fault "popd" (rest.headD [] ++ ": directory stack index out of range")
    else if i = 0 then
      match all with
      | _ :: next :: more =>
        if stays then
          modifyProcess fun p => { p with directoryStack := more }
          dirs []
        else restack "popd" (next :: more)
      | _ => return 1
    else
      modifyProcess fun p => { p with directoryStack := (all.eraseIdx i).drop 1 }
      dirs []

end Tangle.Shell.Builtin
