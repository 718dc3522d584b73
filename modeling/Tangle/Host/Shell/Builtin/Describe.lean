import Tangle.Host.Shell.Builtin.Setting

/-! # Telling what names mean

The commands `type`, `command -v`, `hash` and `enable`. -/
namespace Tangle.Shell.Builtin
open Run

def typeName : Meaning → Text
  | .alias _ => "alias"
  | .keyword => "keyword"
  | .function _ => "function"
  | .builtin => "builtin"
  | .program _ => "file"
  | .remembered _ => "file"

def typeSentence (name : Text) : Meaning → Text
  | .alias value => name ++ " is aliased to \x60" ++ value ++ "'\n"
  | .keyword => name ++ " is a shell keyword\n"
  | .function f => name ++ " is a function\n" ++ functionText name f
  | .builtin => name ++ " is a shell builtin\n"
  | .program path => name ++ " is " ++ path ++ "\n"
  | .remembered path => name ++ " is hashed (" ++ path ++ ")\n"

/-- A meaning in a form that can be used again. -/
def reusable (name : Text) : Meaning → Text
  | .alias value => aliasLine false name value
  | .program path => path ++ "\n"
  | .remembered path => path ++ "\n"
  | _ => name ++ "\n"

def isFunctionMeaning : Meaning → Bool
  | .function _ => true
  | _ => false

def pathOf? : Meaning → Option Text
  | .program path => some path
  | .remembered path => some path
  | _ => none

def type (args : List Text) : Run Nat := do
  withOptions "type" "tpPaf" "" args fun os names => do
    let shape := lastOf "tpP" os
    let statuses ← names.mapM fun name => do
      let all := hasOption 'a' os
      let ms ← if hasOption 'P' os then do
            let paths ← programPaths name
            pure ((if all then paths else paths.take 1).map Meaning.program)
        else do
          let ms ← meanings name (all || hasOption 'f' os)
          let ms := if hasOption 'f' os then ms.filter (!isFunctionMeaning ·) else ms
          pure (if all then ms else ms.take 1)
      if ms.isEmpty then
        if shape.isNone then tell "type" (name ++ ": not found")
        return 1
      for m in ms do
        match shape with
        | some 't' => let _ ← say (typeName m ++ "\n")
        | some _ => let _ ← say ((pathOf? m).elim [] (· ++ "\n"))
        | none => let _ ← say (typeSentence name m)
      return 0
    return if statuses.all (· = 0) then 0 else 1

/-- What `command -v` and `command -V` tell about names. -/
def describeCommand (isVerbose : Bool) (names : List Text) : Run Nat := do
  let statuses ← names.mapM fun name => do
    match (← meanings name false).head? with
    | some m =>
      let _ ← say (if isVerbose then typeSentence name m else reusable name m)
      return 0
    | none =>
      if isVerbose then tell "command" (name ++ ": not found")
      return 1
  return if statuses.contains 0 then 0 else 1

/-! Remembered programs -/

/-- The programs that are remembered, in the order in which they are listed. -/
def rememberedInOrder : Run (List Remembered) := do
  let keyed := (← process).remembered.map fun r => (Variable.hash r.name % 256, r)
  return (keyed.mergeSort fun a b => a.1 ≤ b.1).map (·.2)

/-- A program that is remembered as the command that would remember it. -/
def rememberingLine (r : Remembered) : Text := "builtin hash -p " ++ r.path ++ " " ++ r.name ++ "\n"

/-- Lists what is remembered. -/
def listRemembered (isReusable : Bool) : Run Nat := do
  let rs ← rememberedInOrder
  if rs.isEmpty then
    if isReusable then return 0 else say "hash: hash table empty\n"
  else if isReusable then say (rs.flatMap rememberingLine)
  else say ("hits\tcommand\n" ++ rs.flatMap fun r => (Text.padStart 4 (Text.ofNat r.calls) ++ "\t" ++ r.path ++ "\n" : Text))

def hash (args : List Text) : Run Nat := withOptions "hash" "rldt" "p" args fun os names => do
  if hasOption 't' os && names.isEmpty then
    tell "hash" "-t: option requires an argument"
    return ← showUsage "hash"
  if hasOption 'd' os && names.isEmpty then
    tell "hash" "-d: option requires an argument"
    return ← showUsage "hash"
  if names.isEmpty && !hasOption 'r' os then return ← listRemembered (hasOption 'l' os)
  if hasOption 'r' os then modifyProcess fun p => { p with remembered := [] }
  let statuses ← names.mapM fun name => do
    if hasOption 't' os then
      match ← remembered? name with
      | some r =>
        say (if hasOption 'l' os then rememberingLine r
          else (if 1 < names.length then name ++ "\t" else []) ++ r.path ++ "\n")
      | none => fault "hash" (name ++ ": not found")
    else if hasOption 'd' os then
      match ← remembered? name with
      | some _ =>
        forget name
        return 0
      | none => fault "hash" (name ++ ": not found")
    else
      match optionValue? 'p' os with
      | some path =>
        remember { name, path }
        return 0
      | none =>
        if name.any (·.is '/') || (← isEnabled name) || (← process).functions.contains name then return 0
        match ← program? name with
        | some (path, _) =>
          remember { name, path }
          return 0
        | none => fault "hash" (name ++ ": not found")
  return if statuses.all (· = 0) then 0 else 1

/-! Commands in use -/

/-- Lists commands of the shell, or takes them out of use and into it again. -/
def enable (args : List Text) : Run Nat := withOptions "enable" "adnps" "f" args fun os names => do
  let disabled := (← process).disabled
  let line (name : Text) : Text := (if disabled.contains name then "enable -n " else "enable ") ++ name ++ "\n"
  if names.isEmpty || hasOption 'p' os then
    let shown := builtinNames.filter fun n =>
      hasOption 'a' os || (disabled.contains n == hasOption 'n' os)
    let special : List Text := [".", ":", "break", "continue", "eval", "exec", "exit", "export", "readonly", "return", "set",
      "shift", "source", "times", "trap", "unset"]
    say ((if hasOption 's' os then shown.filter special.contains else shown).flatMap line)
  else
    eachText names fun name => do
      if !isBuiltin name then fault "enable" (name ++ ": not a shell builtin")
      else
        modifyProcess fun p =>
          let others := p.disabled.filter (· ≠ name)
          { p with disabled := if hasOption 'n' os then name :: others else others }
        return 0

end Tangle.Shell.Builtin
