import Tangle.Host.Shell.Builtin.Declare

/-! # Settings of the shell

The commands that set options, positional parameters and names: `set`, `shopt`, `unset`, `shift`, `let`,
`getopts` and `alias`. -/
namespace Tangle.Shell.Builtin
open Run

/-- Turns an option on or off, and sets the variable that goes with it. -/
def turn (isOn : Bool) (name : Text) : Run Unit := do
  let p ← process
  modifyProcess (switchedOption isOn name)
  if name = ("ignoreeof" : Text) then
    if isOn then setText "IGNOREEOF" "10" else removeVariable "IGNOREEOF"
  else if name = ("posix" : Text) && isOn ≠ p.options.contains name then
    if isOn then setText "POSIXLY_CORRECT" "y" else removeVariable "POSIXLY_CORRECT"
  else if name = ("vi" : Text) && isOn then modifyProcess (switchedOption false "emacs")
  else if name = ("emacs" : Text) && isOn then modifyProcess (switchedOption false "vi")

def turnExtended (isOn : Bool) (name : Text) : Run Unit := do
  modifyProcess fun p =>
    let others := if isOn && Options.isCompatibility name then p.extended.filter (!Options.isCompatibility ·)
      else p.extended
    { p with extended := if isOn then (if others.contains name then others else name :: others)
        else others.filter (· ≠ name) }
  if Options.isCompatibility name then
    let extended := (← process).extended
    let asked := Options.compatibilities.find? fun e => extended.contains (e.1 : Text)
    setText "BASH_COMPAT" ((asked.map fun e => Text.ofString e.2).getD "52")
  if name = ("extdebug" : Text) then
    modifyProcess (switchedOption isOn "errtrace" ∘ switchedOption isOn "functrace")

def onOff (isOn : Bool) : Text := if isOn then "on" else "off"

/-- A name, padded, and whether it is on. -/
def tableLine (name : Text) (isOn : Bool) : Text :=
  let space : Text := List.replicate (15 - name.length) (.char ' ')
  name ++ space ++ "\t" ++ onOff isOn ++ "\n"

def commandLine (head on off name : Text) (isOn : Bool) : Text :=
  head ++ (if isOn then on else off) ++ " " ++ name ++ "\n"

/-- The options of `set`, one to a line, as commands or as a table. -/
def listOptions (asCommands : Bool) : Run Nat := do
  let on := (← process).options
  let line (e : String × Option Char) : Text :=
    let name : Text := e.1
    let isOn := on.contains name
    if asCommands then commandLine "set " "-o" "+o" name isOn else tableLine name isOn
  say (Options.named.flatMap line)

def setPositional (ts : List Text) : Run Unit := modifyProcess fun p => { p with positional := ts }

/-- The letter among the options of `set` that none of them has, if there is one, with its sign. The name of an
option may stand first. -/
def unknownOption? (isNameFirst : Bool) : List Text → Option Text
  | [] => none
  | a :: rest =>
    if isNameFirst then unknownOption? false rest
    else match a with
      | .char c :: s :: t =>
        if (c = '-' && s :: t = ("-" : Text)) || (c ≠ '-' && c ≠ '+') then none
        else match (s :: t).find? fun l => !(l.is 'o' || (l.is 'r' && c = '-') || l.holds fun l => (Options.ofLetter? l).isSome) with
          | some bad => some [.char c, bad]
          | none => unknownOption? ((s :: t).any (·.is 'o')) rest
      | _ => none

/-- Restricts the shell for the rest of its life. -/
def restrict : Run Unit := do
  modifyProcess fun p => { p with isRestricted := true }
  for name in (["PATH", "SHELL", "ENV", "BASH_ENV", "HISTFILE"] : List Text) do
    match ← binding? name with
    | some v => putVariable name { v with isReadonly := true }
    | none => pure ()

/-- Turns the options of a cluster of letters on or off; each `o` takes a name from the arguments. -/
def setLetters (isOn : Bool) : Text → List Text → Run (Except Nat (List Text))
  | [], rest => return .ok rest
  | .char 'o' :: t, rest =>
    match rest with
    | name :: more => do
      if name.isEmpty || name.head?.any (·.isAnyOf "-+") then
        let _ ← listOptions (!isOn)
        setLetters isOn t rest
      else if Options.isNamed name then
        turn isOn name
        setLetters isOn t more
      else
        tell "set" (name ++ ": invalid option name")
        return .error 2
    | [] => do
      let _ ← listOptions (!isOn)
      setLetters isOn t []
  | s :: t, rest => do
    match s with
    | .char c =>
      match Options.ofLetter? c with
      | some name => turn isOn name
      | none => if c = 'r' then restrict
    | _ => pure ()
    setLetters isOn t rest

/-- Reads options of `set`, and then the positional parameters, if any are given. -/
def setOptions : Nat → List Text → Run Nat
  | 0, _ => return 0
  | n + 1, ts => do
    match ts with
    | [] => return 0
    | (.char c :: t) :: rest =>
      if c ≠ '-' && c ≠ '+' then
        setPositional ts
        return 0
      else if c = '-' && t = ("-" : Text) then
        setPositional rest
        return 0
      else if t.isEmpty && c = '-' then
        turn false "xtrace"
        turn false "verbose"
        if !rest.isEmpty then setPositional rest
        return 0
      else
        match ← setLetters (c = '-') t rest with
        | .ok rest => setOptions n rest
        | .error status => return status
    | ts =>
      setPositional ts
      return 0

def set (args : List Text) : Run Nat := do
  if args.isEmpty then
    let status ← listSettings
    if ← isOn "posix" then return status
    listFunctions functionText
  else
    match unknownOption? false args with
    | some bad =>
      tell "set" (bad ++ ": invalid option")
      showUsage "set"
    | none => setOptions (args.length + 1) args

def shopt (args : List Text) : Run Nat := do
  withOptions "shopt" "supqo" "" args fun os names => do
    let isNamed := hasOption 'o' os
    let isSetting := hasOption 's' os || hasOption 'u' os
    if hasOption 's' os && hasOption 'u' os then
      return ← fault "shopt" "cannot set and unset shell options simultaneously"
    let p ← process
    let known (t : Text) : Bool := if isNamed then Options.isNamed t else Options.isExtended t
    let isOn (t : Text) : Bool := if isNamed then p.options.contains t else p.extended.contains t
    let line (t : Text) : Text :=
      if !hasOption 'p' os then tableLine t (isOn t)
      else if isNamed then commandLine "set " "-o" "+o" t (isOn t)
      else commandLine "shopt " "-s" "-u" t (isOn t)
    let all : List Text := if isNamed then Options.named.map fun e => Text.ofString e.1
      else Options.extended.map Text.ofString
    let quiet := hasOption 'q' os
    if names.isEmpty then
      let shown := if hasOption 's' os then all.filter isOn else if hasOption 'u' os then all.filter (!isOn ·) else all
      if !quiet then let _ ← say (shown.flatMap line)
      return 0
    let statuses ← names.mapM fun t => do
      if !known t then
        fault "shopt" (t ++ (if isNamed then ": invalid option name" else ": invalid shell option name"))
      else if isSetting then
        if isNamed then turn (hasOption 's' os) t else turnExtended (hasOption 's' os) t
        return 0
      else
        if !quiet then let _ ← say (line t)
        return if isOn t then 0 else 1
    return if statuses.all (· = 0) then 0 else 1

/-! Names -/

def unsetElement (v : Variable) (i : Text) : Run (Option Variable) := do
  if v.isTable then
    let k := (unquote i).1
    return some { v with value := .table (v.tableEntries.filter (·.1 ≠ k)) }
  else
    match v.position (← calculatedOrDiscard i) with
    | some n =>
      match v.value with
      | .text _ => return if n = 0 then some { v with value := .none } else some v
      | _ => return some { v with value := .list (v.listElements.filter (·.1 ≠ n)) }
    | none => return none

def unsetVariable (keepsReference : Bool) (t : Text) : Run Nat := do
  let (name, index) ← if keepsReference then pure (splitIndex t) else targetOf (splitIndex t).1 (splitIndex t).2
  if !isName name then invalidName "unset" t
  else
    match ← binding? name with
    | none =>
      if ← isDynamic name then
        if (← dynamic? name).any (·.isReadonly) then
          return ← fault "unset" (name ++ ": cannot unset: readonly variable")
        modifyProcess fun p => { p with ordinary := name :: p.ordinary }
      return 0
    | some v =>
      if v.isReadonly then return ← fault "unset" (name ++ ": cannot unset: readonly variable")
      match index with
      | none => removeVariable name; return 0
      | some i =>
        if i = ("@" : Text) || i = ("*" : Text) then
          if v.isTable then putVariable name { v with value := .table [] } else removeVariable name
          return 0
        match ← unsetElement v i with
        | some v => putVariable name v; return 0
        | none => complain ("unset: [" ++ i ++ "]: bad array subscript"); return 1

def unsetFunction (name : Text) : Run Nat := do
  match (← process).functions.get? name with
  | some f =>
    if f.isReadonly then
      complain ("unset: " ++ name ++ ": cannot unset: readonly function")
      return 1
    modifyProcess fun p => { p with functions := p.functions.erase name }
    return 0
  | none => return 0

def unset (args : List Text) : Run Nat := do
  withOptions "unset" "fvn" "" args fun os names => do
    if hasOption 'f' os && hasOption 'v' os then
      return ← fault "unset" "cannot simultaneously unset a function and a variable"
    eachText names fun t => do
      if hasOption 'f' os then unsetFunction t
      else if hasOption 'v' os || hasOption 'n' os then unsetVariable (hasOption 'n' os) t
      else if (← binding? (splitIndex t).1).isSome then unsetVariable false t
      else if isName (splitIndex t).1 then
        let status ← unsetVariable false t
        if status = 0 then unsetFunction t else return status
      else if (← process).functions.contains t then unsetFunction t
      else invalidName "unset" t

/-! Arguments -/

/-- The arguments behind a mark that ends options, if there is one; there may be no more than so many. -/
def boundArguments (name : Text) (most : Nat) (args : List Text) : Run (List Text) := do
  let args := withoutMark args
  if most < args.length then
    tell name "too many arguments"
    setStatus 1
    throw .discard
  return args

def shift (args : List Text) : Run Nat := do
  let args := withoutMark args
  let n := match args with
    | [] => some 1
    | t :: _ => Brace.integer? t
  match n with
  | some n =>
    let args ← boundArguments "shift" 1 args
    let ps := (← process).positional
    if n < 0 then fault "shift" (args.headD [] ++ ": shift count out of range")
    else if (ps.length : Int) < n then
      if ← isExtended "shift_verbose" then tell "shift" (Text.ofInt n ++ ": shift count out of range")
      return 1
    else
      setPositional (ps.drop n.toNat)
      return 0
  | none => fault "shift" (args.headD [] ++ ": numeric argument required")

def letAll (args : List Text) : Run Nat := do
  let args := withoutMark args
  if args.isEmpty then fault "let" "expression expected"
  else
    go args 1
where
  go : List Text → Nat → Run Nat
    | [], status => return status
    | t :: ts, _ => do
      match ← calculated t with
      | .ok n => go ts (if n = 0 then 1 else 0)
      | .error f =>
        tellFault f "let"
        return 1

/-- Reads the next option of the positional parameters or of the arguments given. -/
def getopts (args : List Text) : Run Nat := withOptions "getopts" "" "" args fun _ args => do
  match args with
  | spec :: name :: rest =>
    if !isName name then return ← fault "getopts" ("\x60" ++ name ++ "': not a valid identifier")
    let words ← if rest.isEmpty then pure (← process).positional else pure rest
    let position := naturalOf (← text "OPTIND")
    let position := if position = 0 then 1 else position
    let isQuiet := spec.head?.any (·.is ':')
    let tellsNothing := match (← binding? "OPTERR").bind Variable.plain? with
      | some t => !t.isEmpty && (integerOf? t).getD 0 = 0
      | none => false
    let protest (message : Text) : Run Unit := do
      if !tellsNothing then
        let _ ← write 2 ((← process).scriptName ++ ": " ++ message ++ "\n")
    let finish (next : Nat) : Run Nat := do
      setText "OPTIND" (Text.ofNat next)
      modifyProcess fun p => { p with optionOffset := 1 }
      let _ ← assignTo name "?"
      removeVariable "OPTARG"
      return 1
    match words[position - 1]? with
    | none => finish position
    | some w =>
      let offset := (← process).optionOffset
      if w = ("--" : Text) then finish (position + 1)
      else if !(w.head?.any (·.is '-')) || w.length < 2 then finish position
      else
        match w[offset]? with
        | none => finish (position + 1)
        | some s =>
          let isLast := w.length ≤ offset + 1
          let follow : Run Unit := do
            if isLast then
              setText "OPTIND" (Text.ofNat (position + 1))
              modifyProcess fun p => { p with optionOffset := 1 }
            else
              setText "OPTIND" (Text.ofNat position)
              modifyProcess fun p => { p with optionOffset := offset + 1 }
          let behind := (spec.dropWhile (· ≠ s)).drop 1
          if s.is ':' || !spec.contains s then
            follow
            let _ ← assignTo name "?"
            if isQuiet then setText "OPTARG" [s]
            else
              removeVariable "OPTARG"
              protest ("illegal option -- " ++ [s])
            return 0
          else if behind.head?.any (·.is ':') then
            if !isLast then
              setText "OPTARG" (w.drop (offset + 1))
              setText "OPTIND" (Text.ofNat (position + 1))
              modifyProcess fun p => { p with optionOffset := 1 }
              let _ ← assignTo name [s]
              return 0
            else
              modifyProcess fun p => { p with optionOffset := 1 }
              match words[position]? with
              | some v =>
                setText "OPTARG" v
                setText "OPTIND" (Text.ofNat (position + 2))
                let _ ← assignTo name [s]
                return 0
              | none =>
                setText "OPTIND" (Text.ofNat (position + 1))
                if isQuiet then
                  let _ ← assignTo name ":"
                  setText "OPTARG" [s]
                else
                  let _ ← assignTo name "?"
                  removeVariable "OPTARG"
                  protest ("option requires an argument -- " ++ [s])
                return 0
          else
            follow
            removeVariable "OPTARG"
            let _ ← assignTo name [s]
            return 0
  | _ => showUsage "getopts"

def aliasLine (isStrict : Bool) (name value : Text) : Text :=
  (if isStrict then ([] : Text) else "alias ") ++ name ++ "=" ++ apostrophed value ++ "\n"

def isAliasName (t : Text) : Bool := !t.isEmpty && !t.any (·.isAnyOf " \t\n/$\x60=\"'\\()&|;<>")

def aliasAll (args : List Text) : Run Nat := withOptions "alias" "p" "" args fun os names => do
  let as := (← process).aliases
  let isStrict := (← isOn "posix") && !hasOption 'p' os
  if names.isEmpty || hasOption 'p' os then
    for n in sortedNames as.keys do
      let _ ← say (aliasLine isStrict n ((as.get? n).getD []))
  eachText names fun t => do
    match splitOperand t with
    | (name, some (_, value)) =>
      if !isAliasName name then return ← fault "alias" ("\x60" ++ name ++ "': invalid alias name")
      modifyProcess fun p => { p with aliases := p.aliases.set name value }
      return 0
    | (name, none) =>
      match (← process).aliases.get? name with
      | some v => say (aliasLine isStrict name v)
      | none => fault "alias" (name ++ ": not found")

def unaliasAll (args : List Text) : Run Nat := withOptions "unalias" "a" "" args fun os names => do
  if hasOption 'a' os then
    modifyProcess fun p => { p with aliases := {} }
    return 0
  if names.isEmpty then return ← showUsage "unalias"
  eachText names fun t => do
    if (← process).aliases.contains t then
      modifyProcess fun p => { p with aliases := p.aliases.erase t }
      return 0
    fault "unalias" (t ++ ": not found")

end Tangle.Shell.Builtin
