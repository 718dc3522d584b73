import Tangle.Host.Shell.Assignment
import Tangle.Host.Shell.Lookup
import Tangle.Host.Shell.Builtin.Usage

/-! # Declarations

The commands that give variables attributes and scopes, and those that list variables and functions. -/
namespace Tangle.Shell.Builtin
open Run

inductive Operand where
  | text (t : Text)
  | assignment (a : Assignment)

/-- What the options of a declaration ask for. -/
structure Declaring where
  changes : List (Char × Bool) := []
  isGlobal : Bool := false
  inherits : Bool := false
  shows : Bool := false
  functions : Bool := false
  namesOnly : Bool := false
  unknown : Option Symbol := none

/-- The letters of options that a declaring command knows. -/
def knownLetters (command : Text) : String :=
  if command = ("export" : Text) || command = ("readonly" : Text) then "aAfnp" else "acfgilnprtuxAFGI"

def Declaring.option (known : String) (d : Declaring) (isOn : Bool) (s : Symbol) : Declaring :=
  match s with
  | .byte _ | .lone _ => { d with unknown := d.unknown.or (some s) }
  | .char c =>
    if !known.contains c then { d with unknown := d.unknown.or (some s) }
    else if c = 'g' || c = 'G' then { d with isGlobal := true }
    else if c = 'p' then { d with shows := true }
    else if c = 'f' then { d with functions := true }
    else if c = 'F' then { d with functions := true, namesOnly := true }
    else if c = 'I' then { d with inherits := true }
    else { d with changes := d.changes ++ [(c, isOn)] }

/-- Reads the options before the operands. -/
def Declaring.read (known : String) : List Operand → Declaring → Declaring × List Operand
  | .text (.char c :: s :: t) :: rest, d =>
    if c = '-' && (s :: t) = ([.char '-'] : Text) then (d, rest)
    else if c = '-' || c = '+' then
      read known rest ((s :: t).foldl (fun d s => d.option known (c = '-') s) d)
    else (d, .text (.char c :: s :: t) :: rest)
  | rest, d => (d, rest)

def asList (v : Variable) : Variable :=
  match v.value with
  | .text t => { v with isList := true, value := .list [(0, t)] }
  | _ => { v with isList := true }

def asTable (v : Variable) : Variable :=
  match v.value with
  | .text t => { v with isTable := true, value := .table [("0", t)] }
  | _ => { v with isTable := true }

/-- A change of attributes that comes before the value is set. -/
def changeBefore (v : Variable) : Char × Bool → Variable
  | ('a', true) => if v.isTable then v else asList v
  | ('A', true) => if v.isList then v else asTable v
  | ('i', on) => { v with isInteger := on }
  | ('n', on) => { v with isReference := on }
  | ('t', on) => { v with isTraced := on }
  | ('x', on) => { v with isExported := on }
  | ('c', on) => if on then { v with isCapital := true, isLower := false, isUpper := false } else { v with isCapital := false }
  | ('l', on) => if on then { v with isLower := true, isUpper := false, isCapital := false } else { v with isLower := false }
  | ('u', on) => if on then { v with isUpper := true, isLower := false, isCapital := false } else { v with isUpper := false }
  | _ => v

def changeAfter (v : Variable) : Char × Bool → Variable
  | ('r', true) => { v with isReadonly := true }
  | _ => v

/-- What keeps the attributes of a variable from being changed. -/
def changeFault? (name : Text) (v : Variable) : Char × Bool → Option Text
  | ('a', true) =>
    if v.isTable then some (name ++ ": cannot convert associative to indexed array") else none
  | ('A', true) =>
    if v.isList then some (name ++ ": cannot convert indexed to associative array") else none
  | ('a', false) => if v.isList then some (name ++ ": cannot destroy array variables in this way") else none
  | ('A', false) => if v.isTable then some (name ++ ": cannot destroy array variables in this way") else none
  | ('r', false) => if v.isReadonly then some (name ++ ": readonly variable") else none
  | _ => none

/-- A name with its index, the sign of assignment, and the value in an operand that is one text. -/
def splitOperand (t : Text) : Text × Option (Bool × Text) :=
  let head := t.takeWhile (!·.is '=')
  match t.drop head.length with
  | _ :: value =>
    if head.getLast?.any (·.is '+') then (head.dropLast, some (true, value)) else (head, some (false, value))
  | [] => (t, none)

/-! Listings -/

def shownForSet (t : Text) : Text :=
  if needsEscapes t then dollarQuoted t
  else if hasShellSigns t then apostrophed t
  else t

/-- The line that `set` shows for a variable. -/
def settingLine (name : Text) (v : Variable) : Option Text :=
  match v.value with
  | .none => none
  | .text t => some (name ++ "=" ++ shownForSet t)
  | _ => some (name ++ v.valueText)

/-- All variables with a value, by name. -/
def sortedVariables : Run (List (Text × Variable)) := do
  return (← visible).mergeSort fun a b => nameLe a.1 b.1

def listSettings : Run Nat := do
  for (n, v) in ← sortedVariables do
    match settingLine n v with
    | some l => let _ ← say (l ++ "\n")
    | none => pure ()
  return 0

def Function.flags (f : Function) : Text :=
  (if f.isReadonly then "r" else "") ++ (if f.isTraced then "t" else "") ++ (if f.isExported then "x" else "")

/-- Shows a function with the command that gives it its attributes. -/
def describedFunction (name : Text) (f : Function) : Text :=
  functionText name f ++
    (if (Function.flags f).isEmpty then ([] : Text) else "declare -f" ++ Function.flags f ++ " " ++ name ++ "\n")

/-- Shows all functions, by a text for each. -/
def listFunctions (shown : Text → Function → Text) : Run Nat := do
  for n in ← functionNames do
    match (← process).functions.get? n with
    | some f => let _ ← say (shown n f)
    | none => pure ()
  return 0

def functionLine (name : Text) (f : Function) : Text := "declare -f" ++ Function.flags f ++ " " ++ name ++ "\n"

def hasFlags (v : Variable) (changes : List (Char × Bool)) : Bool :=
  changes.all fun (c, _) => v.flags.any (·.is c)

/-- Shows the declarations of all variables that have some attributes. -/
def listDeclarations (changes : List (Char × Bool)) : Run Nat := do
  for (n, v) in ← sortedVariables do
    if hasFlags v changes && !(changes.isEmpty && v.value == .none && v.flags.isEmpty) then
      let _ ← say (v.declaration n ++ "\n")
  return 0

/-- The variables of the innermost call. -/
def localTable : Run (Table Variable) := do
  return ((callScope? (← process)).map (·.table)).getD {}

def listLocals : Run Nat := do
  let entries := (← localTable).toList.mergeSort fun a b => nameLe a.1 b.1
  for (n, v) in entries do let _ ← say (v.declaration n ++ "\n")
  return 0

def showDeclaration (command : Text) (isLocal : Bool) (name : Text) : Run Nat := do
  match ← if isLocal then local? name else seen? name with
  | some v => say (v.declaration name ++ "\n")
  | none => fault command (name ++ ": not found")

/-- Shows a function, or its name; where commands are being watched, also the place of its definition. -/
def showFunction (namesOnly : Bool) (name : Text) : Run Nat := do
  match (← process).functions.get? name with
  | some f =>
    if !namesOnly then say (functionText name f)
    else if ← isExtended "extdebug" then say (name ++ " " ++ Text.ofNat f.line ++ " " ++ f.source ++ "\n")
    else say (name ++ "\n")
  | none => return 1

/-- Changes the attributes of a function. -/
def changeFunction (command : Text) (isLoud : Bool) (changes : List (Char × Bool)) (name : Text) : Run Nat := do
  match (← process).functions.get? name with
  | none => if isLoud then fault command (name ++ ": not a function") else return 1
  | some f =>
    if f.isReadonly && changes.contains ('r', false) then return ← fault command (name ++ ": readonly function")
    let f := changes.foldl (fun (f : Function) c => match c with
      | ('x', on) => { f with isExported := on }
      | ('r', true) => { f with isReadonly := true }
      | ('t', on) => { f with isTraced := on }
      | _ => f) f
    modifyProcess fun p => { p with functions := p.functions.set name f }
    return 0

def operandText : Operand → Text
  | .text t => t
  | .assignment a => a.source

/-! Declarations of variables -/

/-- Which variable of a name a declaration is about. -/
inductive Reach where
  | global
  | call
  | found
deriving DecidableEq

def placed? (at_ : Reach) (name : Text) : Run (Option Variable) := do
  match at_ with
  | .global => return (← process).globals.get? name
  | .call => local? name
  | .found => binding? name

def putPlaced (at_ : Reach) (name : Text) (v : Variable) : Run Unit :=
  match at_ with
  | .global => putGlobal name v
  | .call => putLocal name v
  | .found => putVariable name v

def invalidName (command t : Text) : Run Nat := fault command ("\x60" ++ t ++ "': not a valid identifier")

/-- The variables that were set for the innermost call. -/
def givenToCall (name : Text) : Run (Option Variable) := do
  let p ← process
  match p.scopes.dropWhile fun s => p.calls ≤ s.level with
  | s :: _ => return if s.isCall || s.level + 1 ≠ p.calls then none else s.table.get? name
  | [] => return none

/-- The variable as it is before a declaration changes it. A new local one takes over whether the name is
exported; it takes over all of the variable if it is told to, or if that was set for the call. -/
def before (d : Declaring) (at_ : Reach) (name : Text) : Run Variable := do
  match ← placed? at_ name with
  | some v => return v
  | none =>
    if at_ ≠ .call then return {}
    match ← givenToCall name with
    | some v => return v
    | none =>
      match ← binding? name with
      | some v =>
        if d.inherits || (← isExtended "localvar_inherit") then return { v with isReadonly := false, isReference := false }
        else return { isExported := v.isExported }
      | none => return {}

/-- A variable of the shell that no function may have one of its own for. -/
def isProtected (name : Text) : Run Bool := do
  if findScope name ((← process).scopesOf name) |>.isSome then return false
  return ((← process).globals.get? name).any (·.isReadonly)

/-- Gives a variable attributes and, if there is one, a value. -/
def declareAs (command : Text) (d : Declaring) (at_ : Reach) (name : Text)
    (set : Option (Variable → Run (Option Variable))) : Run Nat := do
  let names := d.changes.any fun c => c.1 = 'n'
  let name ← if names || at_ = .call then pure name else resolved name
  if at_ = .call && (← local? name).isNone && (← isProtected name) then
    return ← fault command (name ++ ": readonly variable")
  let old ← before d at_ name
  if old.isReadonly && set.isSome then
    if command = ("export" : Text) || command = ("readonly" : Text) then complain (name ++ ": readonly variable")
    else tell command (name ++ ": readonly variable")
    return 1
  match d.changes.filterMap (changeFault? name old) with
  | message :: _ => fault command message
  | [] =>
    let v := d.changes.foldl changeBefore old
    let v := if ← isOn "allexport" then { v with isExported := true } else v
    match set with
    | none =>
      putPlaced at_ name (d.changes.foldl changeAfter v)
      return 0
    | some set =>
      match ← set v with
      | some v => putPlaced at_ name (d.changes.foldl changeAfter v); return 0
      | none => return 1

/-- Sets the value of a variable from a text, at an index if there is one. -/
def setFromText (index : Option Text) (appends : Bool) (t : Text) (v : Variable) : Run (Option Variable) := do
  match index with
  | none =>
    if v.isInteger && appends then
      let a ← calculatedOrDiscard (v.plain?.getD "0")
      let b ← calculatedOrDiscard t
      return some (v.setPlain (Text.ofInt (Arithmetic.wrap (a + b))))
    let old := if appends then v.plain?.getD [] else []
    return some (v.setPlain (← shaped v (old ++ t).normal))
  | some i =>
    if v.isTable then
      let k := (unquote i).1
      let old := if appends then (v.entry? k).getD [] else []
      return some (v.setEntry k (← shaped v (old ++ t)))
    else
      match v.position (← calculatedOrDiscard i) with
      | some n =>
        let old := if appends then (v.element? n).getD [] else []
        return some (v.setElement n (← shaped v (old ++ t)))
      | none => return none

section
variable (run : Command → Run Unit)

/-- The elements that a text stands for, where it is the value of an array. -/
def elementsIn? (v : Variable) (t : Text) : Option (List Element) :=
  if (v.isList || v.isTable) && t.getLast?.any (·.is ')') then Read.elementsOf? t else none

/-- Sets a value from a text, which may hold the elements of an array. -/
def setFromValue (index : Option Text) (appends : Bool) (t : Text) (v : Variable) : Run (Option Variable) := do
  match index, elementsIn? v t with
  | none, some es => return some (← withElements run v appends es)
  | _, _ => setFromText index appends t v

/-- What is wrong with the value of a reference. -/
def referenceFault? (name : Text) (value : Text) : Option Text :=
  let target := (splitIndex value).1
  if value.isEmpty then none
  else if target = name then some (name ++ ": nameref variable self references not allowed")
  else if !isName target then some ("\x60" ++ value ++ "': invalid variable name for name reference")
  else none

def declareOperand (command : Text) (d : Declaring) (at_ : Reach) : Operand → Run Nat
  | .text t => do
    let (head, value) := splitOperand t
    let (name, index) := splitIndex head
    let names := d.changes.contains ('n', true)
    if !isName name then invalidName command t
    else if names && index.isSome then fault command (head ++ ": reference variable cannot be an array")
    else
      match value.bind fun v => if names then referenceFault? name v.2 else none with
      | some message => fault command message
      | none =>
        let isTable := (← placed? at_ name).any (·.isTable) || d.changes.contains ('A', true)
        let d := if index.isSome && !isTable then { d with changes := ('a', true) :: d.changes } else d
        declareAs command d at_ name (value.map fun (appends, t) => setFromValue run index appends t)
  | .assignment (.mk _ name index appends (.scalar w)) => do
    let t ← valueOf run w
    let i ← indexOf run index
    declareAs command d at_ name (some (setFromText i appends t))
  | .assignment (.mk _ name _ appends (.array es)) => do
    let isTable := d.changes.any fun c => c = ('A', true)
    if at_ = .call && (← local? name).isNone && !(← isProtected name) then
      putLocal name (if isTable then { isTable := true } else { isList := true })
    declareAs command d at_ name (some fun v => do return some (← withElements run v appends es))

/-- Makes the options of the shell those of the innermost call. -/
def keepOptions : Run Unit := modifyProcess fun p =>
  { p with scopes := inCall p.calls (fun s => { s with options := s.options.or (some p.options) }) p.scopes }

/-- Declares or shows functions. -/
def declareFunctions (command : Text) (isAttribute : Bool) (d : Declaring) (names : List Text) : Run Nat :=
  if names.isEmpty then
    let hasFlags (f : Function) : Bool :=
      d.changes.all fun c => match c with
        | ('x', true) => f.isExported
        | ('r', true) => f.isReadonly
        | ('t', true) => f.isTraced
        | _ => true
    let isBrief := d.namesOnly || (isAttribute && d.shows)
    listFunctions fun name f =>
      if !hasFlags f then [] else if isBrief then functionLine name f else describedFunction name f
  else if isAttribute && !d.shows then
    eachText names (changeFunction command true (d.changes.map fun c => if c.1 = 'n' then ('x', false) else c))
  else if d.shows then
    eachText names fun name => do
      match (← process).functions.get? name with
      | some f => say (if d.namesOnly then functionLine name f else describedFunction name f)
      | none => fault command (name ++ ": not found")
  else if d.changes.isEmpty then eachText names (showFunction d.namesOnly)
  else eachText names (changeFunction command false d.changes)

/-- Runs a declaring command: `declare`, `typeset`, `local`, `export` or `readonly`. -/
def declare (name : Text) (operands : List Operand) : Run Nat := do
  let (d, rest) := Declaring.read (knownLetters name) operands {}
  match d.unknown with
  | some s => optionFault name (.unknown s)
  | none =>
  let isExport := name = ("export" : Text)
  let isReadonly := name = ("readonly" : Text)
  let isLocal := name = ("local" : Text)
  let withdraws := isExport && d.changes.any fun c => c.1 = 'n'
  let d := if isExport then { d with changes := d.changes.filter (·.1 ≠ 'n') ++ [('x', !withdraws)] }
    else if isReadonly then { d with changes := d.changes ++ [('r', true)] } else d
  let inCall := 0 < (← process).calls
  if isLocal && !inCall then fault "local" "can only be used in a function"
  else if d.functions then declareFunctions name (isExport || isReadonly) d (rest.map operandText)
  else if rest.isEmpty then
    if isLocal then listLocals
    else if isExport || isReadonly || d.shows || !d.changes.isEmpty then
      listDeclarations (if withdraws then [('x', true)] else d.changes)
    else
      let _ ← listSettings
      listFunctions functionText
  else if d.shows && !isExport && !isReadonly then
    eachText (rest.map operandText) (showDeclaration name isLocal)
  else
    let at_ : Reach := if isExport || isReadonly then .found
      else if d.isGlobal then .global else if inCall then .call else .found
    rest.foldlM (fun status o => do
      if isLocal && (operandText o) = ("-" : Text) then
        keepOptions
        return status
      let n ← declareOperand run name d at_ o
      return if n = 0 then status else n) 0

end

end Tangle.Shell.Builtin
