import Tangle.Host.Shell.Machine
import Tangle.Host.Shell.Arithmetic
import Tangle.Shell.Source

/-! # Parameters

The values of variables, of the parameters that the shell sets itself, and of arithmetic expressions,
which look up and set variables. -/
namespace Tangle.Shell.Run

def listOf (ts : List Text) : Variable :=
  { value := .list (ts.zipIdx.map fun (t, i) => (i, t)), isList := true }

def optionLetters (p : Process) : Text :=
  Text.ofChars (Options.letters.filter fun c =>
    if c = 'r' then p.isRestricted else (Options.ofLetter? c).any p.options.contains)

/-- The seed after a seed, in a sequence of period `2 ^ 31 - 2`. -/
def nextSeed (seed : Nat) : Nat :=
  let s : Int := if seed = 0 then 123459876 else seed
  let h := s / 127773
  let t := 16807 * (s - 127773 * h) - 2836 * h
  (if t < 0 then t + 0x7fffffff else t).toNat

/-- The next number of a sequence that depends on a seed alone. No number follows itself. -/
def nextRandom : Nat → Run Nat
  | 0 => return 0
  | n + 1 => do
    let p ← process
    let seed := nextSeed p.seed
    let value := ((seed / 2 ^ 16) ^^^ (seed % 2 ^ 16)) % 2 ^ 15
    modifyProcess fun p => { p with seed, lastRandom := value }
    if value = p.lastRandom then nextRandom n else return value

def versionNumbers : List Text := ["5", "2", "15", "1", "release", "x86_64-pc-linux-gnu"]

/-- A path with the home directory written as a tilde. -/
def polite (home t : Text) : Text :=
  if home.isEmpty || home = ("/" : Text) then t
  else match t.after? home with
    | some [] => "~"
    | some (.char '/' :: r) => "~/" ++ r
    | _ => t

/-- A variable whose value the shell computes. -/
def dynamic? (name : Text) : Run (Option Variable) := do
  let p ← process
  let text (t : Text) : Run (Option Variable) := return some (.ofText t)
  let number (n : Int) : Run (Option Variable) := return some { value := .text (Text.ofInt n), isInteger := true }
  if p.ordinary.contains name then return none
  match name.toDisplayString with
  | "RANDOM" => number (← nextRandom 100)
  | "SRANDOM" => number (← nextRandom 100)
  | "LINENO" => number p.line
  | "SECONDS" => number (Int.fdiv ((← world).clock - p.secondsFrom) 1000000)
  | "EPOCHSECONDS" => text (Text.ofNat ((← world).clock / 1000000))
  | "EPOCHREALTIME" =>
    let part := Text.ofNat ((← world).clock % 1000000)
    let zeros : Text := List.replicate (6 - part.length) (.char '0')
    text (Text.ofNat ((← world).clock / 1000000) ++ (Symbol.char '.' :: zeros) ++ part)
  | "BASH_COMMAND" => text p.command.get
  | "BASH_ARGV0" => text p.scriptName
  | "BASHPID" => number p.identity
  | "BASH_SUBSHELL" => text (Text.ofNat p.subshells)
  | "BASHOPTS" => return some { value := .text (Text.join ":" (sortedNames p.extended)), isReadonly := true }
  | "SHELLOPTS" => return some { value := .text (Text.join ":" (sortedNames p.options)), isReadonly := true }
  | "PIPESTATUS" => return some (listOf (p.pipeStatus.map Text.ofNat))
  | "FUNCNAME" =>
    if 0 < p.calls then return some (listOf (p.frames.map (·.function))) else return none
  | "BASH_SOURCE" => return some (listOf (p.frames.map (·.source)))
  | "BASH_LINENO" => return some (listOf (p.frames.map fun f => Text.ofNat f.line))
  | "DIRSTACK" =>
    let home := (((p.globals.get? "HOME").bind Variable.plain?).getD [])
    return some (listOf ((p.here :: p.directoryStack).map (polite home)))
  | "GROUPS" => return some (listOf ["0"])
  | "BASH_VERSINFO" => return some { listOf versionNumbers with isReadonly := true }
  | "_" => text p.lastArgument
  | _ => return none

/-- The names of the variables that the shell computes. -/
def dynamicNames : List Text := [
  "BASHOPTS", "BASHPID", "BASH_ARGV0", "BASH_COMMAND", "BASH_LINENO", "BASH_SOURCE", "BASH_SUBSHELL", "BASH_VERSINFO", "DIRSTACK",
  "EPOCHREALTIME", "EPOCHSECONDS", "FUNCNAME", "GROUPS", "LINENO", "PIPESTATUS", "RANDOM", "SECONDS",
  "SHELLOPTS", "SRANDOM", "_"]

/-- A variable as it stands, computed or stored, where a reference leads to. -/
def seen? (name : Text) : Run (Option Variable) := do
  match ← binding? name with
  | some v => return some v
  | none => dynamic? name

/-- The value of a positional or special parameter; nothing for other names. -/
def special? (name : Text) : Run (Option (Option Text)) := do
  let p ← process
  match name with
  | [.char '?'] => return some (some (Text.ofNat p.status))
  | [.char '#'] => return some (some (Text.ofNat p.positional.length))
  | [.char '$'] => return some (some (Text.ofNat p.shell))
  | [.char '!'] => return some (p.lastBackground.map Text.ofNat)
  | [.char '-'] => return some (some (optionLetters p))
  | [.char '0'] => return some (some p.scriptName)
  | s :: _ =>
    if s.isDigit then
      let n := name.foldl (fun n d => n * 10 + (Escape.digitValue d).getD 0) 0
      return some (if n = 0 then some p.scriptName else p.positional[n - 1]?)
    else return none
  | [] => return none

/-- The first symbol of `IFS`, which stands between joined elements. -/
def joiner : Run Text := do
  match (← binding? "IFS").bind Variable.plain? with
  | some t => return t.take 1
  | none => return " "

/-- A fault that was come upon in an expression, with the text of the expression and the rest of it from
where the fault is shown. -/
structure ArithmeticFault where
  kind : FaultKind
  expression : Text
  at_ : Text
deriving DecidableEq, Repr

abbrev Calculate := ExceptT ArithmeticFault Run

/-- The name before an index and the text of the index, if there is one. -/
def splitIndex (t : Text) : Text × Option Text :=
  match t.span (!·.is '[') with
  | (name, _ :: rest) => if rest.getLast?.any (·.is ']') then (name, some rest.dropLast) else (t, none)
  | (name, []) => (name, none)

def isName (t : Text) : Bool := t.head?.any Symbol.isIdentifierStart && t.all Symbol.isIdentifier

/-- The target behind references: a name with or without an index. -/
def targetOf (name : Text) (index : Option Text) : Run (Text × Option Text) := do
  let t ← resolved name
  let (n, i) := splitIndex t
  return (n, index.or i)

/-- Whether the shell computes the value of a variable. -/
def isDynamic (name : Text) : Run Bool := do
  return (← binding? name).isNone && dynamicNames.contains name && !(← process).ordinary.contains name

/-- What an assignment to a computed variable does, given the number that the text spells. Whether the
variable may be assigned to at all. -/
def storeDynamic (name t : Text) (n : Int) : Run Bool := do
  let clock := (← world).clock
  match name.toDisplayString with
  | "RANDOM" => modifyProcess fun p => { p with seed := (n % 2 ^ 32).toNat, lastRandom := 0 }
  | "SECONDS" => modifyProcess fun p => { p with secondsFrom := clock - n * 1000000 }
  | "LINENO" => modifyProcess fun p => { p with line := n.toNat }
  | "BASH_SUBSHELL" => modifyProcess fun p => { p with subshells := n.toNat }
  | "BASH_ARGV0" => modifyProcess fun p => { p with scriptName := t }
  | "_" => modifyProcess fun p => { p with lastArgument := t }
  | _ =>
    if (← dynamic? name).any (·.isReadonly) then
      complain (name ++ ": readonly variable")
      return false
  return true

/-- Stores a text; the variable must not be fixed. `position` says which element of a list an index
means. -/
def storeAt (name : Text) (index : Option Text) (appends : Bool) (t : Text)
    (position : Variable → Text → Run (Option Nat)) : Run Bool := do
  let v := (← binding? name).getD {}
  if v.isReadonly then complain (name ++ ": readonly variable"); return false
  let marked := if ← isOn "allexport" then { v with isExported := true } else v
  match index with
  | none =>
    let old := if appends then (v.plain?).getD [] else []
    putVariable name (marked.setPlain (v.recased (old ++ t).normal))
    return true
  | some i =>
    if v.isTable then
      let key := (unquote i).1
      let old := if appends then (v.entry? key).getD [] else []
      putVariable name (marked.setEntry key (v.recased (old ++ t).normal))
      return true
    else
      match ← position v i with
      | some n =>
        let old := if appends then (v.element? n).getD [] else []
        putVariable name (marked.setElement n (v.recased (old ++ t).normal))
        return true
      | none => complain (name ++ "[" ++ i ++ "]: bad array subscript"); return false

/-- The text that a target holds. -/
def textAt (name : Text) (index : Option Text) (position : Variable → Text → Run (Option Nat)) :
    Run (Option Text) := do
  match ← seen? name with
  | none => return none
  | some v =>
    match index with
    | none => return v.plain?
    | some i =>
      if v.isTable then return v.entry? (unquote i).1
      else
        match ← position v i with
        | some n => return v.element? n
        | none => return none

def unbound {α : Type} (name : Text) : Run α := do
  complain (name ++ ": unbound variable")
  throw (.fatal 1)

/-- A target with the element that its index means. -/
structure Located where
  name : Text
  index : Option Text
  place : Option Nat := none

/-- How deep expressions may lead on to others. -/
def calculationDepth : Nat := 1024

def isDecimal (t : Text) : Bool := t.all Symbol.isDigit && !t.head?.any (·.is '0') && !t.isEmpty

def decimalOf (t : Text) : Nat := t.foldl (fun n d => n * 10 + (Escape.digitValue d).getD 0) 0

section
variable (whole : Text)

def raise {α : Type} (f : FaultKind) (at_ : Text) : Calculate α := throw ⟨f, whole, at_⟩

/-- Works out the expression in a text, one level further down. -/
def subexpression (nested : Text → Expression → Calculate Int) (t : Text) : Calculate Int :=
  if isDecimal t && t.length < 18 then return decimalOf t else nested t (Arithmetic.read t)

/-- Reports a fault of an expression. -/
def tellFault (f : ArithmeticFault) (command : Text) : Run Unit := do
  if f.kind ≠ .refused then
    let head := if command.isEmpty then ([] : Text) else command ++ ": "
    complain (head ++ f.expression.dropWhile (fun s => s.isAnyOf " \t") ++ ": " ++ f.kind.text ++
      " (error token is \"" ++ f.at_ ++ "\")")

/-- Finds the element that a target means. A fault in its index drops the rest of the unit. -/
def located (nested : Text → Expression → Calculate Int) (t : Target) : Calculate Located := do
  let (name, index) ← targetOf t.name t.index
  match index with
  | none => return { name, index }
  | some i =>
    let v := ((← (binding? name : Run _)).getD {})
    if v.isTable then return { name, index }
    else
      let k : Except ArithmeticFault Int ← ((subexpression nested i).run : Run _)
      match k with
      | .ok k => return { name, index, place := v.position k }
      | .error f =>
        (tellFault f [] : Run Unit)
        (setStatus 1 : Run Unit)
        (throwThe Control .discard : Run _)

def valueAt (l : Located) : Run (Option Text) :=
  textAt l.name l.index fun _ _ => return l.place

def storedAt (l : Located) (k : Int) : Calculate Unit := do
  let ok : Bool ← (do
    if ← isDynamic l.name then storeDynamic l.name (Text.ofInt k) k
    else storeAt l.name l.index false (Text.ofInt k) fun _ _ => return l.place : Run _)
  if !ok then raise whole .refused []

/-- What stands in an expression that is passed over still has to be sound. -/
def passOver (e : Expression) : Calculate Unit :=
  match e.fault? with
  | some (f, at_) => raise whole f at_
  | none => return ()

def valueOfLocated (nested : Text → Expression → Calculate Int) (l : Located) (at_ : Text) : Calculate Int := do
  match ← (valueAt l : Run _) with
  | none =>
    if ← (isOn "nounset" : Run _) then (unbound l.name : Run Int) else return 0
  | some t =>
    let k : Except ArithmeticFault Int ← ((subexpression nested t).run : Run _)
    match k with
    | .ok k => return k
    | .error f => if f.kind = .tooDeep && f.at_.isEmpty then raise whole .tooDeep at_ else throw f

/-- The value of an expression, given how the expression is worked out that the value of a variable is. -/
def worked (nested : Text → Expression → Calculate Int) : Expression → Calculate Int
  | .number k => return k
  | .variable t at_ => do valueOfLocated whole nested (← located nested t) at_
  | .negate e => do return Arithmetic.wrap (-(← worked nested e))
  | .complement e => do return Arithmetic.wrap (-(← worked nested e) - 1)
  | .isZero e => do return Arithmetic.truth ((← worked nested e) == 0)
  | .operation o l r at_ => do
    let a ← worked nested l
    let b ← worked nested r
    match Arithmetic.apply o a b with
    | .ok k => return k
    | .error f => raise whole f at_
  | .both l r => do
    if (← worked nested l) = 0 then
      passOver whole r
      return 0
    return Arithmetic.truth ((← worked nested r) != 0)
  | .either l r => do
    if (← worked nested l) ≠ 0 then
      passOver whole r
      return 1
    return Arithmetic.truth ((← worked nested r) != 0)
  | .choice test yes no => do
    if (← worked nested test) ≠ 0 then
      let k ← worked nested yes
      passOver whole no
      return k
    else
      passOver whole yes
      worked nested no
  | .assign t none e _ => do
    let k ← worked nested e
    storedAt whole (← located nested t) k
    return k
  | .assign t (some o) e at_ => do
    let l ← located nested t
    let a ← valueOfLocated whole nested l at_
    match Arithmetic.apply o a (← worked nested e) with
    | .ok k =>
      storedAt whole l k
      return k
    | .error f => raise whole f at_
  | .step t by_ givesOld => do
    let l ← located nested t
    let a ← valueOfLocated whole nested l []
    let k := Arithmetic.wrap (a + by_)
    storedAt whole l k
    return if givesOld then a else k
  | .sequence l r => do
    let _ ← worked nested l
    worked nested r
  | .fault f at_ => raise whole f at_

end

/-- The value of an expression that stands in a text. -/
def calculate : Nat → (whole : Text) → Expression → Calculate Int
  | 0, whole, _ => raise whole .tooDeep []
  | n + 1, whole, e => worked whole (calculate n) e

/-- The value of a text as an expression. -/
def calculated (t : Text) : Run (Except ArithmeticFault Int) :=
  if isDecimal t && t.length < 18 then return .ok (decimalOf t)
  else (calculate calculationDepth t (Arithmetic.read t)).run

/-- The value of an expression in a place where a fault drops the rest of the unit. -/
def calculatedFor (command t : Text) : Run Int := do
  match ← calculated t with
  | .ok n => return n
  | .error f =>
    tellFault f command
    setStatus 1
    throw .discard

def calculatedOrDiscard (t : Text) : Run Int := calculatedFor [] t

def position (v : Variable) (i : Text) : Run (Option Nat) := do
  return v.position (← calculatedOrDiscard i)

/-- The number that a text spells in decimal; zero if it spells none. -/
def integerOf (t : Text) : Int := if isDecimal t then decimalOf t else 0

/-- Assigns a text; a variable for numbers takes its value as an expression. -/
def assign (name : Text) (index : Option Text) (appends : Bool) (t : Text) : Run Bool := do
  let (name, index) ← targetOf name index
  if ← isDynamic name then
    let isNumber := (← dynamic? name).any (·.isInteger)
    let n ← if isNumber then calculatedOrDiscard t else pure (integerOf t)
    storeDynamic name t n
  else if (← binding? name).any (·.isInteger) then
    let k ← calculatedOrDiscard t
    let old ← if appends then calculatedOrDiscard ((← textAt name index position).getD "0") else pure 0
    storeAt name index false (Text.ofInt (Arithmetic.wrap (old + k))) position
  else storeAt name index appends t position

/-- Assigns to a target that is written as one text. -/
def assignTo (target t : Text) : Run Bool := do
  let (name, index) := splitIndex target
  if isName name then assign name index false t
  else
    complain ("\x60" ++ target ++ "': not a valid identifier")
    return false

end Tangle.Shell.Run
