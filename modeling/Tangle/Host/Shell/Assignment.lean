import Tangle.Host.Shell.Trace

/-! # Assignments

An assignment gives a variable a text, or a list or table of its own. -/
namespace Tangle.Shell.Run

/-- An element to be put into a variable: at an index, or where it comes. -/
structure Putting where
  index : Option Text
  appends : Bool
  text : Text
deriving DecidableEq, Repr

/-- An element that comes to a given text. -/
def Putting.element (p : Putting) : Element :=
  .mk (p.index.map fun i => [.quoted i]) p.appends (.mk p.text [.quoted p.text])

/-- How an element is written so that it comes to its text. -/
def Putting.source (p : Putting) : Text :=
  (match p.index with
    | some i => "[" ++ apostrophed i ++ "]" ++ (if p.appends then "+=" else "=")
    | none => []) ++ apostrophed p.text

section
variable (run : Command → Run Unit)

def element (isTable : Bool) : Element → Run (List Putting)
  | .mk (some ps) appends w => do
    let i ← quotedText run ps
    return [⟨some i, appends, ← valueOf run w⟩]
  | .mk none _ w => do
    if isTable then return [⟨none, false, ← valueOf run w⟩]
    else return (← fieldsOf run w).map (⟨none, false, ·⟩)

/-- A text as the attributes of a variable ask for it. -/
def shaped (v : Variable) (t : Text) : Run Text := do
  if v.isInteger then return Text.ofInt (← calculatedOrDiscard t) else return v.recased t

/-- Puts elements into a list; `next` is the index of one that has none. -/
def putElements (v : Variable) : (next : Nat) → List Putting → Run Variable
  | _, [] => return v
  | next, p :: ps => do
    match p.index with
    | none => putElements (v.setElement next (← shaped v p.text)) (next + 1) ps
    | some i =>
      match v.position (← calculatedOrDiscard i) with
      | none =>
        complain ("[" ++ i ++ "]: bad array subscript")
        putElements v next ps
      | some n =>
        let old := if p.appends then (v.element? n).getD [] else []
        putElements (v.setElement n (← shaped v (old ++ p.text))) (n + 1) ps

/-- Puts entries into a table; those without a key are keys and values by turns. -/
def putEntries (v : Variable) : List Putting → Run Variable
  | [] => return v
  | p :: ps => do
    match p.index with
    | some k =>
      let old := if p.appends then (v.entry? k).getD [] else []
      putEntries (v.setEntry k (← shaped v (old ++ p.text))) ps
    | none =>
      match ps with
      | q :: ps => putEntries (v.setEntry p.text (← shaped v q.text)) ps
      | [] => putEntries (v.setEntry p.text []) []

/-- The variable with elements in place of its value, or behind it. -/
def withElements (v : Variable) (appends : Bool) (es : List Element) : Run Variable := do
  let ps := (← es.mapM (element run v.isTable)).flatten
  if v.isTable then
    let start := if appends then v else { v with value := .table [] }
    putEntries { start with value := .table start.tableEntries } ps
  else
    let start := if appends then { v with value := .list v.listElements } else { v with value := .list [] }
    let next := (start.listElements.getLast?.map fun (e : Nat × Text) => e.1 + 1).getD 0
    putElements { start with isList := true } next ps

/-- Carries out an assignment; whether the variable could be set. -/
def assignArray (name : Text) (appends : Bool) (es : List Element) : Run Bool := do
  let (name, _) ← targetOf name none
  let v := (← binding? name).getD {}
  if v.isReadonly then complain (name ++ ": readonly variable"); return false
  let filled ← withElements run v appends es
  putVariable name filled
  return true

/-- The index of an assignment as a text. -/
def indexOf (index : Option (List Part)) : Run (Option Text) := do
  match index with
  | some ps => return some (← quotedText run ps)
  | none => return none

def carryOut (a : Assignment) : Run Bool := do
  match a with
  | .mk source name index appends (.scalar w) =>
    let t ← valueOf run w
    let i ← indexOf run index
    let target := match index with
      | some _ => source.take (source.length - w.source.length - (if appends then 2 else 1))
      | none => name
    traceAssignment run target appends t
    if i.any (·.isEmpty) then
      complain (name ++ "[]: bad array subscript")
      return false
    assign name i appends t
  | .mk source name index appends (.array es) =>
    if index.isSome then
      complain (source ++ ": cannot assign list to array member")
      return false
    trace run fun _ => source
    assignArray run name appends es

/-- Carries out the assignments of a command that has no words. -/
def carryOutAll (as : List Assignment) : Run Unit := do
  for a in as do
    if !(← carryOut run a) then
      setStatus 1
      if ← isOn "posix" then throw (.exit 1)
      throw .discard

end

end Tangle.Shell.Run
