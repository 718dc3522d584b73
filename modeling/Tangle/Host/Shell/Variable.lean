import Tangle.Shell.Escape
import Tangle.Text.LetterCase

/-! # Shell variables

A variable holds a text, a list with numbered elements or a table with named ones, or nothing yet. The
elements of a list are kept in ascending order, those of a table in the order of a hash of their
keys. -/
namespace Tangle.Shell

inductive Value where
  | none
  | text (t : Text)
  | list (es : List (Nat × Text))
  | table (es : List (Text × Text))
deriving DecidableEq, Repr

structure Variable where
  value : Value := .none
  isList : Bool := false
  isTable : Bool := false
  isInteger : Bool := false
  isReference : Bool := false
  isReadonly : Bool := false
  isTraced : Bool := false
  isExported : Bool := false
  isLower : Bool := false
  isUpper : Bool := false
  /-- Whether its value is written with a capital and small letters after it. -/
  isCapital : Bool := false
deriving DecidableEq, Repr

namespace Variable

def ofText (t : Text) : Variable := { value := .text t }

def hash (key : Text) : Nat :=
  key.encode.foldl (fun h b =>
    let n := b.toNat
    (h * 16777619 % 2 ^ 32) ^^^ (if n < 0x80 then n else n + 0xFFFFFF00)) 2166136261

def bucket (key : Text) : Nat := hash key % 1024

/-- The entries of a table in the order in which they are listed. -/
def ordered (es : List (Text × Text)) : List (Text × Text) :=
  let keyed := es.reverse.map fun e => (bucket e.1, e)
  (keyed.mergeSort fun a b => a.1 ≤ b.1).map (·.2)

/-- Puts an element in its place in a list. -/
def putElement (i : Nat) (t : Text) : List (Nat × Text) → List (Nat × Text)
  | [] => [(i, t)]
  | e :: es =>
    if i < e.1 then (i, t) :: e :: es
    else if i = e.1 then (i, t) :: es
    else e :: putElement i t es

def putEntry (k t : Text) : List (Text × Text) → List (Text × Text)
  | [] => [(k, t)]
  | e :: es => if e.1 = k then (k, t) :: es else e :: putEntry k t es

def isSet (v : Variable) : Bool :=
  match v.value with
  | .none => false
  | .text _ => true
  | .list es => (es.lookup 0).isSome
  | .table es => (es.lookup ("0" : Text)).isSome

/-- The value of a variable without an index. -/
def plain? (v : Variable) : Option Text :=
  match v.value with
  | .none => Option.none
  | .text t => some t
  | .list es => es.lookup 0
  | .table es => es.lookup ("0" : Text)

/-- All elements in order. -/
def elements (v : Variable) : List Text :=
  match v.value with
  | .none => []
  | .text t => [t]
  | .list es => es.map (·.2)
  | .table es => (ordered es).map (·.2)

def keys (v : Variable) : List Text :=
  match v.value with
  | .none => []
  | .text _ => ["0"]
  | .list es => es.map fun e => Text.ofNat e.1
  | .table es => (ordered es).map (·.1)

/-- The number of an element that an index means; negative ones count from the end. -/
def position (v : Variable) (i : Int) : Option Nat :=
  if 0 ≤ i then some i.toNat
  else
    let next : Nat := match v.value with
      | .list es => (es.getLast?.map fun e => e.1 + 1).getD 0
      | .text _ => 1
      | _ => 0
    if 0 ≤ i + next then some (i + next).toNat else Option.none

def listElements (v : Variable) : List (Nat × Text) :=
  match v.value with
  | .list es => es
  | .text t => [(0, t)]
  | _ => []

def tableEntries (v : Variable) : List (Text × Text) :=
  match v.value with
  | .table es => es
  | .text t => [("0", t)]
  | _ => []

def element? (v : Variable) (i : Nat) : Option Text := v.listElements.lookup i
def entry? (v : Variable) (k : Text) : Option Text := v.tableEntries.lookup k

def setElement (v : Variable) (i : Nat) (t : Text) : Variable :=
  { v with value := .list (putElement i t v.listElements), isList := true }

def setEntry (v : Variable) (k t : Text) : Variable :=
  { v with value := .table (putEntry k t v.tableEntries) }

/-- Sets the value without an index. -/
def setPlain (v : Variable) (t : Text) : Variable :=
  if v.isTable then v.setEntry "0" t
  else if v.isList then v.setElement 0 t
  else { v with value := .text t }

/-- A text in the letter case that the variable asks for. -/
def recased (v : Variable) (t : Text) : Text :=
  if v.isCapital then
    match t with
    | [] => []
    | s :: r => s.toUpper :: r.map Symbol.toLower
  else if v.isUpper then t.map Symbol.toUpper
  else if v.isLower then t.map Symbol.toLower
  else t

def flags (v : Variable) : Text :=
  let letters : List (Bool × String) := [
    (v.isList, "a"), (v.isTable, "A"), (v.isInteger, "i"), (v.isReference, "n"), (v.isReadonly, "r"),
    (v.isTraced, "t"), (v.isExported, "x"), (v.isCapital, "c"), (v.isLower, "l"), (v.isUpper, "u")]
  letters.flatMap fun (on, l) => if on then Text.ofString l else []

def keyText (k : Text) : Text :=
  if needsEscapes k then dollarQuoted k
  else if hasShellSigns k || k = ("@" : Text) then doubleQuoted k
  else k

def valueText (v : Variable) : Text :=
  match v.value with
  | .none => []
  | .text t => "=" ++ valueQuoted t
  | .list es =>
    let element (e : Nat × Text) : Text := "[" ++ Text.ofNat e.1 ++ "]=" ++ valueQuoted e.2
    "=(" ++ Text.join " " (es.map element) ++ ")"
  | .table es =>
    let entry (e : Text × Text) : Text := "[" ++ keyText e.1 ++ "]=" ++ valueQuoted e.2 ++ " "
    "=(" ++ (ordered es).flatMap entry ++ ")"

/-- The command that declares a variable as it is. -/
def declaration (name : Text) (v : Variable) : Text :=
  let flags := v.flags
  "declare -" ++ (if flags.isEmpty then ("-" : Text) else flags) ++ " " ++ name ++ v.valueText

end Variable
end Tangle.Shell
