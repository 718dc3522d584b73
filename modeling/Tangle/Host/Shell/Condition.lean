import Tangle.Host.Shell.Trace
import Tangle.Host.Shell.Regex.Reading
import Tangle.Host.Shell.Argument

/-! # Conditions

What can be asked about texts, numbers and files, and the tests of `[[` on words that are expanded as they are
met. -/
namespace Tangle.Shell.Run

/-- What a stream is open to. -/
def nodeOfStream (i : Nat) : Run Node := do
  match ← stream i with
  | .file place _ _ => return ((← tree).node? place).getD (.file [] 0o644)
  | .source n => return .pipe n 0o600
  | .sink n => return .pipe n 0o600
  | .ends n => return .pipe n 0o600
  | .device d => return .device d
  | .nothing => return .device .null
  | .input rest => return .pipe rest.length 0o600
  | .output _ => return .pipe 0 0o600

/-- What stands at a path. -/
def nodeAt? (path : Text) : Run (Option Node) := do
  match descriptorOfPath? path with
  | some fd => (← descriptor? fd).mapM nodeOfStream
  | none => return ((← lookup path).toOption).map (·.2)

def isSetName (t : Text) : Run Bool := do
  let (name, index) := splitIndex t
  match ← special? name with
  | some v => return v.isSome
  | none =>
    let (name, index) ← targetOf name index
    match index with
    | some i =>
      if i = ("@" : Text) || i = ("*" : Text) then
        return !(((← seen? name).map Variable.elements).getD []).isEmpty
      else return (← textAt name (some i) position).isSome
    | none => return (← seen? name).any Variable.isSet

def unaryTest (letter : Char) (t : Text) : Run Bool := do
  match letter with
  | 'z' => return t.isEmpty
  | 'n' => return !t.isEmpty
  | 'v' => isSetName t
  | 'o' => isOn t
  | 'R' => return (← binding? t).any (·.isReference)
  | 't' => return false
  | _ =>
    if letter = 'h' || letter = 'L' then
      match ← lookupLink t with
      | .ok (_, .link _) => return true
      | _ => return false
    match letter, ← nodeAt? t with
    | _, none => return false
    | 'f', some node => return node.isRegular
    | 'd', some (.directory _) => return true
    | 's', some (.file content _) => return !content.isEmpty
    | 's', some (.directory _) => return true
    | 'x', some (.directory _) => return true
    | 'x', some node => return node.mode &&& 0o111 ≠ 0
    | 'c', some (.device _) => return true
    | 'p', some (.pipe ..) => return true
    | 'u', some node => return node.mode &&& 0o4000 ≠ 0
    | 'g', some node => return node.mode &&& 0o2000 ≠ 0
    | 'k', some node => return node.mode &&& 0o1000 ≠ 0
    | c, some _ => return "earwOGN".toList.contains c

def compareNumbers (op : Text) (a b : Int) : Bool :=
  match op.toDisplayString with
  | "-eq" => a == b
  | "-ne" => a != b
  | "-lt" => a < b
  | "-le" => a ≤ b
  | "-gt" => b < a
  | "-ge" => b ≤ a
  | _ => false

def isNumberTest (op : Text) : Bool :=
  ["-eq", "-ne", "-lt", "-le", "-gt", "-ge"].any fun (o : String) => op = (o : Text)

/-- The tests that compare two files. -/
def compareFiles (op l r : Text) : Run Bool := do
  let a := (← lookup l).toOption
  let b := (← lookup r).toOption
  if op = ("-ef" : Text) then return a.isSome && a.map (·.1) == b.map (·.1)
  else
    let w ← world
    let moment (f : Option (Place × Node)) : Option Nat := f.map fun f => w.changeOf f.1
    let isNewer (x y : Option Nat) : Bool := match x, y with
      | some m, some n => n < m
      | some _, none => true
      | none, _ => false
    return if op = ("-nt" : Text) then isNewer (moment a) (moment b) else isNewer (moment b) (moment a)

def textLess (a b : Text) : Bool := Text.le a b && a ≠ b

/-! Conditions of `[[` -/

section
variable (run : Command → Run Unit)

def patternMatches (hasGroups : Bool) (subject : Text) (gs : List Glyph) : Run Bool := do
  return Pattern.isMatch (Pattern.ofGlyphs hasGroups gs) (← isExtended "nocasematch") subject

/-- Matches against an expression and leaves the groups in `BASH_REMATCH`. -/
def regexMatches (subject : Text) (gs : List Glyph) : Run (Option Bool) := do
  let gs := if ← isExtended "compat31" then Glyph.ofText false (Glyph.text gs) else gs
  match Regex.read .extended gs with
  | .error _ => return none
  | .ok r =>
    match Regex.find r { ignoresCase := ← isExtended "nocasematch" } subject 0 with
    | none =>
      putGlobal "BASH_REMATCH" (listOf [])
      return some false
    | some m =>
      let count := Regex.countGroups r
      let texts := (List.range (count + 1)).map fun n =>
        if n = 0 then m.text subject else (m.group? subject n).getD []
      putGlobal "BASH_REMATCH" (listOf texts)
      return some true

/-- Tells of a test that is about to be made. -/
def traceTest (isNegated : Bool) (t : Unit → Text) : Run Unit :=
  trace run fun _ => "[[ " ++ (if isNegated then ("! " : Text) else []) ++ t () ++ " ]]"

def shownOperand (t : Text) : Text := if t.isEmpty then "''" else t

/-- A pattern with a backslash before what is quoted. -/
def shownPattern (gs : List Glyph) : Text :=
  shownOperand (gs.flatMap fun g => if g.isQuoted then [.char '\\', g.symbol] else [g.symbol])

/-- The outcome of a condition; nothing if it cannot be read. `isNegated` tells whether the opposite is
asked for. -/
def conditionHolds : Nat → (isNegated : Bool) → Condition → Run (Option Bool)
  | 0, _, _ => throw .exhausted
  | n + 1, isNegated, c => do
    match c with
    | .group c => conditionHolds n false c
    | .not c => return (← conditionHolds n (!isNegated) c).map (!·)
    | .and l r =>
      match ← conditionHolds n false l with
      | some true => conditionHolds n false r
      | o => return o
    | .or l r =>
      match ← conditionHolds n false l with
      | some false => conditionHolds n false r
      | o => return o
    | .unary op w =>
      let t ← oneText run w
      traceTest run isNegated fun _ => op ++ " " ++ shownOperand t
      match op with
      | [_, .char l] => return some (← unaryTest l t)
      | _ => return none
    | .binary l op r =>
      let a ← oneText run l
      let isEqual := op = ("=" : Text) || op = ("==" : Text)
      if isEqual || op = ("!=" : Text) || op = ("=~" : Text) then
        let gs ← glyphsOf run r
        traceTest run isNegated fun _ => shownOperand a ++ " " ++ op ++ " " ++ shownPattern gs
        if op = ("=~" : Text) then regexMatches a gs
        else return some (isEqual == (← patternMatches true a gs))
      else
        let b ← oneText run r
        traceTest run isNegated fun _ => shownOperand a ++ " " ++ op ++ " " ++ shownOperand b
        if op = ("<" : Text) then return some (textLess a b)
        else if op = (">" : Text) then return some (textLess b a)
        else if isNumberTest op then
          match ← calculated a with
          | .error f =>
            tellFault f "[["
            return some false
          | .ok x =>
            match ← calculated b with
            | .error f =>
              tellFault f "[["
              return some false
            | .ok y => return some (compareNumbers op x y)
        else return some (← compareFiles op a b)

end

/-- The status of a test. -/
def testStatus : Option Bool → Nat
  | some true => 0
  | some false => 1
  | none => 2

end Tangle.Shell.Run
