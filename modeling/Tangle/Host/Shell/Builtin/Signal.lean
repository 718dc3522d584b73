import Tangle.Host.Shell.Builtin.Usage

/-! # Signals and traps

The names of signals and of the other occasions for which an action can be set, and the command `trap`. -/
namespace Tangle.Shell.Builtin
open Run

/-- The occasions for traps by their numbers: the end of the shell, the signals, and those of its
commands. -/
def occasions : List (Text × Nat) :=
  (("EXIT" : Text), 0) :: signals.map (fun s => (Text.ofString s.1, s.2)) ++
    [(("DEBUG" : Text), 65), (("ERR" : Text), 66), (("RETURN" : Text), 67)]

def isSignal (name : Text) : Bool := signals.any fun s => name = (s.1 : Text)

/-- The occasion that a number or a name stands for; a signal may have `SIG` before its name. -/
def occasion? (t : Text) : Option (Text × Nat) :=
  match integerOf? t with
  | some n => if 0 ≤ n ∧ n < 65 then occasions.find? fun o => (o.2 : Int) = n else none
  | none =>
    let t : Text := t.map Symbol.toUpper
    match occasions.find? fun o => o.1 = t with
    | some o => some o
    | none => (Text.after? t "SIG").bind fun name => occasions.find? fun o => o.1 = name && isSignal o.1

def occasionText (name : Text) : Text := if isSignal name then "SIG" ++ name else name

def invalidSignal (command t : Text) : Run Nat := fault command (t ++ ": invalid signal specification")

/-- The signals with their numbers, five to a line. -/
def signalTable : Text :=
  let entries := signals.zipIdx.map fun (s, i) =>
    let head : Text := if s.2 < 10 then " " else ""
    let tail : Text := if i % 5 = 4 then "\n" else "\t"
    head ++ Text.ofNat s.2 ++ (") SIG" : Text) ++ Text.ofString s.1 ++ tail
  entries.flatten ++ (if signals.length % 5 = 0 then ([] : Text) else "\n")

/-! Traps -/

def trapLine (isStrict : Bool) (name action : Text) : Text :=
  "trap -- " ++ apostrophed action ++ " " ++ (if isStrict then name else occasionText name) ++ "\n"

/-- The traps that are shown: a subshell shows those of its parent until it sets one itself. -/
def shownTraps : Run (Table Text) := do
  let p ← process
  return p.shownTraps.getD p.traps

def listTraps : Run Nat := do
  let traps ← shownTraps
  let isStrict ← isOn "posix"
  say (occasions.flatMap fun o => (traps.get? o.1).elim [] (trapLine isStrict o.1))

def listTrap (t : Text) : Run Nat := do
  match occasion? t with
  | none => invalidSignal "trap" t
  | some o => say (((← shownTraps).get? o.1).elim [] (trapLine (← isOn "posix") o.1))

def setTrap (action : Option Text) (t : Text) : Run Nat := do
  match occasion? t with
  | none => invalidSignal "trap" t
  | some (name, _) =>
    modifyProcess fun p => { p with traps := match action with
      | some a => p.traps.set name a
      | none => p.traps.erase name }
    return 0

def trap (args : List Text) : Run Nat := withOptions "trap" "lp" "" args fun os rest => do
  if hasOption 'l' os then say signalTable
  else if hasOption 'p' os || rest.isEmpty then
    if rest.isEmpty then listTraps else eachText rest listTrap
  else
    let setAll (action : Option Text) (ts : List Text) : Run Nat := do
      modifyProcess fun p => { p with shownTraps := none }
      eachText ts (setTrap action)
    match rest with
    | [] => return 0
    | [t] =>
      if t ≠ ("-" : Text) && (occasion? t).isSome then setAll none [t] else showUsage "trap"
    | t :: ts =>
      if !t.isEmpty && t.all Symbol.isDigit && (occasion? t).isSome then setAll none (t :: ts)
      else if t = ("-" : Text) then setAll none ts
      else setAll (some t) ts

end Tangle.Shell.Builtin
