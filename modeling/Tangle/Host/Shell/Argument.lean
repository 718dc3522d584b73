import Tangle.Host.Shell.Parameter
import Tangle.Host.Shell.Format

/-! # Arguments of commands

How a list of arguments is divided into options of one letter, their values, and the rest. -/
namespace Tangle.Shell.Run

/-- What is wrong with the options of a command. -/
inductive OptionFault where
  | unknown (s : Symbol)
  | noValue (c : Char)
deriving DecidableEq, Repr

/-- Options by their letters, each with the value of one that takes a value. -/
abbrev Chosen := List (Char × Text)

/-- Options read from the front of a list of arguments, and the rest. -/
def options (plain valued : String) : Nat → List Text → Except OptionFault (Chosen × List Text)
  | 0, ts => .ok ([], ts)
  | n + 1, ts =>
    match ts with
    | (.char '-' :: s :: t) :: rest =>
      if s.is '-' && t.isEmpty then .ok ([], rest) else letters n (s :: t) rest
    | ts => .ok ([], ts)
where
  letters (n : Nat) : Text → List Text → Except OptionFault (Chosen × List Text)
    | [], rest => options plain valued n rest
    | .byte b :: _, _ => .error (.unknown (.byte b))
    | .lone s :: _, _ => .error (.unknown (.lone s))
    | .char c :: t, rest =>
      if valued.contains c then
        match t, rest with
        | [], v :: rest => (options plain valued n rest).map fun (os, r) => ((c, v) :: os, r)
        | [], [] => .error (.noValue c)
        | t, rest => (options plain valued n rest).map fun (os, r) => ((c, t) :: os, r)
      else if plain.contains c then (letters n t rest).map fun (os, r) => ((c, []) :: os, r)
      else .error (.unknown (.char c))

def optionsOrFault (plain valued : String) (ts : List Text) : Except OptionFault (Chosen × List Text) :=
  options plain valued (ts.length + 1) ts

/-- The options of a command, which must all be known. -/
def optionsOf (plain valued : String) (ts : List Text) : Option (Chosen × List Text) :=
  (optionsOrFault plain valued ts).toOption

def hasOption (c : Char) (os : Chosen) : Bool := os.any (·.1 = c)

def optionValue? (c : Char) (os : Chosen) : Option Text := (os.reverse.find? (·.1 = c)).map (·.2)

/-- The last of some options that exclude one another. -/
def lastOf (set : String) (os : Chosen) : Option Char := (os.reverse.find? fun o => set.contains o.1).map (·.1)

/-- The number that a text spells in decimal; what is no number is zero. -/
def naturalOf (t : Text) : Nat :=
  (t.takeWhile Symbol.isDigit).foldl (fun n d => n * 10 + (Escape.digitValue d).getD 0) 0

/-- The number that a text spells in decimal, with a sign and blanks around it. -/
def integerOf? (t : Text) : Option Int :=
  let t := Text.trimBy (fun s => s.isAnyOf " \t\n\x0b\x0c\r") t
  let (isNegative, ds) : Bool × Text := match t with
    | .char '-' :: ds => (true, ds)
    | .char '+' :: ds => (false, ds)
    | ds => (false, ds)
  if ds.isEmpty || !ds.all Symbol.isDigit then none
  else
    let n : Int := naturalOf ds
    let n := if isNegative then -n else n
    if -(2 ^ 63 : Int) ≤ n ∧ n < 2 ^ 63 then some n else none

/-- Without a mark that ends the options. -/
def withoutMark : List Text → List Text
  | t :: rest => if t = ("--" : Text) then rest else t :: rest
  | [] => []

/-- Does something for every text; the status is that of the last failure. -/
def eachText (ts : List Text) (f : Text → Run Nat) : Run Nat :=
  ts.foldlM (fun status t => do
    let n ← f t
    return if n = 0 then status else n) 0

end Tangle.Shell.Run
