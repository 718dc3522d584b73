import Tangle.Host.Shell.Builtin.Usage
import Tangle.Host.Shell.Format

/-! # Writing output

The commands `echo` and `printf`. -/
namespace Tangle.Shell.Builtin
open Run

/-- The options at the start of the arguments of `echo`, and the rest. -/
def echoOptions : List Text → (newline escapes : Bool) → Bool × Bool × List Text
  | (.char '-' :: s :: t) :: rest, newline, escapes =>
    if (s :: t).all (·.isAnyOf "neE") then
      let set := (s :: t).foldl (fun (o : Bool × Bool) s =>
        if s.is 'n' then (false, o.2) else if s.is 'e' then (o.1, true) else (o.1, false)) (newline, escapes)
      echoOptions rest set.1 set.2
    else (newline, escapes, (.char '-' :: s :: t) :: rest)
  | rest, newline, escapes => (newline, escapes, rest)

def echo (args : List Text) : Run Nat := do
  let (newline, escapes, ts) := echoOptions args true (← isExtended "xpg_echo")
  let t := Text.join " " ts
  let (t, stopped) := if escapes then Escape.run .echo t else (t, false)
  sayAs "echo" (t ++ (if newline && !stopped then "\n" else ""))

/-- What a format may ask about time. -/
def moments : Run Format.Moments := do
  let now : Int := ((← world).clock / 1000000 : Nat)
  let zone := match (← binding? "TZ").bind Variable.plain? with
    | some t => Civil.Zone.read t
    | none => {}
  return { now, started := (← process).started / 1000000, zone }

/-- Writes what a format comes to, into a variable if one is named. -/
def printf (args : List Text) : Run Nat := withOptions "printf" "" "v" args fun os args => do
  match args with
  | [] => showUsage "printf"
  | format :: rest =>
    let target? := optionValue? 'v' os
    match target? with
    | some name =>
      let (base, index) := splitIndex name
      if !isName base || (name.any (·.is '[') && index.isNone) then
        tell "printf" ("\x60" ++ name ++ "': not a valid identifier")
        return 2
    | none => pure ()
    let w := Format.run (← moments) format rest
    for c in w.complaints do tell "printf" c
    let counted ← w.counts.mapM fun (name, n) => do
      if isName name then assignTo name (Text.ofNat n)
      else
        tell "printf" ("\x60" ++ name ++ "': not a valid identifier")
        return false
    let status ← match target? with
      | some name => do return if ← assignTo name (w.text.normal.takeWhile (· ≠ Symbol.nul)) then 0 else 1
      | none => sayAs "printf" w.text
    return if w.isSound && counted.all id then status else 1

end Tangle.Shell.Builtin
