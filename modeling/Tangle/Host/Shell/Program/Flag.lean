import Tangle.Host.Shell.Lookup
import Tangle.Host.Shell.Field

/-! # The arguments of programs

A program knows flags by a letter, by a long name or by both. Its flags may stand anywhere among its
operands, up to the mark that ends them. A long name may be shortened as long as it stays clear which one
is meant. -/
namespace Tangle.Shell.Program
open Run

/-! Messages -/

/-- Writes a message of a program about something that failed. -/
def report (program message : Text) : Run Unit := do
  let _ ← write 2 (program ++ ": " ++ message ++ "\n")

/-- Ends the program. -/
def quit {α : Type} (status : Nat) : Run α := throw (.exit status)

/-- Ends the program with a message. -/
def die {α : Type} (program : Text) (status : Nat) (message : Text) : Run α := do
  report program message
  quit status

/-- Ends the program with a message, and says where its usage is told. -/
def misuse {α : Type} (program : Text) (status : Nat) (message : Text) : Run α := do
  report program message
  let _ ← write 2 ("Try '" ++ program ++ " --help' for more information.\n")
  quit status

/-- A text between curved quotation marks. -/
def curved (t : Text) : Text := "‘" ++ t ++ "’"

/-- A text that is split at its control characters, each part quoted in its own way. -/
def escapedQuotes (t : Text) : Text :=
  "'" ++ (t.flatMap fun s =>
    if s.is '\'' then "'\\''"
    else if isPrintableSymbol s then [s]
    else "'$'" ++ escaped s ++ "''") ++ "'"

/-- A text as one word of the shell, always between quotation marks. -/
def quoted (t : Text) : Text :=
  if t.any (·.is '\'') && t.all (fun s => isPrintableSymbol s && !s.isAnyOf "\"$\x60\\!") then "\"" ++ t ++ "\""
  else escapedQuotes t

/-- Whether a text can stand in a message without quotation marks. -/
def isPlainName (t : Text) : Bool :=
  !t.isEmpty && t.all (fun s => isPrintableSymbol s && !s.isAnyOf " !\"$&'()*;<=>[^\x60|\\?:") &&
    !t.head?.any (·.isAnyOf "#~")

/-- A file name in a message. -/
def shown (t : Text) : Text := if isPlainName t then t else quoted t

/-! Flags -/

/-- Whether a flag takes a value. -/
inductive Need where
  | nothing
  | required
  | optional
deriving DecidableEq, Repr

structure Flag where
  /-- The letter, or what the flag is known by if it has only a long name. -/
  key : Char
  name : String := ""
  need : Need := .nothing
  isLetter : Bool := true

/-- Flags of one letter and no long name. -/
def letters (cs : String) (need : Need := .nothing) : List Flag := cs.toList.map fun c => { key := c, need }

inductive FlagFault where
  | unknownLetter (s : Symbol)
  | unknownName (t : Text)
  | ambiguous (t : Text) (candidates : List String)
  | letterLacksValue (c : Char)
  | nameLacksValue (name : String)
  | unwantedValue (name : String)

def FlagFault.message : FlagFault → Text
  | unknownLetter s => "invalid option -- '" ++ ([s] : Text) ++ "'"
  | unknownName t => "unrecognized option '--" ++ t ++ "'"
  | ambiguous t candidates => "option '--" ++ t ++ "' is ambiguous; possibilities:" ++
      (candidates.flatMap fun (c : String) => (" '--" ++ (c : Text) ++ "'" : Text))
  | letterLacksValue c => "option requires an argument -- '" ++ ([.char c] : Text) ++ "'"
  | nameLacksValue name => "option '--" ++ (name : Text) ++ "' requires an argument"
  | unwantedValue name => "option '--" ++ (name : Text) ++ "' doesn't allow an argument"

/-- The flags of a cluster of letters, and the flag that the next argument is the value of. -/
def readLetters (fs : List Flag) : Text → Except FlagFault (Chosen × Option Flag)
  | [] => .ok ([], none)
  | s :: t =>
    match fs.find? fun f => f.isLetter && s.is f.key with
    | none => .error (.unknownLetter s)
    | some f =>
      match f.need with
      | .nothing => do
        let (cs, pending) ← readLetters fs t
        return ((f.key, []) :: cs, pending)
      | .required => if t.isEmpty then .ok ([], some f) else .ok ([(f.key, t)], none)
      | .optional => .ok ([(f.key, t)], none)

/-- The flag that a long name means. -/
def named (fs : List Flag) (t : Text) : Except FlagFault Flag :=
  match fs.find? fun f => f.name ≠ "" && (f.name : Text) = t with
  | some f => .ok f
  | none =>
    match fs.filter fun f => f.name ≠ "" && t.isPrefixOf (f.name : Text) with
    | [] => .error (.unknownName t)
    | f :: others =>
      if others.all fun g => g.key = f.key then .ok f
      else .error (.ambiguous t ((f :: others).map (·.name)))

def readName (fs : List Flag) (t : Text) : Except FlagFault (Chosen × Option Flag) := do
  let head := t.takeWhile (!·.is '=')
  match named fs head with
  | .error (.unknownName _) => .error (.unknownName t)
  | .error e => .error e
  | .ok f =>
    match t.drop head.length, f.need with
    | [], .required => return ([], some f)
    | [], _ => return ([(f.key, [])], none)
    | _, .nothing => .error (.unwantedValue f.name)
    | _ :: v, _ => return ([(f.key, v)], none)

/-- The flags and the operands among arguments. `inOrder` tells whether the first operand ends the flags. -/
def readFlags (fs : List Flag) (inOrder : Bool) : Option Flag → List Text → Except FlagFault (Chosen × List Text)
  | some f, v :: rest => do
    let (cs, operands) ← readFlags fs inOrder none rest
    return ((f.key, v) :: cs, operands)
  | some f, [] => .error (if f.isLetter && f.name = "" then .letterLacksValue f.key else .nameLacksValue f.name)
  | none, [] => .ok ([], [])
  | none, a :: rest =>
    match a with
    | .char '-' :: .char '-' :: t =>
      if t.isEmpty then .ok ([], rest)
      else do
        let (found, pending) ← readName fs t
        let (cs, operands) ← readFlags fs inOrder pending rest
        return (found ++ cs, operands)
    | .char '-' :: s :: t =>
      match readLetters fs (s :: t) with
      | .error e => .error e
      | .ok (found, pending) =>
        match pending, rest with
        | some f, [] => .error (.letterLacksValue f.key)
        | _, _ => do
          let (cs, operands) ← readFlags fs inOrder pending rest
          return (found ++ cs, operands)
    | _ =>
      if inOrder then .ok ([], a :: rest)
      else do
        let (cs, operands) ← readFlags fs inOrder none rest
        return (cs, a :: operands)

/-- The key of the flag that asks for the version. -/
def versionKey : Char := '\x01'

/-- Reads the arguments of a program, which ends with a status if they are at fault. -/
def readArguments (program : Text) (status : Nat) (inOrder : Bool) (fs : List Flag) (args : List Text)
    (next : Chosen → List Text → Run Nat) : Run Nat := do
  let fs := fs ++ [{ key := versionKey, name := "version", isLetter := false }]
  match readFlags fs (inOrder || (← isOn "posix")) none args with
  | .error f => misuse program status f.message
  | .ok (cs, operands) =>
    if hasOption versionKey cs then say (program ++ " (GNU coreutils) 9.1\n")
    else next cs operands

/-- Goes on with the flags and operands of a program. -/
def withFlags (program : Text) (status : Nat) (fs : List Flag) (args : List Text)
    (next : Chosen → List Text → Run Nat) : Run Nat :=
  readArguments program status false fs args next

/-- Goes on with the flags of a program, which end at the first operand, and what follows them. -/
def withFlagsFirst (program : Text) (status : Nat) (fs : List Flag) (args : List Text)
    (next : Chosen → List Text → Run Nat) : Run Nat :=
  readArguments program status true fs args next

/-- The values of a flag that may be given several times. -/
def optionValues (c : Char) (cs : Chosen) : List Text := (cs.filter (·.1 = c)).map (·.2)

/-- Complains about operands: there must be so many at least, and so many at most. -/
def needOperands (program : Text) (least : Nat) (most : Option Nat) (operands : List Text) (status : Nat := 1) :
    Run Unit := do
  if operands.length < least then
    match operands.getLast? with
    | none => misuse program status "missing operand"
    | some t => misuse program status ("missing operand after " ++ curved t)
  match most with
  | some n =>
    match operands[n]? with
    | some t => misuse program status ("extra operand " ++ curved t)
    | none => pure ()
  | none => pure ()

def statusOf (ok : Bool) : Nat := if ok then 0 else 1

/-! Numbers with suffixes -/

/-- The factors that letters stand for behind a number: powers of 1024, and of 1000 before a `B`. -/
def factorOf? (t : Text) : Option Nat :=
  let power (s : Symbol) : Option Nat := match s with
    | .char 'k' => some 1
    | .char 'K' => some 1
    | .char 'M' => some 2
    | .char 'm' => some 2
    | .char 'G' => some 3
    | .char 'T' => some 4
    | .char 'P' => some 5
    | .char 'E' => some 6
    | .char 'Z' => some 7
    | .char 'Y' => some 8
    | _ => none
  match t with
  | [] => some 1
  | [.char 'b'] => some 512
  | [.char 'c'] => some 1
  | [.char 'w'] => some 2
  | [s] => (power s).map (1024 ^ ·)
  | [s, .char 'B'] => (power s).map (1000 ^ ·)
  | [s, .char 'i', .char 'B'] => (power s).map (1024 ^ ·)
  | _ => none

/-- A number with a factor behind it. -/
def sized? (t : Text) : Option Nat :=
  let t := match t with
    | .char '+' :: r => r
    | t => t
  let ds := t.takeWhile Symbol.isDigit
  match factorOf? (t.drop ds.length) with
  | some f => if ds.isEmpty then (if f = 1 || t.length = 0 then none else some f) else some (naturalOf ds * f)
  | none => none

/-- A decimal number that is nothing else. -/
def natural? (t : Text) : Option Nat := if !t.isEmpty && t.all Symbol.isDigit then some (naturalOf t) else none

end Tangle.Shell.Program
