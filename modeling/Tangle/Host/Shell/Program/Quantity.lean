import Tangle.Host.Shell.Program.Columns
import Tangle.Host.Number.Prime

/-! # Quantities

The programs that take numbers apart into primes and write them with the letters that stand for powers. -/
namespace Tangle.Shell.Program
open Run

/-! Factors -/

/-- The line for a number; nothing if a text is no number. -/
def factorLine? (t : Text) : Option Text :=
  let ds := match t with
    | .char '+' :: ds => ds
    | ds => ds
  (natural? ds).map fun n => Text.ofNat n ++ ":" ++ (Prime.factors n).flatMap fun p => (" " ++ Text.ofNat p : Text)

def factorAll (ts : List Text) : Run Bool := do
  let oks ← ts.mapM fun t => do
    match factorLine? (Text.trimBy Extended.isSpacing t) with
    | some line =>
      put "factor" (line ++ "\n")
      return true
    | none =>
      report "factor" (curved t ++ " is not a valid positive integer")
      return false
  return oks.all id

def factor (args : List Text) : Run Nat := withFlags "factor" 1 [] args fun _ operands => do
  if !operands.isEmpty then return statusOf (← factorAll operands)
  match ← contentOf? "factor" "-" with
  | none => return 1
  | some bs => return statusOf (← factorAll (Text.wordsBy Extended.isSpacing (Text.decode bs)))

/-! Numbers with letters -/

/-- Which letters stand for which powers. -/
inductive Scale where
  | none
  | auto
  | decimal
  | binary
  | marked
deriving DecidableEq

def Scale.base : Scale → Nat
  | .binary => 1024
  | .marked => 1024
  | _ => 1000

def scaleNames : List (String × Scale) :=
  [("none", .none), ("auto", .auto), ("si", .decimal), ("iec", .binary), ("iec-i", .marked)]

def scaleLetters : List Char := "KMGTPEZY".toList

inductive Rounding where
  | up
  | down
  | fromZero
  | towardsZero
  | nearest
deriving DecidableEq

def roundingNames : List (String × Rounding) :=
  [("up", .up), ("down", .down), ("from-zero", .fromZero), ("towards-zero", .towardsZero), ("nearest", .nearest)]

/-- A number that is rounded to a whole one. -/
def Rounding.apply (r : Rounding) (isNegative : Bool) (num den : Nat) : Nat :=
  let up := (num + den - 1) / den
  let down := num / den
  match r with
  | .up => if isNegative then down else up
  | .down => if isNegative then up else down
  | .fromZero => up
  | .towardsZero => down
  | .nearest => (2 * num + den) / (2 * den)

/-- How numbers are read and written. -/
structure Conversion where
  from_ : Scale := .none
  into : Scale := .none
  fromUnit : Nat := 1
  toUnit : Nat := 1
  rounding : Rounding := .fromZero
  suffix : Text := []
  padding : Int := 0
  zeroWidth : Nat := 0
  precision : Option Nat := none
  head : Text := []
  tail : Text := []
  delimiter : Option Symbol := none
  fields : List Range := [(1, some 1)]

/-- A number with a sign, as a fraction, and the decimal places that it was written with. -/
structure Quantity where
  isNegative : Bool
  num : Nat
  den : Nat
  places : Nat

/-- What is wrong with the text of a number. -/
inductive QuantityFault where
  | notNumber
  | forbidden
  | suffix
  | trailing (rest : Text)
  | lacksMark

def QuantityFault.message (t : Text) : QuantityFault → Text
  | notNumber => "invalid number: " ++ curved t
  | forbidden => "rejecting suffix in input: " ++ curved t ++ " (consider using --from)"
  | suffix => "invalid suffix in input: " ++ curved t
  | trailing rest => "invalid suffix in input " ++ curved t ++ ": " ++ curved rest
  | lacksMark => "missing 'i' suffix in input: " ++ curved t ++ " (e.g Ki/Mi/Gi)"

def isBlankSymbol (s : Symbol) : Bool := s.isAnyOf " \t"

/-- Reads a number with a letter behind it. -/
def readQuantity (c : Conversion) (t : Text) : Except QuantityFault Quantity := do
  let (isNegative, r) : Bool × Text := match t with
    | .char '-' :: r => (true, r)
    | r => (false, r)
  let whole := r.takeWhile Symbol.isDigit
  let r := r.drop whole.length
  let (fraction, r) : Text × Text := match r with
    | .char '.' :: f => (f.takeWhile Symbol.isDigit, f.dropWhile Symbol.isDigit)
    | r => ([], r)
  if whole.isEmpty && fraction.isEmpty then throw .notNumber
  let num := naturalOf (whole ++ fraction)
  let den := 10 ^ fraction.length
  let plain : Quantity := { isNegative, num, den, places := fraction.length }
  let lacksMark (r : Text) : Except QuantityFault Text := match r with
    | .char 'i' :: r => .ok r
    | _ => .error .lacksMark
  if r.isEmpty then
    if c.from_ = .marked then throw .lacksMark
    return plain
  match r.dropWhile isBlankSymbol with
  | .char l :: r =>
    match scaleLetters.idxOf? l with
    | none => throw .suffix
    | some i =>
      if c.from_ = .none then throw .forbidden
      let (base, r) : Nat × Text := match c.from_, r with
        | .auto, .char 'i' :: r => (1024, r)
        | s, r => (s.base, r)
      let r ← if c.from_ = .marked then lacksMark r else pure r
      if !r.isEmpty then throw (.trailing r)
      return { plain with num := num * base ^ (i + 1), places := 0 }
  | _ => throw .suffix

/-- The power of a base that a number is divided by to be less than the base. -/
def powerOf (base : Nat) : Nat → (num den : Nat) → Nat
  | 0, _, _ => 0
  | n + 1, num, den => if num < base * den then 0 else powerOf base n num (den * base) + 1

def Conversion.digits (c : Conversion) (q : Quantity) : Text :=
  let sign : Text := if q.isNegative then "-" else ""
  let zeros (t : Text) : Text := List.replicate (c.zeroWidth - sign.length - t.length) (.char '0') ++ t
  match c.into with
  | .none =>
    let places := c.precision.getD q.places
    let n := c.rounding.apply q.isNegative (q.num * 10 ^ places) q.den
    let sign : Text := if n = 0 then "" else sign
    sign ++ zeros (Extended.fixed n (10 ^ places) places)
  | s =>
    let power := powerOf s.base 8 q.num q.den
    let den := q.den * s.base ^ power
    let places := match c.precision with
      | some p => min (power * 3) p
      | none => if q.num < 10 * den then 1 else 0
    let n := c.rounding.apply q.isNegative (q.num * 10 ^ places) den
    let (num, den, power) : Nat × Nat × Nat :=
      if s.base * 10 ^ places ≤ n then (n, s.base * 10 ^ places, power + 1) else (n, 10 ^ places, power)
    let shown := c.precision.getD (if num ≠ 0 ∧ num < 10 * den ∧ 0 < power then 1 else 0)
    let letter : Text := if power = 0 then "" else [.char (scaleLetters.getD (power - 1) 'Y')]
    sign ++ zeros (Extended.fixed num den shown) ++ letter ++ (if s = .marked && 0 < power then "i" else "")

/-- A field as it is written. -/
def Conversion.field (c : Conversion) (index : Nat) (t : Text) : Except (Text × Text) Text :=
  let body : Text := if !c.suffix.isEmpty && c.suffix.length < t.length && t.endsWith c.suffix
    then t.take (t.length - c.suffix.length) else t
  let bare := body.dropWhile isBlankSymbol
  let padding : Int := if c.padding = 0 && c.delimiter.isNone && (bare.length < body.length || 1 < index)
    then body.length else c.padding
  match readQuantity c bare with
  | .error f => .error (f.message bare, t)
  | .ok q =>
    let shown := c.digits { q with num := q.num * c.fromUnit, den := q.den * c.toUnit } ++ c.suffix
    let padded := if padding < 0 then Text.padEnd padding.natAbs shown else Text.padStart padding.natAbs shown
    .ok (c.head ++ padded ++ c.tail)

/-- The fields of a line; blanks before a field belong to it if no delimiter is set. -/
def Conversion.split (c : Conversion) (line : Text) : List Text :=
  match c.delimiter with
  | some d => Text.pieces d line
  | none => go line.length line
where
  go : Nat → Text → List Text
    | 0, t => [t]
    | n + 1, t =>
      let blanks := t.takeWhile isBlankSymbol
      let word := (t.drop blanks.length).takeWhile (!isBlankSymbol ·)
      let field := blanks ++ word
      match t.drop field.length with
      | [] => [field]
      | _ :: rest => field :: go n rest

/-- A line as it is written, and what is wrong with its fields. -/
def Conversion.line (c : Conversion) (t : Text) : Text × List Text :=
  let fields := (c.split t).zipIdx.map fun (f, i) =>
    if isInRanges c.fields (i + 1) then
      match c.field (i + 1) f with
      | .ok t => (t, none)
      | .error (message, t) => (t, some message)
    else (f, none)
  (Text.join [c.delimiter.getD (.char ' ')] (fields.map (·.1)), fields.filterMap (·.2))

/-- The format for numbers: what stands around the directive, its width and its precision. -/
def Conversion.formatted (c : Conversion) (t : Text) : Except Text Conversion := do
  let (head, r) := (t.takeWhile (!·.is '%'), t.dropWhile (!·.is '%'))
  match r with
  | [] => throw ("format " ++ curved t ++ " has no % directive")
  | _ :: r =>
    let flags := r.takeWhile (·.isAnyOf " '0")
    let r := r.drop flags.length
    let (isLeft, r) : Bool × Text := match r with
      | .char '-' :: r => (true, r)
      | r => (false, r)
    let width := naturalOf r
    let r := r.dropWhile Symbol.isDigit
    let (precision, r) : Option Nat × Text := match r with
      | .char '.' :: r => (some (naturalOf r), r.dropWhile Symbol.isDigit)
      | r => (none, r)
    match r with
    | .char 'f' :: tail =>
      let fillsZeros := flags.any (·.is '0') && !isLeft
      return { c with
        head, tail, precision
        zeroWidth := if fillsZeros then width else 0
        padding := if width = 0 || fillsZeros then c.padding else if isLeft then -(width : Int) else width }
    | [] => throw ("format " ++ curved t ++ " ends in %")
    | _ => throw ("invalid format " ++ curved t ++ ", directive must be %[0]['][-][N][.][N]f")

/-- What a name stands for; the program ends over one that is not known. -/
def chosenName {α : Type} (program : Text) (flag : String) (names : List (String × α)) (standard : α) (t : Option Text) :
    Run α := do
  match t with
  | none => return standard
  | some t =>
    match (names.find? fun e => t = (e.1 : Text)).or (names.find? fun e => !t.isEmpty && t.isPrefixOf (e.1 : Text)) with
    | some e => return e.2
    | none =>
      report program ("invalid argument " ++ curved t ++ " for " ++ curved flag)
      let _ ← write 2 ("Valid arguments are:\n" ++ names.flatMap fun e => ("  - " ++ curved e.1 ++ "\n" : Text))
      misuseQuietly program
where
  misuseQuietly (program : Text) : Run α := do
    let _ ← write 2 ("Try '" ++ program ++ " --help' for more information.\n")
    quit 1

def unitSize (t : Option Text) : Run Nat := do
  match t with
  | none => return 1
  | some t =>
    let ds := t.takeWhile Symbol.isDigit
    let factor := match t.drop ds.length with
      | [] => some 1
      | .char l :: r => (scaleLetters.idxOf? l).bind fun i =>
        if r.isEmpty then some (1000 ^ (i + 1)) else if r = ("i" : Text) then some (1024 ^ (i + 1)) else none
      | _ => none
    match factor with
    | some f =>
      let n := (if ds.isEmpty then 1 else naturalOf ds) * f
      if n = 0 || t.isEmpty then die "numfmt" 1 ("invalid unit size: " ++ curved t) else return n
    | none => die "numfmt" 1 ("invalid unit size: " ++ curved t)

def numfmt (args : List Text) : Run Nat := do
  let long (key : Char) (name : String) : Flag := { key, name, need := .required, isLetter := false }
  let fs : List Flag := [
    long 'f' "from", long 't' "to", long '\x02' "from-unit", long '\x03' "to-unit", long '\x04' "round",
    long '\x05' "padding", long '\x06' "suffix", long '\x07' "field", long '\x08' "invalid", long '\x0b' "format",
    { key := '\x0c', name := "header", need := .optional, isLetter := false },
    { key := '\x0e', name := "grouping", isLetter := false }, { key := '\x0f', name := "debug", isLetter := false },
    { key := 'd', name := "delimiter", need := .required }, { key := 'z', name := "zero-terminated" }]
  withFlags "numfmt" 1 fs args fun cs operands => do
    let value (key : Char) : Option Text := optionValue? key cs
    let c : Conversion := {
      from_ := ← chosenName "numfmt" "--from" scaleNames .none (value 'f')
      into := ← chosenName "numfmt" "--to" (scaleNames.filter (·.1 ≠ "auto")) .none (value 't')
      fromUnit := ← unitSize (value '\x02')
      toUnit := ← unitSize (value '\x03')
      rounding := ← chosenName "numfmt" "--round" roundingNames .fromZero (value '\x04')
      suffix := (value '\x06').getD []
      delimiter := (value 'd').bind (·.head?)
      padding := ((value '\x05').bind integerOf?).getD 0 }
    match value '\x05' with
    | some t => if (integerOf? t).getD 0 = 0 then die "numfmt" 1 ("invalid padding value " ++ curved t)
    | none => pure ()
    let c ← match value '\x07' with
      | none => pure c
      | some t =>
        if t = ("-" : Text) then pure { c with fields := [(1, none)] }
        else
          match (Text.piecesBy (·.isAnyOf ", ") t).mapM (rangeOf true) with
          | .ok fields => pure { c with fields }
          | .error e => die "numfmt" 1 e
    let c ← match value '\x0b' with
      | none => pure c
      | some t =>
        match c.formatted t with
        | .ok c => pure c
        | .error e => die "numfmt" 1 e
    let mode := (value '\x08').getD "abort"
    let isZero := hasOption 'z' cs
    let header := match value '\x0c' with
      | none => 0
      | some t => if t.isEmpty then 1 else naturalOf t
    let (lines, ok) ← if operands.isEmpty then allLines "numfmt" isZero [] else pure (operands, true)
    let oks ← lines.zipIdx.mapM fun (l, i) => do
      if operands.isEmpty && i < header then
        putBytes "numfmt" (withEnds isZero [l])
        return true
      let (t, faults) := c.line l
      if mode = ("abort" : Text) then
        match faults with
        | f :: _ => die "numfmt" 2 f
        | [] => pure ()
      if mode ≠ ("ignore" : Text) then
        for f in faults do report "numfmt" f
      putBytes "numfmt" (withEnds isZero [t])
      return faults.isEmpty
    return if (oks.all id || mode = ("warn" : Text) || mode = ("ignore" : Text)) && ok then 0 else 2

end Tangle.Shell.Program
