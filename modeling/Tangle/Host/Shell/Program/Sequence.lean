import Tangle.Host.Shell.Program.Source
import Tangle.Host.Shell.Format

/-! # Sequences of numbers

The program that counts from one number to another in steps. The numbers are exact; how many decimal places
are shown depends on how the first one and the step are written. -/
namespace Tangle.Shell.Program
open Run

/-- A number among the arguments, with the width and the decimal places of the way in which it is written. -/
structure Bound where
  value : Extended
  width : Int := 0
  places : Option Nat := none

/-- How wide a number is written, and how many decimal places it has. -/
def writtenWidth (t : Text) : Int × Nat :=
  let (mantissa, power) := t.span fun s => !s.isAnyOf "eE"
  let whole := mantissa.takeWhile (!·.is '.')
  let fraction : Option Text := (mantissa.drop whole.length).tail?
  let places := (fraction.getD []).length
  let width : Int := mantissa.length + (match fraction with
    | none => 0
    | some [] => -1
    | some _ => if whole.getLast?.any Symbol.isDigit then 0 else 1)
  match power with
  | [] => (width, places)
  | _ :: e =>
    let (isDown, ds) : Bool × Text := match e with
      | .char '-' :: ds => (true, ds)
      | .char '+' :: ds => (false, ds)
      | ds => (false, ds)
    let n := naturalOf (ds.takeWhile Symbol.isDigit)
    if isDown then
      let undone : Int := match fraction with
        | none => 1
        | some [] => 1
        | some _ => 0
      (width + undone + n, places + n)
    else (width + n, places - n)

def boundOf? (t : Text) : Option Bound :=
  match Extended.read? t with
  | some (x, []) =>
    let t := t.dropWhile fun s => Extended.isSpacing s || s.is '+'
    let value := x.narrowed
    match x with
    | .finite .. =>
      if t.any (·.isAnyOf "xX") then
        some { value, places := if t.any (·.isAnyOf ".p") then none else some 0 }
      else
        let (width, places) := writtenWidth t
        some { value := x, width, places := some places }
    | _ => some { value, places := some 0 }
  | _ => none

/-- A number among the arguments; the program ends if there is none. -/
def readBound (t : Text) : Run Bound := do
  match boundOf? t with
  | some b =>
    match b.value with
    | .undefined _ => misuse "seq" 1 ("invalid " ++ curved "not-a-number" ++ " argument: " ++ curved t)
    | _ => return b
  | none => misuse "seq" 1 ("invalid floating point argument: " ++ curved t)

/-! Formats -/

/-- The text around a single directive, and the directive. -/
structure NumberFormat where
  head : Text := []
  directive : Format.Directive := {}
  tail : Text := []

def NumberFormat.text (f : NumberFormat) (x : Extended) : Text :=
  f.head ++ Format.realNumber f.directive x ++ f.tail

/-- Text up to a directive, in which a doubled sign stands for itself, and what follows. -/
def plainPart : Nat → Text → Text × Text
  | 0, t => ([], t)
  | _, [] => ([], [])
  | n + 1, .char '%' :: .char '%' :: t => let (u, r) := plainPart n t; (.char '%' :: u, r)
  | n + 1, s :: t => if s.is '%' then ([], s :: t) else let (u, r) := plainPart n t; (s :: u, r)

def numberFormat? (t : Text) : Except Text NumberFormat :=
  let (head, r) := plainPart t.length t
  match r with
  | [] => .error ("format " ++ curved t ++ " has no % directive")
  | _ :: r =>
    let marks := r.takeWhile (·.isAnyOf "-+#0 '")
    let r := r.drop marks.length
    let width := r.takeWhile Symbol.isDigit
    let r := r.drop width.length
    let (precision, r) : Option Nat × Text := match r with
      | .char '.' :: r =>
        let ds := r.takeWhile Symbol.isDigit
        (some (naturalOf ds), r.drop ds.length)
      | r => (none, r)
    let r := match r with
      | .char 'L' :: r => r
      | r => r
    match r with
    | [] => .error ("format " ++ curved t ++ " ends in %")
    | s :: r =>
      if !s.isAnyOf "efgaEFGA" then
        .error ("format " ++ curved t ++ " has unknown %" ++ ([s] : Text) ++ " directive")
      else
        let (tail, r) := plainPart r.length r
        if !r.isEmpty then .error ("format " ++ curved t ++ " has too many % directives")
        else
          let (d, _) := Format.flagged marks.length marks {}
          .ok { head, tail, directive := { d with
            width := naturalOf width, precision
            letter := match s with
              | .char c => c
              | _ => 'f' } }

/-- The format for numbers that are written in a certain way. -/
def usualFormat (isEven : Bool) (first step last : Bound) : NumberFormat :=
  match first.places, step.places, last.places with
  | some a, some s, some b =>
    let places := max a s
    let widthOf (w : Int) (own : Nat) : Int :=
      w + ((places : Int) - own) + (if own = 0 && 0 < places then 1 else if 0 < own && places = 0 then -1 else 0)
    let width := if isEven then (max (widthOf first.width a) (widthOf last.width b)).toNat else 0
    { directive := { letter := 'f', precision := some places, fillsZeros := isEven, width } }
  | _, _, _ => { directive := { letter := 'g' } }

/-! Counting -/

/-- A sequence: the numbers are fractions of one denominator. -/
structure Progression where
  denominator : Nat
  first : Int
  step : Int
  /-- Nothing if it never ends. -/
  last : Option Int

def numerators : Extended → Int × Nat
  | .finite isNegative num den => (if isNegative then -(num : Int) else num, den)
  | _ => (0, 1)

def Progression.of (first step last : Extended) : Progression :=
  let (a, d) := numerators first
  let (s, e) := numerators step
  let (b, f) := numerators last
  let den := Nat.lcm d (Nat.lcm e f)
  let spread (n : Int) (k : Nat) : Int := n * (den / k : Nat)
  let step := spread s e
  { denominator := den, first := spread a d, step
    last := match last with
      | .finite .. => some (spread b f)
      | x => if x.isNegative = (step < 0) then none else some (spread a d - step) }

def Progression.value (p : Progression) (i : Nat) : Extended :=
  let n := p.first + i * p.step
  .finite (n < 0) n.natAbs p.denominator

/-- Whether a number of the sequence lies behind its end. -/
def Progression.isPast (p : Progression) (i : Nat) : Bool :=
  let n := p.first + i * p.step
  p.last.any fun b => if p.step < 0 then n < b else b < n

/-- Whether a number behind the end is shown all the same: it looks like the last one. -/
def Progression.isShownLast (p : Progression) (f : NumberFormat) (i : Nat) : Bool :=
  let t := Format.realNumber f.directive (p.value i)
  match p.last, Extended.read? t with
  | some b, some (.finite isNegative num den, []) =>
    let n : Int := if isNegative then -(num : Int) else num
    n * p.denominator == b * den && t ≠ Format.realNumber f.directive (p.value (i - 1))
  | _, _ => false

/-- Numbers of the sequence from one on, so many at most; and the next one, if there is more. -/
def Progression.texts (p : Progression) (f : NumberFormat) : Nat → Nat → List Text × Option Nat
  | 0, i => ([], some i)
  | n + 1, i =>
    if p.isPast i then (if 0 < i && p.isShownLast f i then [f.text (p.value i)] else [], none)
    else
      let (ts, next) := p.texts f n (i + 1)
      (f.text (p.value i) :: ts, next)

/-- Writes a sequence piece by piece. -/
def writeProgression (p : Progression) (f : NumberFormat) (separator : Text) : Nat → Nat → Run Unit
  | 0, _ => throw .exhausted
  | n + 1, i => do
    let (ts, next) := p.texts f 800 i
    let t := Text.join separator ts
    if !t.isEmpty then put "seq" (if 0 < i then separator ++ t else t)
    match next with
    | none => put "seq" "\n"
    | some i =>
      tick 100
      writeProgression p f separator n i

/-- Whether an argument that begins as an option does is a number all the same. -/
def isSigned : Text → Bool
  | .char '-' :: s :: _ => s.isDigit || s.is '.'
  | _ => false

/-- Whether the value of an option is the next argument. -/
def takesNext (a : Text) : Bool := ["-s", "-f", "--separator", "--format"].any fun (o : String) => a = (o : Text)

/-- Arguments in which the options end before a number with a sign. -/
def guardedArguments : List Text → List Text
  | [] => []
  | a :: rest =>
    if isSigned a then "--" :: a :: rest
    else if takesNext a then
      match rest with
      | v :: rest => a :: v :: guardedArguments rest
      | [] => [a]
    else if a.head?.any (·.is '-') then a :: guardedArguments rest
    else a :: rest

def seq (args : List Text) : Run Nat := do
  let fs : List Flag := [{ key := 'w', name := "equal-width" }, { key := 's', name := "separator", need := .required },
    { key := 'f', name := "format", need := .required }]
  withFlagsFirst "seq" 1 fs (guardedArguments args) fun cs operands => do
    needOperands "seq" 1 (some 3) operands
    let given ← match optionValue? 'f' cs with
      | none => pure none
      | some t =>
        match numberFormat? t with
        | .ok f => pure (some f)
        | .error e => die "seq" 1 e
    if given.isSome && hasOption 'w' cs then
      misuse "seq" 1 "format string may not be specified when printing equal width strings"
    let bounds ← operands.mapM readBound
    let one : Bound := { value := .finite false 1 1, width := 1, places := some 0 }
    let (first, step, last) := match bounds with
      | [b] => (one, one, b)
      | [a, b] => (a, one, b)
      | a :: s :: b :: _ => (a, s, b)
      | [] => (one, one, one)
    if (numerators step.value).1 = 0 then
      misuse "seq" 1 ("invalid Zero increment value: " ++ curved (operands.getD 1 []))
    let p := Progression.of first.value step.value last.value
    if p.isPast 0 then return 0
    writeProgression p (given.getD (usualFormat (hasOption 'w' cs) first step last))
      ((optionValue? 's' cs).getD "\n") greatestPieces 0
    return 0

end Tangle.Shell.Program
