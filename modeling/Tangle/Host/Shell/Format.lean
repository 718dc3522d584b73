import Tangle.Shell.Escape
import Tangle.Host.Number.Calendar
import Tangle.Host.Number.Extended
import Tangle.Text.LetterCase

/-! # Formatted text

A format is text with directives, each of which takes an argument, and is used again as long as arguments
are left. -/
namespace Tangle.Shell.Format

/-- How an argument is to be written. -/
structure Directive where
  isLeft : Bool := false
  showsSign : Bool := false
  leavesBlank : Bool := false
  isAlternate : Bool := false
  fillsZeros : Bool := false
  width : Nat := 0
  precision : Option Nat := none
  letter : Char := 's'

/-- What has been written, whether all arguments were sound, and what there is to complain about. -/
structure Written where
  text : Text := []
  isSound : Bool := true
  isStopped : Bool := false
  complaints : List Text := []
  /-- Variables that are to hold how many bytes were written up to a place. -/
  counts : List (Text × Nat) := []

/-- A text filled up to the width, which counts bytes. -/
def pad (d : Directive) (t : Text) : Text :=
  let fill : Text := List.replicate (d.width - t.encode.length) (.char ' ')
  if d.isLeft then t ++ fill else fill ++ t

/-- A number as its sign, its mark and its digits, filled up to the width. -/
def padNumber (d : Directive) (sign mark digits : Text) : Text :=
  let digits := match d.precision with
    | some p => List.replicate (p - digits.length) (.char '0') ++ digits
    | none => digits
  if d.fillsZeros && !d.isLeft && d.precision.isNone then
    sign ++ mark ++ List.replicate (d.width - sign.length - mark.length - digits.length) (.char '0') ++ digits
  else pad d (sign ++ mark ++ digits)

def signText (d : Directive) (isNegative : Bool) : Text :=
  if isNegative then "-" else if d.showsSign then "+" else if d.leavesBlank then " " else ""

def digitsIn (base : Nat) (n : Nat) : Text := Text.ofChars (Nat.toDigits base n)

/-- What is wrong with an argument. -/
inductive Fault where
  | notNumber
  | outOfRange

/-- What a word is when it should be a number. -/
def notNumberText (t : Text) : Text :=
  match t with
  | .char '0' :: d :: _ =>
    if d.isDigit then "invalid octal number" else if d.is 'x' then "invalid hex number" else "invalid number"
  | _ => "invalid number"

def Fault.message (t : Text) : Fault → Text
  | notNumber => t ++ ": " ++ notNumberText t
  | outOfRange => t ++ ": Numerical result out of range"

/-- A number that stands for the symbol behind an apostrophe. -/
def symbolNumber? (t : Text) : Option Nat :=
  match t with
  | .char '\'' :: r => some ((r.head?.map symbolRank).getD 0)
  | .char '"' :: r => some ((r.head?.map symbolRank).getD 0)
  | _ => none
where
  symbolRank : Symbol → Nat
    | .char c => c.toNat
    | .byte b => b.toNat
    | .lone s => s.codePoint

/-- The integer at the start of a text, in base ten unless it says another base, and what is wrong. -/
def leadingInteger (t : Text) : Int × Option Fault :=
  match symbolNumber? t with
  | some n => ((n : Int), none)
  | none =>
    let r := t.dropWhile Extended.isSpacing
    let (isNegative, r) : Bool × Text := match r with
      | .char '-' :: r => (true, r)
      | .char '+' :: r => (false, r)
      | r => (false, r)
    let (base, ds) : Nat × Text := match r with
      | .char '0' :: x :: d :: r =>
        if x.isAnyOf "xX" && Extended.isDigitOf 16 d then (16, d :: r) else (8, .char '0' :: x :: d :: r)
      | .char '0' :: r => (8, .char '0' :: r)
      | r => (10, r)
    let good := ds.takeWhile (Extended.isDigitOf base)
    let n : Int := Extended.valueOf base good
    let n := if isNegative then -n else n
    if t.isEmpty then (0, none)
    else if good.isEmpty || good.length < ds.length then (n, some .notNumber)
    else (n, none)

/-- An integer that is kept within bounds, and what is wrong with it. -/
def bounded (least greatest : Int) (n : Int) (f : Option Fault) : Int × Option Fault :=
  if n < least then (least, f.or (some .outOfRange))
  else if greatest < n then (greatest, f.or (some .outOfRange))
  else (n, f)

/-- A real number at the start of a text. -/
def leadingReal (t : Text) : Extended × Option Fault :=
  match symbolNumber? t with
  | some n => (.finite false n 1, none)
  | none =>
    if t.isEmpty then (.finite false 0 1, none)
    else match Extended.read? t with
      | none => (.finite false 0 1, some .notNumber)
      | some (x, rest) =>
        let y := x.narrowed
        let isTooLarge : Bool := match x, y with
          | .finite .., .infinite _ => true
          | _, _ => false
        (y, if !rest.isEmpty then some .notNumber else if isTooLarge then some .outOfRange else none)

/-- A real number as a directive asks for it. -/
def realNumber (d : Directive) (x : Extended) : Text :=
  let isUpper := d.letter.isUpper
  let shown := x.sizeText d.letter.toLower d.precision d.isAlternate
  let shown := if isUpper then shown.map Symbol.toUpper else shown
  let fillsZeros := d.fillsZeros && (match x with
    | .finite .. => true
    | _ => false)
  let (mark, digits) : Text × Text := match shown with
    | .char '0' :: x :: r => if x.isAnyOf "xX" then ([.char '0', x], r) else ([], shown)
    | _ => ([], shown)
  padNumber { d with precision := none, fillsZeros } (signText d x.isNegative) mark digits

def realText (d : Directive) (t : Text) : Text × Option Fault :=
  let (x, f) := leadingReal t
  (realNumber d x, f)

def integerText (d : Directive) (t : Text) : Text × Option Fault :=
  let (n, f) := leadingInteger t
  let isSigned := d.letter = 'd' || d.letter = 'i'
  let (n, f) := if isSigned then bounded (-(2 ^ 63)) (2 ^ 63 - 1) n f
    else if n < -(2 ^ 64 - 1) then ((2 ^ 64 - 1 : Int), f.or (some .outOfRange))
    else bounded (-(2 ^ 64 - 1)) (2 ^ 64 - 1) n f
  let unsigned := (n % 2 ^ 64).toNat
  let hides (m : Nat) (ds : Text) : Text := if m = 0 && d.precision = some 0 then [] else ds
  let text := match d.letter with
    | 'o' =>
      let ds := hides unsigned (digitsIn 8 unsigned)
      let short := d.precision.getD 0 ≤ ds.length && !ds.head?.any (·.is '0')
      padNumber d [] [] (if d.isAlternate && short then .char '0' :: ds else ds)
    | 'x' => padNumber d [] (if d.isAlternate && n ≠ 0 then "0x" else "") (hides unsigned (digitsIn 16 unsigned))
    | 'X' =>
      padNumber d [] (if d.isAlternate && n ≠ 0 then "0X" else "")
        (hides unsigned ((digitsIn 16 unsigned).map Symbol.toUpper))
    | 'u' => padNumber d [] [] (hides unsigned (digitsIn 10 unsigned))
    | _ => padNumber d (signText d (n < 0)) [] (hides n.natAbs (Text.ofNat n.natAbs))
  (text, f)

/-- A text cut to the precision, which counts bytes. -/
def cutTo (d : Directive) (t : Text) : Text :=
  match d.precision with
  | some p => Text.decode (t.encode.take p)
  | none => t

/-- What a format may ask about time. -/
structure Moments where
  now : Int := 0
  /-- When the shell was started. -/
  started : Int := 0
  zone : Civil.Zone := {}

/-- A moment as an inner format asks for: the seconds are the argument, or the present. -/
def momentText (m : Moments) (d : Directive) (inner : Text) (t : Option Text) : Text × Option Fault :=
  let (n, f) := match t with
    | none => (-1, none)
    | some t => leadingInteger t
  let seconds := if n = -1 then m.now else if n = -2 then m.started else n
  let shown := formatMoment (.ofSeconds seconds 0 m.zone) (if inner.isEmpty then "%X" else inner)
  (pad d (cutTo d shown), f)

/-- An argument as its directive says. -/
def argument (d : Directive) (t : Option Text) : Written :=
  let given := t.getD []
  let sound (u : Text) (f : Option Fault) : Written :=
    { text := u, isSound := f.isNone, complaints := (f.map (Fault.message given)).toList }
  match d.letter with
  | 's' => { text := pad d (cutTo d given) }
  | 'b' =>
    let (u, stopped) := Escape.run .argument given
    { text := pad d (cutTo d u), isStopped := stopped }
  | 'q' => { text := pad d (cutTo d (asWord given)) }
  | 'Q' => { text := pad d (asWord (cutTo d given)) }
  | 'c' => { text := pad d (if given.isEmpty then [Symbol.nul] else Text.decode (given.encode.take 1)) }
  | c =>
    let (u, f) := if "diouxX".toList.contains c then integerText d given else realText d given
    sound u f

/-- A number in a directive, or the next argument in place of `*`. -/
def count (t : Text) (args : List Text) : Option Int × Text × List Text :=
  match t with
  | .char '*' :: r => (some (leadingInteger (args.headD [])).1, r, args.drop 1)
  | _ =>
    let ds := t.takeWhile Symbol.isDigit
    (if ds.isEmpty then none else some (ds.foldl (fun n s => n * 10 + (Escape.digitValue s).getD 0) 0),
      t.drop ds.length, args)

def flagged : Nat → Text → Directive → Directive × Text
  | 0, t, d => (d, t)
  | n + 1, t, d =>
    match t with
    | .char '-' :: r => flagged n r { d with isLeft := true }
    | .char '+' :: r => flagged n r { d with showsSign := true }
    | .char ' ' :: r => flagged n r { d with leavesBlank := true }
    | .char '#' :: r => flagged n r { d with isAlternate := true }
    | .char '0' :: r => flagged n r { d with fillsZeros := true }
    | .char '\'' :: r => flagged n r d
    | t => (d, t)

/-- Passes over the marks of size before a letter. -/
def sizeless (t : Text) : Text := t.dropWhile fun s => s.isAnyOf "hlLjzt"

/-- The inner format of a moment, and what follows it. -/
def innerFormat? (t : Text) : Option (Text × Text) :=
  match t with
  | .char '(' :: r => go 0 r
  | _ => none
where
  go (depth : Nat) : Text → Option (Text × Text)
    | [] => none
    | s :: r =>
      if s.is '(' then (go (depth + 1) r).map fun (a, b) => (s :: a, b)
      else if s.is ')' then
        match depth with
        | 0 => some ([], r)
        | d + 1 => (go d r).map fun (a, b) => (s :: a, b)
      else (go depth r).map fun (a, b) => (s :: a, b)

def Written.append (w a : Written) : Written := {
  text := w.text ++ a.text, isSound := w.isSound && a.isSound, isStopped := a.isStopped
  complaints := w.complaints ++ a.complaints, counts := w.counts }

def Written.failed (w : Written) (complaint : Text) : Written :=
  w.append { isSound := false, isStopped := true, complaints := [complaint] }

def directiveLetters : List Char := "sbqQcdiouxXfFeEgGaA".toList

/-- One use of a format: what is written, the arguments that are left, and whether any was taken. -/
def once (m : Moments) : Nat → Text → List Text → Bool → Written → Written × List Text × Bool
  | 0, _, args, took, w => (w, args, took)
  | _, [], args, took, w => (w, args, took)
  | n + 1, .char '%' :: .char '%' :: t, args, took, w =>
    once m n t args took { w with text := w.text ++ "%" }
  | n + 1, .char '%' :: t, args, took, w =>
    let (d, t) := flagged t.length t {}
    let usesWidth := t.head?.any (·.is '*')
    let (width, t, args) := count t args
    let d := match width with
      | some k => { d with width := k.natAbs, isLeft := d.isLeft || k < 0 }
      | none => d
    let usesPrecision := t.head?.any (·.is '.') && (t.drop 1).head?.any (·.is '*')
    let (d, t, args) := match t with
      | .char '.' :: t =>
        let (p, t, args) := count t args
        ({ d with precision := match p with
            | some k => if k < 0 then none else some k.toNat
            | none => some 0 }, t, args)
      | t => (d, t, args)
    let took := took || usesWidth || usesPrecision
    match innerFormat? (sizeless t) with
    | some (inner, .char 'T' :: t) =>
      let (u, f) := momentText m d inner args.head?
      let a : Written := { text := u, isSound := f.isNone, complaints := (f.map (Fault.message (args.headD []))).toList }
      once m n t (args.drop 1) true (w.append a)
    | some (_, rest) => once m n rest args took { w with
        text := w.text ++ "%" ++ (sizeless t).take ((sizeless t).length - rest.length)
        complaints := w.complaints ++ ["warning: \x60" ++ (rest.take 1) ++ "': invalid time format specification"] }
    | none =>
      match sizeless t with
      | .char c :: t =>
        if directiveLetters.contains c then
          let a := argument { d with letter := c } args.head?
          let w := w.append a
          if w.isStopped then (w, [], true) else once m n t (args.drop 1) true w
        else if c = 'n' then
          let name := args.headD []
          once m n t (args.drop 1) true
            (if name.isEmpty then w else { w with counts := w.counts ++ [(name, w.text.encode.length)] })
        else (w.failed ("\x60" ++ ([.char c] : Text) ++ "': invalid format character"), args, took)
      | [] => (w.failed "\x60%': missing format character", args, took)
      | s :: _ => (w.failed ("\x60" ++ ([s] : Text) ++ "': invalid format character"), args, took)
  | n + 1, .char '\\' :: t, args, took, w =>
    match Escape.meaning .format t with
    | .text u rest => once m n rest args took { w with text := w.text ++ u }
    | .stop => ({ w with isStopped := true }, args, took)
    | .none => once m n t args took { w with text := w.text ++ "\\" }
  | n + 1, s :: t, args, took, w =>
    let (plain, t) := t.span fun s => !s.isAnyOf "%\\"
    once m n t args took { w with text := w.text ++ s :: plain }

/-- Uses a format until no arguments are left. -/
def repeated (m : Moments) (format : Text) : Nat → List Text → Written → Written
  | 0, _, w => w
  | n + 1, args, w =>
    let (w, rest, took) := once m (format.length + 1) format args false w
    if w.isStopped || rest.isEmpty || !took then w else repeated m format n rest w

def run (m : Moments) (format : Text) (args : List Text) : Written := repeated m format (args.length + 1) args {}

end Tangle.Shell.Format
