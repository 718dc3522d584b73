import Tangle.Text.Basic

/-! # Binary numbers

A number of 53 binary digits with a scale, or an infinity, or no number. A fraction is rounded to
the nearest of them, the even one of two; and a number is written with the fewest decimal digits
that round to it. -/
namespace Tangle

inductive Binary where
  | finite (isNegative : Bool) (mantissa : Nat) (scale : Int)
  | infinite (isNegative : Bool)
  | undefined
deriving DecidableEq, Repr

namespace Binary

def precision : Nat := 53
def leastScale : Int := -1074
def greatestScale : Int := 971

/-- The nearest natural number to `n / d`, the even one of two. -/
def nearest (n d : Nat) : Nat :=
  let q := n / d
  let r := 2 * (n % d)
  if r < d then q else if d < r then q + 1 else q + q % 2

def powers (b : Nat) (e : Int) : Nat × Nat := if 0 ≤ e then (b ^ e.toNat, 1) else (1, b ^ (-e).toNat)

/-- `n / d` in units of two to the power `e`. -/
def inUnits (n d : Nat) (e : Int) : Nat :=
  let (up, down) := powers 2 e
  nearest (n * down) (d * up)

def scaleOf (n d : Nat) : Int :=
  let e : Int := (n.log2 : Int) - d.log2 - 52
  let (up, down) := powers 2 e
  max leastScale (if n * down < d * up * 2 ^ 52 then e - 1 else e)

/-- Rounds a fraction. -/
def ofFraction (isNegative : Bool) (n d : Nat) : Binary :=
  if n = 0 then finite isNegative 0 leastScale
  else
    let e := scaleOf n d
    let m := inUnits n d e
    let (m, e) := if m = 2 ^ precision then (2 ^ (precision - 1), e + 1) else (m, e)
    if greatestScale < e then infinite isNegative else finite isNegative m e

/-- Rounds `digits` times ten to the power `exponent`. -/
def ofDecimal (isNegative : Bool) (digits : Nat) (exponent : Int) : Binary :=
  let size : Int := (Nat.toDigits 10 digits).length + exponent
  if digits = 0 ∨ size < -400 then finite isNegative 0 leastScale
  else if 400 < size then infinite isNegative
  else
    let (up, down) := powers 10 exponent
    ofFraction isNegative (digits * up) down

/-- The size of a finite number as a fraction. -/
def fraction : Binary → Nat × Nat
  | finite _ m e => let (up, down) := powers 2 e; (m * up, down)
  | _ => (0, 1)

def isNegative : Binary → Bool
  | finite s _ _ => s
  | infinite s => s
  | undefined => false

def isZero : Binary → Bool
  | finite _ m _ => m = 0
  | _ => false

def neg : Binary → Binary
  | finite s m e => finite (!s) m e
  | infinite s => infinite !s
  | undefined => undefined

/-- A finite number as a fraction with a sign. -/
def signedFraction (a : Binary) : Int × Nat :=
  let (n, d) := a.fraction
  (if a.isNegative then -(n : Int) else n, d)

def ofSignedFraction (n : Int) (d : Nat) : Binary := ofFraction (n < 0) n.natAbs d

def add (a b : Binary) : Binary :=
  match a, b with
  | undefined, _ | _, undefined => undefined
  | infinite s, infinite t => if s = t then infinite s else undefined
  | infinite s, _ | _, infinite s => infinite s
  | a, b =>
    let (n, d) := a.signedFraction
    let (n', d') := b.signedFraction
    if n = 0 && n' = 0 then finite (a.isNegative && b.isNegative) 0 leastScale
    else ofSignedFraction (n * d' + n' * d) (d * d')

def multiply (a b : Binary) : Binary :=
  let s := a.isNegative != b.isNegative
  match a, b with
  | undefined, _ | _, undefined => undefined
  | infinite _, b | b, infinite _ => if b.isZero then undefined else infinite s
  | a, b =>
    let (n, d) := a.fraction
    let (n', d') := b.fraction
    ofFraction s (n * n') (d * d')

/-- The integer that a number is, if it is one. -/
def toInt? (a : Binary) : Option Int :=
  match a with
  | finite s _ _ =>
    let (n, d) := a.fraction
    if n % d = 0 then some (if s then -((n / d : Nat) : Int) else ((n / d : Nat) : Int)) else none
  | _ => none

/-- The power of ten of the leading decimal digit of `n / d`. -/
def magnitude (n d : Nat) : Int :=
  if d ≤ n then ((Nat.toDigits 10 (n / d)).length : Int) - 1 else below n d 400 1
where
  below (n d : Nat) : Nat → Nat → Int
    | 0, k => -(k : Int)
    | fuel + 1, k => if d ≤ n * 10 ^ k then -(k : Int) else below n d fuel (k + 1)

/-- The decimal of a number on the grid of multiples of ten to the power `e` that rounds to it, and
is the nearer one of two. -/
def onGrid (n d : Nat) (e : Int) : Option Nat :=
  let (up, down) := powers 10 e
  let q := n * down / (d * up)
  let fits (k : Nat) : Bool := ofDecimal false k e == ofFraction false n d
  let closest := nearest (n * down) (d * up)
  if fits closest then some closest
  else if fits q then some q
  else if fits (q + 1) then some (q + 1)
  else none

/-- The fewest digits that read back, and the power of ten of the last one. -/
def shortest (n d : Nat) : Nat × Int := go 17 (magnitude n d)
where
  go : Nat → Int → Nat × Int
    | 0, e => ((onGrid n d e).getD 0, e)
    | fuel + 1, e =>
      match onGrid n d e with
      | some k => if k = 0 then go fuel (e - 1) else (k, e)
      | none => go fuel (e - 1)

/-- Digits with a point after the first `places`, which may lie outside of them. -/
def positional (digits : List Char) (places : Int) : List Char :=
  if places ≤ 0 then "0.".toList ++ List.replicate (-places).toNat '0' ++ digits
  else
    let n := places.toNat
    if digits.length ≤ n then digits ++ List.replicate (n - digits.length) '0' ++ ".0".toList
    else digits.take n ++ '.' :: digits.drop n

def exponentText (e : Int) : List Char :=
  let ds := Nat.toDigits 10 e.natAbs
  (if e < 0 then '-' else '+') :: (if ds.length < 2 then '0' :: ds else ds)

/-- The shortest text of a size: positional from one ten-thousandth up to ten to the sixteenth. -/
def sizeText (n d : Nat) : List Char :=
  if n = 0 then "0.0".toList
  else
    let (k, e) := shortest n d
    let digits := Nat.toDigits 10 k
    let places : Int := digits.length + e
    let digits := (digits.reverse.dropWhile (· == '0')).reverse
    if -4 < places ∧ places ≤ 16 then positional digits places
    else
      let head := if digits.length < 2 then digits else digits.take 1 ++ '.' :: digits.drop 1
      head ++ 'e' :: exponentText (places - 1)

def text (a : Binary) : Text :=
  match a with
  | undefined => "nan"
  | infinite s => if s then "-inf" else "inf"
  | finite s .. =>
    let (n, d) := a.fraction
    Text.ofChars ((if s then ['-'] else []) ++ sizeText n d)

end Binary
end Tangle
