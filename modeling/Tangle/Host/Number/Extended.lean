import Tangle.Text.LetterCase

/-! # Numbers with infinities

Fractions with a sign, the infinities, and what is no number, as they are read from a text and written in
positional notation, with an exponent, or in base sixteen. -/
namespace Tangle

inductive Extended where
  | finite (isNegative : Bool) (num den : Nat)
  | infinite (isNegative : Bool)
  | undefined (isNegative : Bool)
deriving DecidableEq, Repr

namespace Extended

def isNegative : Extended → Bool
  | finite s _ _ => s
  | infinite s => s
  | undefined s => s

/-! Reading -/

/-- The value of a digit of any base up to sixteen. -/
def digit? (s : Symbol) : Option Nat :=
  match s with
  | .char c =>
    if c.isDigit then some (c.toNat - '0'.toNat)
    else if 'a' ≤ c && c ≤ 'f' then some (c.toNat - 'a'.toNat + 10)
    else if 'A' ≤ c && c ≤ 'F' then some (c.toNat - 'A'.toNat + 10)
    else none
  | _ => none

def isDigitOf (base : Nat) (s : Symbol) : Bool := (digit? s).any (· < base)

def valueOf (base : Nat) (ds : Text) : Nat := ds.foldl (fun n s => n * base + (digit? s).getD 0) 0

/-- What follows a word, whatever the case of its letters. -/
def afterWord? (t word : Text) : Option Text :=
  if (t.take word.length).map Symbol.toLower = word then some (t.drop word.length) else none

def isSpacing (s : Symbol) : Bool := s.isAnyOf " \t\n\x0b\x0c\r"

/-- The greatest exponent that makes a difference: beyond it all is infinite, or zero. -/
def greatestExponent : Nat := 20000

/-- An exponent behind a letter, and what follows; without digits there is no exponent. -/
def exponentAfter (letter : Char) (t : Text) : Int × Text :=
  match t with
  | s :: r =>
    if s.toLower.is letter then
      let (sign, ds) : Int × Text := match r with
        | .char '-' :: ds => (-1, ds)
        | .char '+' :: ds => (1, ds)
        | ds => (1, ds)
      let digits := ds.takeWhile Symbol.isDigit
      if digits.isEmpty then (0, t)
      else (sign * (min greatestExponent (valueOf 10 (digits.take 9)) : Nat), ds.drop digits.length)
    else (0, t)
  | [] => (0, [])

def powers (base : Nat) (e : Int) : Nat × Nat := if 0 ≤ e then (base ^ e.toNat, 1) else (1, base ^ (-e).toNat)

/-- A number in a base with a point and an exponent of another base, and what follows. -/
def positional? (base : Nat) (letter : Char) (exponentBase pointPower : Nat) (isNegative : Bool) (t : Text) :
    Option (Extended × Text) :=
  let whole := t.takeWhile (isDigitOf base)
  let r := t.drop whole.length
  let (fraction, r) := match r with
    | .char '.' :: f =>
      let ds := f.takeWhile (isDigitOf base)
      if whole.isEmpty && ds.isEmpty then ([], r) else (ds, f.drop ds.length)
    | r => ([], r)
  if whole.isEmpty && fraction.isEmpty then none
  else
    let (e, r) := exponentAfter letter r
    let (up, down) := powers exponentBase (e - pointPower * fraction.length)
    some (finite isNegative (valueOf base (whole ++ fraction) * up) down, r)

/-- The number at the beginning of a text, and what follows it. -/
def read? (t : Text) : Option (Extended × Text) :=
  let t := t.dropWhile isSpacing
  let (isNegative, r) : Bool × Text := match t with
    | .char '-' :: r => (true, r)
    | .char '+' :: r => (false, r)
    | r => (false, r)
  match afterWord? r "infinity", afterWord? r "inf", afterWord? r "nan", r with
  | some rest, _, _, _ => some (infinite isNegative, rest)
  | _, some rest, _, _ => some (infinite isNegative, rest)
  | _, _, some (.char '(' :: rest), _ =>
    let inner := rest.takeWhile Symbol.isIdentifier
    match rest.drop inner.length with
    | .char ')' :: rest => some (undefined isNegative, rest)
    | _ => some (undefined isNegative, .char '(' :: rest)
  | _, _, some rest, _ => some (undefined isNegative, rest)
  | _, _, _, .char '0' :: x :: rest =>
    match if x.isAnyOf "xX" then positional? 16 'p' 2 4 isNegative rest else none with
    | some found => some found
    | none => positional? 10 'e' 10 1 isNegative r
  | _, _, _, _ => positional? 10 'e' 10 1 isNegative r

/-! Rounding -/

/-- `num / den` to the nearest whole number, a tie to the even one. -/
def roundDiv (num den : Nat) : Nat :=
  let q := num / den
  let r := num % den
  if 2 * r < den then q else if den < 2 * r then q + 1 else if q % 2 = 0 then q else q + 1

/-- A fraction as near to another as 64 binary digits allow: the digits, and the power of two of the last. -/
def nearest64 (num den : Nat) : Nat × Int :=
  let scaled (shift : Int) : Nat × Nat :=
    if 0 ≤ shift then (num * 2 ^ shift.toNat, den) else (num, den * 2 ^ (-shift).toNat)
  let guess : Int := 63 - ((num.log2 : Int) - den.log2)
  let (a, b) := scaled guess
  let shift := if a / b < 2 ^ 63 then guess + 1 else guess
  let (a, b) := scaled shift
  let m := roundDiv a b
  if m = 2 ^ 64 then (2 ^ 63, 1 - shift) else (m, -shift)

/-- The fraction that is stored for another. -/
def stored (num den : Nat) : Nat × Nat :=
  if num = 0 then (0, 1)
  else
    let (m, e) := nearest64 num den
    let (up, down) := powers 2 e
    (m * up, down)

/-- A number as it is stored; one that is too large is infinite, and one that is too small is zero. -/
def narrowed : Extended → Extended
  | finite s num den =>
    let (n, d) := stored num den
    if 2 ^ 16384 * d ≤ n then infinite s
    else if n * 2 ^ 16446 < d then finite s 0 1
    else finite s n d
  | x => x

/-! Writing -/

/-- The fraction `num / den` with a fixed number of decimal places. -/
def fixed (num den precision : Nat) : Text :=
  let ds := Text.ofNat (roundDiv (num * 10 ^ precision) den)
  let ds : Text := List.replicate (precision + 1 - ds.length) (.char '0') ++ ds
  if precision = 0 then ds
  else ds.take (ds.length - precision) ++ "." ++ ds.drop (ds.length - precision)

def exponentText (e : Int) : Text :=
  let ds := Text.ofNat e.natAbs
  (if e < 0 then "-" else "+") ++ (if ds.length < 2 then "0" else "") ++ ds

/-- The fraction `num / den` times a power of ten. -/
def timesTen (num den : Nat) (e : Int) : Nat × Nat :=
  if 0 ≤ e then (num * 10 ^ e.toNat, den) else (num, den * 10 ^ (-e).toNat)

/-- The exponent of a fraction in decimal notation. -/
def exponentOf (num den : Nat) : Int :=
  let guess : Int := ((Text.ofNat num).length : Int) - (Text.ofNat den).length
  let (a, b) := timesTen num den (-guess)
  if a < b then guess - 1 else guess

/-- A fraction with one digit before the point, and the exponent that belongs to it. -/
def scientific (num den precision : Nat) : Text × Int :=
  if num = 0 then (fixed 0 1 precision, 0)
  else
    let e := exponentOf num den
    let (a, b) := timesTen num den (-e)
    let shown := fixed a b precision
    if 1 < (shown.takeWhile Symbol.isDigit).length then
      let (a, b) := timesTen num den (-(e + 1))
      (fixed a b precision, e + 1)
    else (shown, e)

def withoutZeros (t : Text) : Text :=
  if t.any (·.is '.') then Text.trimEndBy (·.is '.') (Text.trimEndBy (·.is '0') t) else t

/-- Hexadecimal digits of a number, so many at least. -/
def hexadecimal (width n : Nat) : Text := Text.ofChars (List.replicate (width - (Nat.toDigits 16 n).length) '0' ++ Nat.toDigits 16 n)

/-- A fraction in base sixteen, its first digit being from 8 to f, with an exponent of two. -/
def sixteenths (num den : Nat) (precision : Option Nat) (keepsPoint : Bool) : Text :=
  let pointed (digits : Text) : Text := if digits.isEmpty then (if keepsPoint then "." else "") else "." ++ digits
  if num = 0 then "0x0" ++ pointed (List.replicate (precision.getD 0) (.char '0')) ++ "p+0"
  else
    let (m, e) := nearest64 num den
    let exponent := e + 60
    let shown (first : Nat) (rest : Text) (e : Int) : Text :=
      "0x" ++ hexadecimal 1 first ++ pointed rest ++ "p" ++ (if e < 0 then "-" else "+") ++ Text.ofNat e.natAbs
    match precision with
    | none => shown (m / 2 ^ 60) (Text.trimEndBy (·.is '0') (hexadecimal 15 (m % 2 ^ 60))) exponent
    | some p =>
      if 15 ≤ p then shown (m / 2 ^ 60) (hexadecimal 15 (m % 2 ^ 60) ++ List.replicate (p - 15) (.char '0')) exponent
      else
        let r := roundDiv m (2 ^ (4 * (15 - p)))
        let (r, exponent) := if r = 16 ^ (p + 1) then (16 ^ (p + 1) / 2, exponent + 1) else (r, exponent)
        shown (r / 16 ^ p) (if p = 0 then [] else hexadecimal p (r % 16 ^ p)) exponent

/-- The notation that a letter stands for. A number in general notation is written positionally unless its
exponent is too small or too large for the precision. -/
def written (letter : Char) (precision : Option Nat) (keepsPoint : Bool) (num den : Nat) : Text :=
  let p := precision.getD 6
  let pointed (t : Text) : Text := if keepsPoint && !t.any (·.is '.') then t ++ "." else t
  match letter with
  | 'f' => pointed (fixed num den p)
  | 'e' => let (m, e) := scientific num den p; pointed m ++ "e" ++ exponentText e
  | 'a' => sixteenths num den precision keepsPoint
  | _ =>
    let p := if p = 0 then 1 else p
    let (m, e) := scientific num den (p - 1)
    if e < -4 || (p : Int) ≤ e then (if keepsPoint then pointed m else withoutZeros m) ++ "e" ++ exponentText e
    else
      let t := fixed num den ((p : Int) - 1 - e).toNat
      if keepsPoint then pointed t else withoutZeros t

/-- A number without its sign. -/
def sizeText (letter : Char) (precision : Option Nat) (keepsPoint : Bool) : Extended → Text
  | finite _ num den => written letter precision keepsPoint num den
  | infinite _ => "inf"
  | undefined _ => "nan"

end Extended
end Tangle
