import Tangle.Yaml.Cursor
import Tangle.Number.Moment

/-! # Kinds of nodes

The kind of a node is named by its tag, or is read off the form of a plain scalar. -/
namespace Tangle.Yaml

inductive Kind where
  | null
  | bool
  | int
  | float
  | binary
  | timestamp
  | omap
  | pairs
  | set
  | str
  | seq
  | map
  | merge
  | standard
  | unknown (tag : Text)
deriving DecidableEq, Repr

namespace Kind

def tagStem : Text := "tag:yaml.org,2002:"

def names : List (Text × Kind) := [
  ("null", null), ("bool", bool), ("int", int), ("float", float), ("binary", binary),
  ("timestamp", timestamp), ("omap", omap), ("pairs", pairs), ("set", set), ("str", str),
  ("seq", seq), ("map", map), ("merge", merge), ("value", standard)]

def ofTag (tag : Text) : Kind :=
  match tag.after? tagStem with
  | some n => (names.lookup n).getD (unknown tag)
  | none => unknown tag

/-! The forms of plain scalars -/

def isOneOf (words : List String) (cs : List Char) : Bool := words.any (·.toList == cs)

def falseWords : List String := ["no", "No", "NO", "false", "False", "FALSE", "off", "Off", "OFF"]
def trueWords : List String := ["yes", "Yes", "YES", "true", "True", "TRUE", "on", "On", "ON"]

def unsigned : List Char → List Char
  | '+' :: r | '-' :: r => r
  | r => r

def isOctal (c : Char) : Bool := '0' ≤ c && c ≤ '7'
def isHexadecimal (c : Char) : Bool := c.isDigit || ('a' ≤ c && c ≤ 'f') || ('A' ≤ c && c ≤ 'F')

/-- Digits of a class, with underscores among them; at least one of either. -/
def areDigits (p : Char → Bool) (cs : List Char) : Bool :=
  !cs.isEmpty && cs.all fun c => p c || c == '_'

/-- Digits, with underscores after the first. -/
def isNumeral : List Char → Bool
  | c :: r => c.isDigit && r.all fun c => c.isDigit || c == '_'
  | [] => false

/-- The number of a sixtieth: one digit, or two of which the first is at most five. -/
def isSixtieth : List Char → Bool
  | [a] => a.isDigit
  | [a, b] => '0' ≤ a && a ≤ '5' && b.isDigit
  | _ => false

def colonPieces (cs : List Char) : List (List Char) := cs.splitBy fun a b => a != ':' && b != ':'

/-- Alternating numbers and colons: a numeral, then at least one sixtieth. -/
def sixtieths (cs : List Char) : Option (List Char × List (List Char)) :=
  match (colonPieces cs).filter (· != [':']), cs.count ':' with
  | head :: tail, n => if n = tail.length ∧ 0 < n then some (head, tail) else none
  | [], _ => none

def isInt (cs : List Char) : Bool :=
  match unsigned cs with
  | ['0'] => true
  | '0' :: 'b' :: r => areDigits (fun c => c == '0' || c == '1') r
  | '0' :: 'x' :: r => areDigits isHexadecimal r
  | '0' :: r => areDigits isOctal r
  | r =>
    isNumeral r ||
    (sixtieths r).any fun (head, tail) => isNumeral head && tail.all isSixtieth

def isExponent : List Char → Bool
  | [] => true
  | e :: s :: r => (e == 'e' || e == 'E') && (s == '+' || s == '-') && !r.isEmpty && r.all Char.isDigit
  | _ => false

def isFractionDigit (c : Char) : Bool := c.isDigit || c == '_'

def isFloat (cs : List Char) : Bool :=
  let r := unsigned cs
  let (whole, rest) := (r.takeWhile (· != '.'), r.dropWhile (· != '.'))
  match rest with
  | '.' :: tail =>
    let fraction := tail.takeWhile isFractionDigit
    let exponent := tail.drop fraction.length
    (isNumeral whole && isExponent exponent) ||
    (cs.head? == some '.' && isNumeral fraction && isExponent exponent) ||
    ((sixtieths whole).any (fun (head, tail) => isNumeral head && tail.all isSixtieth) &&
      exponent.isEmpty) ||
    (whole.isEmpty && isOneOf ["inf", "Inf", "INF"] tail) ||
    (isOneOf [".nan", ".NaN", ".NAN"] cs)
  | _ => false

/-- The kind of one line. -/
def ofLine (cs : List Char) : Kind :=
  if isOneOf (trueWords ++ falseWords) cs then bool
  else if isFloat cs then float
  else if isInt cs then int
  else if isOneOf ["<<"] cs then merge
  else if isOneOf ["~", "null", "Null", "NULL", ""] cs then null
  else if Moment.isPlain cs then timestamp
  else if isOneOf ["="] cs then standard
  else str

/-- The kind of a text is that of its only line, with or without the end of that line. -/
def ofChars (cs : List Char) : Kind :=
  if cs.getLast? = some '\n' && 1 < cs.length then ofLine cs.dropLast
  else if cs = ['\n'] then str
  else ofLine cs

/-- The kind of a scalar without a tag of its own. -/
def ofPlain (t : Text) : Kind := t.chars?.elim str ofChars

end Kind
end Tangle.Yaml
