import Tangle.Text.Utf8
import Tangle.Text.Display
import Tangle.Text.Printable

/-! # Escapes

Backslash escapes in the three forms that the shell knows, and the two ways in which it writes a text
so that it can be read again. -/
namespace Tangle.Shell

/-- Where escapes stand: between `$'` and `'`, in the format of `printf`, in the arguments of its
`%b`, or in those of `echo -e`. -/
inductive EscapeForm where
  | quoted
  | format
  | argument
  | echo
deriving DecidableEq, Repr

namespace Escape

def digitValue (s : Symbol) : Option Nat :=
  match s with
  | .char c =>
    if c.isDigit then some (c.toNat - '0'.toNat)
    else if 'a' ≤ c && c ≤ 'f' then some (c.toNat - 'a'.toNat + 10)
    else if 'A' ≤ c && c ≤ 'F' then some (c.toNat - 'A'.toNat + 10)
    else none
  | _ => none

/-- The number that up to `width` digits in `base` spell, the count of digits, and the rest. -/
def number (base : Nat) : (width : Nat) → Text → Nat × Nat × Text
  | 0, t => (0, 0, t)
  | width + 1, t => go width 0 0 t
where
  go : Nat → Nat → Nat → Text → Nat × Nat × Text
    | width, value, count, s :: t =>
      match digitValue s with
      | some d =>
        if d < base then
          match width with
          | 0 => (value * base + d, count + 1, t)
          | w + 1 => go w (value * base + d) (count + 1) t
        else (value, count, s :: t)
      | none => (value, count, s :: t)
    | _, value, count, [] => (value, count, [])

def byteSymbol (n : Nat) : Symbol :=
  if n < 0x80 then .char (Char.ofNat n) else .byte n.toUInt8

def codePoint (n : Nat) : Text := if n < 0x80 then [.char (Char.ofNat n)] else
  Text.decode (Utf8.encodeNat n)

def control (s : Symbol) : Symbol :=
  match s with
  | .char '?' => .char (Char.ofNat 0x7F)
  | .char c => .char (Char.ofNat (c.toNat % 32))
  | s => s

/-- What a decoded escape comes to: a text, the end of all output, or no escape at all. -/
inductive Meaning where
  | text (t : Text) (rest : Text)
  | stop
  | none

/-- The meaning of the escape that goes on with a text after its backslash. -/
def meaning (form : EscapeForm) : Text → Meaning
  | [] => .none
  | s :: t =>
    let simple (c : Nat) : Meaning := .text [.char (Char.ofNat c)] t
    let hexadecimal (width : Nat) (make : Nat → Text) : Meaning :=
      match number 16 width t with
      | (_, 0, _) => .none
      | (n, _, r) => .text (make n) r
    let octal (width : Nat) (from_ : Text) : Meaning :=
      let (n, _, r) := number 8 width from_
      .text [byteSymbol (n % 256)] r
    match s with
    | .char 'a' => simple 7
    | .char 'b' => simple 8
    | .char 'e' => simple 27
    | .char 'E' => simple 27
    | .char 'f' => simple 12
    | .char 'n' => simple 10
    | .char 'r' => simple 13
    | .char 't' => simple 9
    | .char 'v' => simple 11
    | .char '\\' => simple 92
    | .char '\'' => if form = .quoted || form = .format then simple 39 else .none
    | .char '"' => if form = .quoted || form = .format then simple 34 else .none
    | .char '?' => if form = .quoted || form = .format then simple 63 else .none
    | .char 'c' =>
      match form, t with
      | .quoted, x :: r => .text [control x] r
      | .argument, _ => .stop
      | .echo, _ => .stop
      | _, _ => .none
    | .char 'x' => hexadecimal 2 fun n => [byteSymbol n]
    | .char 'u' => hexadecimal 4 codePoint
    | .char 'U' => hexadecimal 8 codePoint
    | .char '0' =>
      if form = .quoted || form = .format then octal 3 (s :: t) else octal 3 t
    | .char c =>
      if '1' ≤ c && c ≤ '7' && form ≠ .echo then octal 3 (s :: t) else .none
    | _ => .none

/-- The text with its escapes carried out, and whether one of them ended it. -/
def decode (form : EscapeForm) : Nat → Text → Text × Bool
  | 0, t => (t, false)
  | _, [] => ([], false)
  | n + 1, .char '\\' :: t =>
    match meaning form t with
    | .text u rest => let (r, stopped) := decode form n rest; (u ++ r, stopped)
    | .stop => ([], true)
    | .none =>
      match t with
      | [] => (([.char '\\'] : Text), false)
      | s :: t => let (r, stopped) := decode form n t; (.char '\\' :: s :: r, stopped)
  | n + 1, s :: t => let (r, stopped) := decode form n t; (s :: r, stopped)

def run (form : EscapeForm) (t : Text) : Text × Bool :=
  let (u, stopped) := decode form (t.length + 1) t
  (u.normal, stopped)

/-- The text between `$'` and `'`. It ends where a null character stands. -/
def quoted (t : Text) : Text := (run .quoted t).1.takeWhile (· ≠ Symbol.nul)

end Escape

/-- A text between apostrophes. -/
def apostrophed (t : Text) : Text :=
  if t = ("'" : Text) then "\\'" else "'" ++ Text.replaceAll (.char '\'') "'\\''" t ++ "'"

def isPrintableSymbol : Symbol → Bool
  | .char c => isPrintable c || c.toNat == 0xA0 || c.toNat == 0xAD
  | _ => false

/-- Whether a text can be shown only with escapes. -/
def needsEscapes (t : Text) : Bool := t.any (!isPrintableSymbol ·)

def octalByte (b : UInt8) : Text :=
  let n := b.toNat
  "\\" ++ Text.ofNat (n / 64) ++ Text.ofNat (n / 8 % 8) ++ Text.ofNat (n % 8)

def escaped : Symbol → Text
  | .byte b => octalByte b
  | .lone s => [.lone s]
  | .char c =>
    match c.toNat with
    | 27 => "\\E"
    | 7 => "\\a"
    | 11 => "\\v"
    | 8 => "\\b"
    | 12 => "\\f"
    | 10 => "\\n"
    | 13 => "\\r"
    | 9 => "\\t"
    | 92 => "\\\\"
    | 39 => "\\'"
    | _ =>
      if isPrintableSymbol (.char c) then [.char c] else (Symbol.char c).encode.flatMap octalByte

/-- A text between `$'` and `'`. -/
def dollarQuoted (t : Text) : Text := "$'" ++ t.flatMap escaped ++ "'"

/-- A text between quotation marks. -/
def doubleQuoted (t : Text) : Text :=
  "\"" ++ t.flatMap (fun s => if s.isAnyOf "\"$\\\x60" then [.char '\\', s] else [s]) ++ "\""

/-- Whether a text has signs that mean something to the shell, and so is quoted where it is to be read
again. -/
def hasShellSigns (t : Text) : Bool :=
  t.any (·.isAnyOf " \t\n'\"\\|&;()<>!\x7b\x7d*[?]^$\x60") || t.head?.any (·.isAnyOf "~#") ||
    Text.hasInside "=~" t || Text.hasInside ":~" t

/-- The value of a variable as it is written in a declaration. -/
def valueQuoted (t : Text) : Text := if needsEscapes t then dollarQuoted t else doubleQuoted t

/-- Symbols with a backslash before each that means something to the shell. -/
def backslashed (t : Text) : Text :=
  go none t
where
  go : Option Symbol → Text → Text
    | _, [] => []
    | before, s :: t =>
      let isSpecial := s.isAnyOf " \t\n!\"$&'()*,;<>?[\\]^\x60\x7b|\x7d" ||
        (s.is '~' && before.all fun b => b.is ':' || b.is '=') || (s.is '#' && before.isNone)
      (if isSpecial then [.char '\\', s] else [s]) ++ go (some s) t

/-- A text as a word that reads as that text. -/
def asWord (t : Text) : Text :=
  if t.isEmpty then "''" else if needsEscapes t then dollarQuoted t else backslashed t

end Tangle.Shell
