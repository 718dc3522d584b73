import Tangle.Text.Printable
import Tangle.Text.Utf8

/-! # Texts for display

A text in a message is shown between quotes, on one line, with its unprintable symbols escaped. -/
namespace Tangle

def hexDigit (n : Nat) : Char := (Nat.digitChar (n % 16))

/-- The low `width` hexadecimal digits of `n`. -/
def hex : (width n : Nat) → Text
  | 0, _ => []
  | width + 1, n => hex width (n / 16) ++ [.char (hexDigit n)]

namespace Symbol

/-- A symbol that is no character, spelt out by its code point. -/
def spelt (s : Symbol) : Text := "\\u" ++ hex 4 s.rank

/-- How a symbol is shown between the quotes `quote`. -/
def display (quote : Char) : Symbol → Text
  | .byte b => spelt (.byte b)
  | .lone s => spelt (.lone s)
  | .char c =>
    if c == '\\' || c == quote then [.char '\\', .char c]
    else if c == '\n' then "\\n"
    else if c == '\r' then "\\r"
    else if c == '\t' then "\\t"
    else if isPrintable c then [.char c]
    else if c.toNat < 0x100 then "\\x" ++ hex 2 c.toNat
    else if c.toNat < 0x10000 then "\\u" ++ hex 4 c.toNat
    else "\\U" ++ hex 8 c.toNat

end Symbol

/-- Apostrophes enclose the text, or quotation marks if it holds an apostrophe and no quotation
mark. -/
def Text.displayQuote (t : Text) : Char :=
  if t.any (·.is '\'') && !t.any (·.is '"') then '"' else '\''

def Text.display (t : Text) : Text :=
  let q := t.displayQuote
  .char q :: t.flatMap (Symbol.display q) ++ [.char q]

/-- The text with all that is no character spelt out, for a stream that carries characters only. -/
def Text.spellBytes (t : Text) : Text := t.flatMap fun
  | .char c => [.char c]
  | s => s.spelt

namespace EncodeFault

/-- The place of the first symbol without bytes. -/
def start (f : EncodeFault) : Nat := (f.text.takeWhile Symbol.isEncodable).length

/-- The end of the run of surrogates from there on, those that stand for bytes included. -/
def stop (f : EncodeFault) : Nat :=
  f.start + ((f.text.drop f.start).takeWhile fun | .char _ => false | _ => true).length

def message (f : EncodeFault) : Text :=
  "'utf-8' codec can't encode " ++
    (if f.stop = f.start + 1 then
      ("character '" : Text) ++ (f.text[f.start]?.elim [] Symbol.spelt) ++ "' in position " ++ Text.ofNat f.start
    else ("characters in position " : Text) ++ Text.ofNat f.start ++ "-" ++ Text.ofNat (f.stop - 1)) ++
    ": surrogates not allowed"

def shown (f : EncodeFault) : Text :=
  "UnicodeEncodeError('utf-8', " ++ f.text.display ++ ", " ++ Text.ofNat f.start ++ ", " ++ Text.ofNat f.stop ++
    ", 'surrogates not allowed')"

end EncodeFault

end Tangle
