import Tangle.Text.Display

/-! # Quoted words

A text as one word of the shell that expands to exactly that text: between apostrophes, or between
`$'` and `'` with escapes where the text holds an apostrophe, a control character or an undecoded
byte. -/
namespace Tangle

namespace Symbol

def isControl : Symbol → Bool := holds fun c => c.toNat < 0x20 || c.toNat == 0x7F

def isUndecoded : Symbol → Bool
  | .byte b => 0x80 ≤ b
  | .char _ | .lone _ => false

/-- Holds of the symbols that cannot stand between plain apostrophes on one line. -/
def needsEscape (s : Symbol) : Bool := s.isControl || s.is '\'' || s.isUndecoded

def escape : Symbol → Text
  | .lone s => [.lone s]
  | .byte b => if 0x80 ≤ b then "\\x" ++ hex 2 b.toNat else [.byte b]
  | .char c =>
    if c == '\\' then "\\\\"
    else if c == '\'' then "\\'"
    else if c == '\n' then "\\n"
    else if c == '\t' then "\\t"
    else if c == '\r' then "\\r"
    else if isControl (.char c) then "\\x" ++ hex 2 c.toNat
    else [.char c]

end Symbol

inductive QuoteFault where
  | nul
deriving DecidableEq, Repr

def QuoteFault.message : QuoteFault → Text
  | nul => "NUL characters cannot be represented in a bash string"

namespace Quoting

def quote (t : Text) : Text :=
  if t.any Symbol.needsEscape then "$'" ++ t.flatMap Symbol.escape ++ "'"
  else "'" ++ t ++ "'"

/-- No word of the shell can hold the null character. -/
def word (t : Text) : Except QuoteFault Text :=
  if Symbol.nul ∈ t then .error .nul else .ok (quote t)

def words (ts : List Text) : Except QuoteFault Text :=
  (Text.join " ") <$> ts.mapM word

end Quoting
end Tangle
