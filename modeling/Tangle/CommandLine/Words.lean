import Tangle.Text.Basic

/-! # Splitting a command line

Words are separated by blanks. Apostrophes keep everything between them; between quotation marks a
backslash keeps the mark and itself, elsewhere any symbol. -/
namespace Tangle.CommandLine

inductive SplitFault where
  | noClosingQuote
  | nothingEscaped
deriving DecidableEq, Repr

def SplitFault.message : SplitFault → Text
  | noClosingQuote => "No closing quotation"
  | nothingEscaped => "No escaped character"

def isGap (s : Symbol) : Bool := s.isAnyOf " \t\r\n"

/-- Where in a word the reader is: between words, in a word, or between marks. -/
inductive WordState where
  | between
  | word (w : Text)
  | quoted (mark : Char) (w : Text)
deriving DecidableEq, Repr

/-- The words from a state on. -/
def wordsFrom : WordState → Text → Except SplitFault (List Text)
  | .between, [] => .ok []
  | .word w, [] => .ok [w]
  | .quoted _ _, [] => .error .noClosingQuote
  | .quoted m w, c :: t =>
    if c.is m then wordsFrom (.word w) t
    else if m == '"' && c.is '\\' then
      match t with
      | [] => .error .nothingEscaped
      | d :: t =>
        if d.is '"' || d.is '\\' then wordsFrom (.quoted m (w ++ [d])) t
        else wordsFrom (.quoted m (w ++ [c, d])) t
    else wordsFrom (.quoted m (w ++ [c])) t
  | .between, c :: t =>
    if isGap c then wordsFrom .between t
    else if c.is '\\' then
      match t with
      | [] => .error .nothingEscaped
      | d :: t => wordsFrom (.word [d]) t
    else if c.is '\'' then wordsFrom (.quoted '\'' []) t
    else if c.is '"' then wordsFrom (.quoted '"' []) t
    else wordsFrom (.word [c]) t
  | .word w, c :: t =>
    if isGap c then (w :: ·) <$> wordsFrom .between t
    else if c.is '\\' then
      match t with
      | [] => .error .nothingEscaped
      | d :: t => wordsFrom (.word (w ++ [d])) t
    else if c.is '\'' then wordsFrom (.quoted '\'' w) t
    else if c.is '"' then wordsFrom (.quoted '"' w) t
    else wordsFrom (.word (w ++ [c])) t

def splitWords (t : Text) : Except SplitFault (List Text) := wordsFrom .between t

end Tangle.CommandLine
