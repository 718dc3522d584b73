import Tangle.Text.Display

/-! # Here-documents

A statement that feeds a text to a command line by line, up to a delimiter that no line of the text
equals. The delimiter is quoted, so the text is not expanded. -/
namespace Tangle.Heredoc

/-- The candidate delimiters: the base, then the base with a counter. -/
def candidate (base : Text) : Nat → Text
  | 0 => base
  | n + 1 => base ++ "_" ++ Text.ofNat (n + 1)

def firstFree (base : Text) (lines : List Text) (n : Nat) : Nat → Text
  | 0 => candidate base n
  | fuel + 1 =>
    if candidate base n ∈ lines then firstFree base lines (n + 1) fuel else candidate base n

/-- The first candidate that is no line of the content. The candidates differ from each other, so
one more of them than there are lines is enough. -/
def delimiter (content base : Text) : Text :=
  let lines := Text.pieces Symbol.newline content
  firstFree base lines 0 lines.length

/-- The fault of a delimiter that cannot be quoted on one line. -/
structure Fault where
  delimiter : Text
deriving DecidableEq, Repr

def Fault.message (f : Fault) : Text := "unusable heredoc delimiter: " ++ f.delimiter.display

def isUsable (delimiter : Text) : Bool := !delimiter.any fun s => s.is '\'' || s.is '\n'

def statement (head content delimiter : Text) : Except Fault Text :=
  if isUsable delimiter then
    .ok (head ++ " <<'" ++ delimiter ++ "'\n" ++ content.terminated ++ delimiter ++ "\n")
  else .error ⟨delimiter⟩

end Tangle.Heredoc
