import Tangle.Text.Basic

/-! # Blanks and line ends

The classes of blank symbols. `Symbol.isBlank` is the Unicode white space with the four
information separators; `Symbol.isLineBlank` is the four blanks that can surround a fence;
`Symbol.isLineEnd` are the characters that end a line in any convention. -/
namespace Tangle

def isBlankChar (c : Char) : Bool :=
  let n := c.toNat
  (0x09 ≤ n && n ≤ 0x0D) || (0x1C ≤ n && n ≤ 0x20) || n == 0x85 || n == 0xA0 || n == 0x1680 ||
  (0x2000 ≤ n && n ≤ 0x200A) || n == 0x2028 || n == 0x2029 || n == 0x202F || n == 0x205F ||
  n == 0x3000

namespace Symbol

def isBlank : Symbol → Bool := holds isBlankChar

def isLineBlank : Symbol → Bool
  | .char ' ' | .char '\t' | .char '\r' | .char '\n' => true
  | _ => false

def isLineEnd : Symbol → Bool := holds fun c =>
  let n := c.toNat
  (0x0A ≤ n && n ≤ 0x0D) || (0x1C ≤ n && n ≤ 0x1E) || n == 0x85 || n == 0x2028 || n == 0x2029

theorem isBlank_of_isLineBlank {s : Symbol} (h : s.isLineBlank = true) : s.isBlank = true := by
  unfold isLineBlank at h
  split at h <;> first | rfl | simp at h

end Symbol

namespace Text

def trim (t : Text) : Text := trimBy Symbol.isBlank t
def trimEnd (t : Text) : Text := trimEndBy Symbol.isBlank t
def trimLine (t : Text) : Text := trimBy Symbol.isLineBlank t
def words (t : Text) : List Text := wordsBy Symbol.isBlank t
def isBlank (t : Text) : Bool := t.all Symbol.isBlank

/-- The lines of a text without their ends, under any line-end convention; a carriage return
before a newline is one end with it. -/
def bareLines : Text → List Text
  | [] => []
  | .char '\r' :: .char '\n' :: rest => [] :: bareLines rest
  | c :: rest =>
    if c.isLineEnd then [] :: bareLines rest
    else match bareLines rest, rest with
      | l :: ls, _ :: _ => (c :: l) :: ls
      | ls, _ => [c] :: ls

end Text

/-- The characters of a text file, in which a line may end in a carriage return, a newline, or both, with a
newline at the end of every line. -/
def newlinesOnly : List Char → List Char
  | '\r' :: '\n' :: cs => '\n' :: newlinesOnly cs
  | '\r' :: cs => '\n' :: newlinesOnly cs
  | c :: cs => c :: newlinesOnly cs
  | [] => []

end Tangle
