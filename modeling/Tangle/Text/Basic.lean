/-! # Text

A text is a list of symbols. A symbol is a character, or one byte that belongs to no encoded
character and stands for itself, or one half of a pair of units, which has no bytes at all. -/
namespace Tangle

/-! A power of numbers is the same term whether or not monoids are in scope. -/

@[default_instance 20001]
instance (priority := 2000) powNat : Pow Nat Nat := instPowNat
@[default_instance 20000]
instance (priority := 2000) powInt : Pow Int Nat := instPowNat

/-- A code point of the range of surrogates that stands for no byte. -/
structure Surrogate where
  codePoint : Nat
  inRange : 0xD800 ≤ codePoint ∧ codePoint < 0xDC00 ∨ 0xDD00 ≤ codePoint ∧ codePoint < 0xE000
deriving DecidableEq, Repr

/-- A byte has the code point U+DC00 + byte. Bytes below 0x80 always belong to a character, so that such a
code point is then a surrogate like the others. -/
inductive Symbol where
  | char (c : Char)
  | byte (b : UInt8)
  | lone (s : Surrogate)
deriving DecidableEq, Inhabited, Repr

abbrev Text := List Symbol
abbrev Bytes := List UInt8

def Text.ofString (s : String) : Text := s.toList.map .char

instance : Coe String Text := ⟨Text.ofString⟩

namespace Symbol

def newline : Symbol := .char '\n'
def nul : Symbol := .char '\x00'

def is (c : Char) : Symbol → Bool
  | .char d => c == d
  | .byte _ | .lone _ => false

theorem is_iff {s : Symbol} {c : Char} : s.is c = true ↔ s = .char c := by
  cases s with
  | char d => rw [is, beq_iff_eq, char.injEq, eq_comm]
  | byte _ | lone _ => simp [is]

/-- Holds of a character that satisfies `p`, and of nothing else. -/
@[inline] def holds (p : Char → Bool) : Symbol → Bool
  | .char c => p c
  | .byte _ | .lone _ => false

@[inline] def isAnyOf (set : String) (s : Symbol) : Bool := s.holds (set.toList.contains ·)

def isDigit : Symbol → Bool := holds Char.isDigit

/-- A letter, digit or underscore of the ASCII range. -/
def isIdentifier : Symbol → Bool := holds fun c => c.isAlphanum || c == '_'

def isIdentifierStart : Symbol → Bool := holds fun c => c.isAlpha || c == '_'

/-- The code point of a symbol, which is its place in the order of texts. -/
def rank : Symbol → Nat
  | .char c => c.toNat
  | .byte b => 0xDC00 + b.toNat
  | .lone s => s.codePoint

/-- The symbol of a code point, if there is one. -/
def ofCodePoint? (n : Nat) : Option Symbol :=
  if n.isValidChar then some (.char (.ofNat n))
  else if 0xDC00 ≤ n ∧ n < 0xDD00 then some (.byte (n - 0xDC00).toUInt8)
  else if h : 0xD800 ≤ n ∧ n < 0xDC00 ∨ 0xDD00 ≤ n ∧ n < 0xE000 then some (.lone ⟨n, h⟩)
  else none

/-- Holds of the symbols that have bytes of their own. -/
def isEncodable : Symbol → Bool
  | .char _ => true
  | .byte b => 0x80 ≤ b
  | .lone _ => false

end Symbol

namespace Text

def decideEq : (a b : Text) → Decidable (a = b)
  | [], [] => .isTrue rfl
  | [], _ :: _ => .isFalse nofun
  | _ :: _, [] => .isFalse nofun
  | x :: a, y :: b =>
    if h : x = y then
      match decideEq a b with
      | .isTrue e => .isTrue (by rw [h, e])
      | .isFalse e => .isFalse fun he => e (List.cons.inj he).2
    else .isFalse fun he => h (List.cons.inj he).1

instance : DecidableEq (List Symbol) := decideEq

def ofNat (n : Nat) : Text := ofString (toString n)
def ofInt (n : Int) : Text := ofString (toString n)

def startsWith (t head : Text) : Bool := head.isPrefixOf t
def endsWith (t tail : Text) : Bool := tail.isSuffixOf t

/-- The rest of `t` after `head`, if `t` begins with it. -/
def after? : (t head : Text) → Option Text
  | t, [] => some t
  | [], _ :: _ => none
  | b :: t, a :: head => if a = b then after? t head else none

theorem after?_eq_some_iff {t head r : Text} : after? t head = some r ↔ t = head ++ r := by
  induction head generalizing t with
  | nil => simp [after?, eq_comm]
  | cons a head ih =>
    cases t with
    | nil => simp [after?]
    | cons b t =>
      by_cases h : a = b
      · simp [after?, h, ih]
      · simpa [after?, h] using fun hb _ => h hb.symm

/-- Whether `inner` stands somewhere in `t`. -/
def hasInside (inner : Text) : (t : Text) → Bool
  | [] => inner.isEmpty
  | s :: t => inner.isPrefixOf (s :: t) || hasInside inner t

/-- The lines of a text, each with the newline that ends it; only the last may lack one. -/
def lines : Text → List Text
  | [] => []
  | c :: rest =>
    if c = Symbol.newline then [c] :: lines rest
    else match lines rest with
      | [] => [[c]]
      | l :: ls => (c :: l) :: ls

@[simp] theorem lines_flatten (t : Text) : (lines t).flatten = t := by
  induction t with
  | nil => rfl
  | cons c rest ih =>
    rw [lines]
    split
    · simp [ih]
    · split <;> simp_all

/-- The pieces of a text between the symbols of class `p`: one more than there are such symbols. -/
def piecesBy (p : Symbol → Bool) : Text → List Text
  | [] => [[]]
  | c :: rest =>
    if p c then [] :: piecesBy p rest
    else match piecesBy p rest with
      | [] => [[c]]
      | l :: ls => (c :: l) :: ls

def pieces (sep : Symbol) (t : Text) : List Text := piecesBy (· == sep) t

/-- The order of texts by the ranks of their symbols. -/
def le : Text → Text → Bool
  | [], _ => true
  | _ :: _, [] => false
  | a :: s, b :: t => a.rank < b.rank || (a == b && le s t)

def join (sep : Text) (ts : List Text) : Text := sep.intercalate ts

def trimStartBy (p : Symbol → Bool) (t : Text) : Text := t.dropWhile p
def trimEndBy (p : Symbol → Bool) (t : Text) : Text := (t.reverse.dropWhile p).reverse
def trimBy (p : Symbol → Bool) (t : Text) : Text := trimEndBy p (trimStartBy p t)

/-- The maximal runs of symbols outside the class `p`. -/
def wordsBy (p : Symbol → Bool) (t : Text) : List Text := (piecesBy p t).filter (!·.isEmpty)

def endsInNewline (t : Text) : Bool := t.getLast? == some Symbol.newline

/-- The text with a newline supplied at its end, unless it is empty or has one. -/
def terminated (t : Text) : Text :=
  if t.isEmpty || t.endsInNewline then t else t ++ [Symbol.newline]

def spaces (n : Nat) : Text := List.replicate n (.char ' ')

/-- The text with blanks before it, so that it is at least so wide. -/
def padStart (width : Nat) (t : Text) : Text := spaces (width - t.length) ++ t

/-- The text with blanks behind it, so that it is at least so wide. -/
def padEnd (width : Nat) (t : Text) : Text := t ++ spaces (width - t.length)

def replaceAll (c : Symbol) (by_ : Text) (t : Text) : Text :=
  t.flatMap fun d => if d = c then by_ else [d]

def ofChars (cs : List Char) : Text := cs.map .char

/-- The characters of a text, if it holds nothing else. -/
def chars? : Text → Option (List Char)
  | [] => some []
  | .char c :: t => (chars? t).map (c :: ·)
  | .byte _ :: _ | .lone _ :: _ => none

/-- The text as a string, with a mark in place of each symbol that is no character. -/
def toDisplayString (t : Text) : String :=
  String.ofList (t.map fun | .char c => c | _ => '\ufffd')

/-- Whether a text can be written as bytes. -/
def isEncodable (t : Text) : Bool := t.all Symbol.isEncodable

@[simp] theorem isEncodable_ofString (s : String) : (ofString s).isEncodable = true := by
  simp [isEncodable, ofString, Symbol.isEncodable]

@[simp] theorem isEncodable_append (t u : Text) : (t ++ u).isEncodable = (t.isEncodable && u.isEncodable) :=
  List.all_append

end Text
end Tangle
