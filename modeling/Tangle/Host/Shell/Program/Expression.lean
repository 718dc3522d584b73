import Tangle.Host.Shell.Program.Source
import Tangle.Host.Shell.Regex.Reading

/-! # Expressions as arguments

The program whose arguments are the words of an expression. It is evaluated as it is read; the operand that an
operator does not need is read without being evaluated. -/
namespace Tangle.Shell.Program
open Run

/-- The arguments that are left, and the last one that was taken. -/
structure Terms where
  last : Text := []
  rest : List Text

abbrev TermReader := StateT Terms (Except Text)

namespace TermReader

/-- Takes the next argument if it is a certain word. -/
def isNext (word : Text) : TermReader Bool := do
  match (← get).rest with
  | t :: rest =>
    if t = word then
      set ({ last := t, rest } : Terms)
      return true
    else return false
  | [] => return false

/-- Takes the next argument if it is one of some words. -/
def nextOf (words : List String) : TermReader (Option Text) := do
  match (← get).rest with
  | t :: rest =>
    if words.any fun (w : String) => t = (w : Text) then
      set ({ last := t, rest } : Terms)
      return some t
    else return none
  | [] => return none

def take : TermReader Text := do
  let s ← get
  match s.rest with
  | t :: rest =>
    set ({ last := t, rest } : Terms)
    return t
  | [] => throw ("syntax error: missing argument after " ++ curved s.last)

def close : TermReader Unit := do
  let s ← get
  match s.rest with
  | [] => throw ("syntax error: expecting ')' after " ++ curved s.last)
  | t :: _ => if !(← isNext ")") then throw ("syntax error: expecting ')' instead of " ++ curved t)

end TermReader

/-! Values -/

def wholeNumber? : Text → Option Int
  | .char '-' :: ds => (natural? ds).map fun n => -(n : Int)
  | ds => (natural? ds).map fun n => (n : Int)

/-- Whether a value counts as false: it is empty, or all zeros. -/
def isNull (t : Text) : Bool :=
  match t with
  | [] => true
  | .char '-' :: ds => !ds.isEmpty && ds.all (·.is '0')
  | ds => ds.all (·.is '0')

def truthText (b : Bool) : Text := if b then "1" else "0"

/-- What a match at the start of a text comes to: its length, or what its group holds. -/
def anchored (t pattern : Text) : Except Text Text :=
  match Regex.read .basic (Glyph.ofText false pattern) with
  | .error f => .error f.message
  | .ok r =>
    let hasGroups := 0 < Regex.countGroups r
    match Regex.atStart r {} t with
    | some m => .ok (if hasGroups then (m.group? t 1).getD [] else Text.ofNat m.last)
    | none => .ok (if hasGroups then [] else "0")

/-- The tests that an operator stands for. -/
def isTrue (op : Text) (o : Ordering) : Bool :=
  match op.toDisplayString with
  | "=" => o == .eq
  | "==" => o == .eq
  | "!=" => o != .eq
  | "<" => o == .lt
  | "<=" => o != .gt
  | ">" => o == .gt
  | _ => o != .lt

def termOrder (a b : Text) : Ordering :=
  match wholeNumber? a, wholeNumber? b with
  | some x, some y => compare x y
  | _, _ => if a.encode = b.encode then .eq else if bytesLe a.encode b.encode then .lt else .gt

def arithmeticOn (op a b : Text) : Except Text Text :=
  match wholeNumber? a, wholeNumber? b with
  | some x, some y =>
    match op.toDisplayString with
    | "+" => .ok (Text.ofInt (x + y))
    | "-" => .ok (Text.ofInt (x - y))
    | "*" => .ok (Text.ofInt (x * y))
    | "/" => if y = 0 then .error "division by zero" else .ok (Text.ofInt (Int.tdiv x y))
    | _ => if y = 0 then .error "division by zero" else .ok (Text.ofInt (Int.tmod x y))
  | _, _ => .error "non-integer argument"

/-- A part of a text; nothing if a bound is no number or the part lies outside. -/
def partOf (t position length : Text) : Text :=
  match wholeNumber? position, wholeNumber? length with
  | some p, some l => if p < 1 || l < 1 then [] else (t.drop (p.toNat - 1)).take l.toNat
  | _, _ => []

/-! Reading -/

/-- The operators between two operands, the loosest first. -/
def operatorLevels : List (List String) :=
  [["|"], ["&"], ["<", "<=", "=", "==", "!=", ">=", ">"], ["+", "-"], ["*", "/", "%"], [":"]]

/-- The value of an operator that needs both operands. -/
def combined (op a b : Text) : Except Text Text :=
  if op = (":" : Text) then anchored a b
  else if ["+", "-", "*", "/", "%"].any fun (o : String) => op = (o : Text) then arithmeticOn op a b
  else .ok (truthText (isTrue op (termOrder a b)))

mutual

/-- Reads operands joined by the operators of some levels. -/
def readLevel : Nat → List (List String) → (evaluates : Bool) → TermReader Text
  | 0, _, _ => throw ("syntax error" : Text)
  | n + 1, [], evaluates => readTerm n evaluates
  | n + 1, level :: tighter, evaluates => do
    let a ← readLevel n tighter evaluates
    readFollowing n level tighter evaluates a

def readFollowing : Nat → List String → List (List String) → (evaluates : Bool) → Text → TermReader Text
  | 0, _, _, _, _ => throw ("syntax error" : Text)
  | n + 1, level, tighter, evaluates, a => do
    match ← TermReader.nextOf level with
    | none => return a
    | some op =>
      if op = ("|" : Text) then
        let b ← readLevel n tighter (evaluates && isNull a)
        readFollowing n level tighter evaluates (if !isNull a then a else if isNull b then "0" else b)
      else if op = ("&" : Text) then
        let b ← readLevel n tighter (evaluates && !isNull a)
        readFollowing n level tighter evaluates (if isNull a || isNull b then "0" else a)
      else
        let b ← readLevel n tighter evaluates
        let c ← if evaluates then
            match combined op a b with
            | .ok c => pure c
            | .error e => throw e
          else pure a
        readFollowing n level tighter evaluates c

/-- Reads an operand: a word, what stands between parentheses, or a function with its arguments. -/
def readTerm : Nat → (evaluates : Bool) → TermReader Text
  | 0, _ => throw ("syntax error" : Text)
  | n + 1, evaluates => do
    match ← TermReader.nextOf ["+", "length", "match", "index", "substr", "(", ")"] with
    | none => TermReader.take
    | some word =>
      match word.toDisplayString with
      | "+" => TermReader.take
      | "length" => return Text.ofNat (← readTerm n evaluates).length
      | "match" =>
        let a ← readTerm n evaluates
        let b ← readTerm n evaluates
        if !evaluates then return a
        match anchored a b with
        | .ok t => return t
        | .error e => throw e
      | "index" =>
        let a ← readTerm n evaluates
        let b ← readTerm n evaluates
        return Text.ofNat (((a.findIdx? b.contains).map (· + 1)).getD 0)
      | "substr" =>
        let a ← readTerm n evaluates
        let p ← readTerm n evaluates
        return partOf a p (← readTerm n evaluates)
      | "(" =>
        let a ← readLevel n operatorLevels evaluates
        TermReader.close
        return a
      | _ => throw ("syntax error: unexpected ')'" : Text)

end

/-- The value of the expression that some words make. -/
def valueOfWords (words : List Text) : Except Text Text := do
  let (t, s) ← (readLevel (20 * words.length + 40) operatorLevels true).run { rest := words }
  match s.rest with
  | [] => return t
  | w :: _ => throw ("syntax error: unexpected argument " ++ curved w)

def expr (args : List Text) : Run Nat := do
  match withoutMark args with
  | [] => misuse "expr" 2 "missing operand"
  | words =>
    if words = [("--version" : Text)] then return ← say "expr (GNU coreutils) 9.1\n"
    match valueOfWords words with
    | .error e => die "expr" 2 e
    | .ok t =>
      put "expr" (t ++ "\n")
      return if isNull t then 1 else 0

end Tangle.Shell.Program
