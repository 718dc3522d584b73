import Tangle.Shell.Command
import Tangle.Shell.Escape

/-! # Alternatives in braces

A word with alternatives or a sequence between braces stands for several words. Only unquoted braces and
commas count; the other parts of the word are kept whole. -/
namespace Tangle.Shell.Brace

inductive Atom where
  | symbol (s : Symbol)
  | part (p : Part)

namespace Atom

def is (c : Char) : Atom → Bool
  | symbol s => s.is c
  | part _ => false

def ofParts : List Part → List Atom
  | [] => []
  | .plain t :: ps => t.map symbol ++ ofParts ps
  | p :: ps => part p :: ofParts ps

def toParts : List Atom → List Part
  | [] => []
  | symbol s :: as =>
    match toParts as with
    | .plain t :: ps => .plain (s :: t) :: ps
    | ps => .plain [s] :: ps
  | part p :: as => p :: toParts as

def text? : List Atom → Option Text
  | [] => some []
  | symbol s :: as => (text? as).map (s :: ·)
  | part _ :: _ => none

end Atom

/-- What stands before the brace that closes an open one, cut at the commas outside inner braces, and
what stands after it. -/
def alternatives : Nat → List Atom → Option (List (List Atom) × List Atom)
  | _, [] => none
  | depth, a :: as =>
    if a.is '\x7d' && depth = 0 then some ([[]], as)
    else if a.is ',' && depth = 0 then (alternatives depth as).map fun (xs, r) => ([] :: xs, r)
    else
      let depth := if a.is '\x7b' then depth + 1 else if a.is '\x7d' then depth - 1 else depth
      (alternatives depth as).map fun
        | (x :: xs, r) => ((a :: x) :: xs, r)
        | ([], r) => ([[a]], r)

def integer? (t : Text) : Option Int :=
  let (sign, ds) := match t with
    | .char '-' :: ds => ((-1 : Int), ds)
    | .char '+' :: ds => (1, ds)
    | ds => (1, ds)
  if ds.isEmpty || !ds.all Symbol.isDigit then none
  else some (sign * ds.foldl (fun n d => n * 10 + (Escape.digitValue d).getD 0) 0)

/-- The text cut at every `..`. -/
def dotted : Text → List Text
  | [] => [[]]
  | .char '.' :: .char '.' :: t => [] :: dotted t
  | s :: t =>
    match dotted t with
    | [] => [[s]]
    | x :: xs => (s :: x) :: xs

/-- The numbers from `a` to `b` in steps of the size of `step`. -/
def range (a b step : Int) : List Int :=
  let size : Nat := if step = 0 then 1 else step.natAbs
  let count := (b - a).natAbs / size + 1
  (List.range count).map fun (i : Nat) => if a ≤ b then a + (i * size : Nat) else a - (i * size : Nat)

def isPadded (t : Text) : Bool :=
  match t with
  | .char '-' :: .char '0' :: _ :: _ => true
  | .char '0' :: _ :: _ => true
  | _ => false

/-- A number with zeros before it up to a width. -/
def padded (width : Nat) (n : Int) : Text :=
  let ds := Text.ofNat n.natAbs
  let sign : Text := if n < 0 then "-" else ""
  sign ++ List.replicate (width - sign.length - ds.length) (.char '0') ++ ds

def letterSequence (a b : Char) (step : Int) : List Text :=
  (range a.toNat b.toNat step).map fun n => [Symbol.char (Char.ofNat n.toNat)]

/-- The texts of a sequence, if this is one. -/
def sequence? (t : Text) : Option (List Text) :=
  let make (a b : Text) (step : Int) : Option (List Text) :=
    match integer? a, integer? b with
    | some x, some y =>
      let width := if isPadded a || isPadded b then max a.length b.length else 0
      some ((range x y step).map (padded width))
    | _, _ =>
      match a, b with
      | [.char c], [.char d] =>
        if c.isAlpha && d.isAlpha then some (letterSequence c d step) else none
      | _, _ => none
  match dotted t with
  | [a, b] => make a b 1
  | [a, b, s] => (integer? s).bind (make a b)
  | _ => none

/-- A text of a sequence as a word; a backslash by itself quotes nothing and leaves an empty word. -/
def member (t : Text) : List Atom := if t = ("\\" : Text) then [.part (.quoted [])] else t.map .symbol

def expand : Nat → List Atom → List (List Atom)
  | 0, as => [as]
  | _, [] => [[]]
  | n + 1, a :: as =>
    if !a.is '\x7b' then (expand n as).map (a :: ·)
    else
      let choices : Option (List (List Atom) × List Atom) :=
        match alternatives 0 as with
        | some ([x], rest) =>
          ((Atom.text? x).bind sequence?).map fun ts => (ts.map member, rest)
        | some (xs, rest) => some (xs.flatMap (expand n), rest)
        | none => none
      match choices with
      | some (xs, rest) =>
        let ends := expand n rest
        xs.flatMap fun x => ends.map (x ++ ·)
      | none => (expand n as).map (a :: ·)

/-- The words that a word stands for. -/
def words (ps : List Part) : List (List Part) :=
  let hasBrace := ps.any fun
    | .plain t => t.any (·.is '\x7b')
    | _ => false
  if hasBrace then
    let as := Atom.ofParts ps
    (expand (as.length + 1) as).map Atom.toParts
  else [ps]

end Tangle.Shell.Brace
