import Tangle.Text.LetterCase
import Tangle.Text.Blank

/-! # Patterns

The patterns that names and texts are matched against. A quoted symbol stands for itself. Matching
follows the set of all rests that a beginning of the pattern can leave, so it never backtracks. -/
namespace Tangle.Shell

/-- A symbol of a word after expansion, and whether it was quoted. -/
structure Glyph where
  symbol : Symbol
  isQuoted : Bool
deriving DecidableEq, Repr

namespace Glyph

def is (c : Char) (g : Glyph) : Bool := !g.isQuoted && g.symbol.is c

def ofText (isQuoted : Bool) (t : Text) : List Glyph := t.map (⟨·, isQuoted⟩)

def text (gs : List Glyph) : Text := gs.map (·.symbol)

end Glyph

inductive SetItem where
  | one (s : Symbol)
  | range (first last : Symbol)
  | named (name : Text)
  /-- What is not in a class. -/
  | outside (name : Text)
deriving DecidableEq, Repr

inductive Pattern where
  | exact (s : Symbol)
  | anyOne
  | anyRun
  | set (isNegated : Bool) (items : List SetItem)
  | group (mark : Char) (alternatives : List (List Pattern))
deriving Repr

namespace SetItem

def classOf (name : Text) (c : Char) : Bool :=
  let n := c.toNat
  let isPunctuation := 0x21 ≤ n && n ≤ 0x7E && !c.isAlphanum
  match name.toDisplayString with
  | "alpha" => c.isAlpha || (0xAA ≤ n && !isBlankChar c)
  | "digit" => c.isDigit
  | "alnum" => c.isAlphanum || (0xAA ≤ n && !isBlankChar c)
  | "upper" => (Symbol.char c).isUpper
  | "lower" => (Symbol.char c).isLower
  | "space" => isBlankChar c && n ≠ 0xA0
  | "blank" => c == ' ' || c == '\t'
  | "punct" => isPunctuation
  | "cntrl" => n < 0x20 || n == 0x7F
  | "print" => 0x20 ≤ n && n ≠ 0x7F
  | "graph" => 0x20 < n && n ≠ 0x7F
  | "xdigit" => c.isDigit || ('a' ≤ c && c ≤ 'f') || ('A' ≤ c && c ≤ 'F')
  | "word" => c.isAlphanum || c == '_'
  | _ => false

def holds (s : Symbol) : SetItem → Bool
  | one t => s == t
  | range a b => a.rank ≤ s.rank && s.rank ≤ b.rank
  | named n => s.holds (classOf n)
  | outside n => !s.holds (classOf n)

end SetItem

namespace Pattern

/-- The name of a class after its opening, and the rest. -/
def className (gs : List Glyph) : Option (Text × List Glyph) :=
  let name := gs.takeWhile fun g => g.symbol.isIdentifier
  match gs.drop name.length with
  | a :: b :: rest => if a.is ':' && b.is ']' then some (Glyph.text name, rest) else none
  | _ => none

/-- The items of a set up to its closing bracket. -/
def setItems : Nat → (isFirst : Bool) → List Glyph → Option (List SetItem × List Glyph)
  | 0, _, _ => none
  | _, _, [] => none
  | n + 1, isFirst, g :: gs =>
    if g.is ']' && !isFirst then some ([], gs)
    else
      let named := match gs with
        | h :: rest => if g.is '[' && h.is ':' then className rest else none
        | [] => none
      match named with
      | some (name, rest) => (setItems n false rest).map fun (is, r) => (.named name :: is, r)
      | none =>
        match gs with
        | d :: e :: rest =>
          if d.is '-' && !e.is ']' then
            (setItems n false rest).map fun (is, r) => (.range g.symbol e.symbol :: is, r)
          else (setItems n false gs).map fun (is, r) => (.one g.symbol :: is, r)
        | _ => (setItems n false gs).map fun (is, r) => (.one g.symbol :: is, r)

/-- A set after its opening bracket. -/
def set? (gs : List Glyph) : Option (Pattern × List Glyph) :=
  match gs with
  | g :: rest =>
    if g.is '!' || g.is '^' then
      (setItems (gs.length + 1) true rest).map fun (is, r) => (set true is, r)
    else (setItems (gs.length + 1) true gs).map fun (is, r) => (set false is, r)
  | [] => none

/-- The alternatives of a group up to its closing parenthesis, not yet read. -/
def alternatives : Nat → Nat → List Glyph → Option (List (List Glyph) × List Glyph)
  | 0, _, _ => none
  | _, _, [] => none
  | n + 1, depth, g :: gs =>
    if g.is ')' && depth = 0 then some ([[]], gs)
    else if g.is '|' && depth = 0 then (alternatives n depth gs).map fun (as, r) => ([] :: as, r)
    else
      let depth := if g.is '(' then depth + 1 else if g.is ')' then depth - 1 else depth
      (alternatives n depth gs).map fun (as, r) =>
        match as with
        | a :: as => ((g :: a) :: as, r)
        | [] => ([[g]], r)

def isGroupMark (g : Glyph) : Bool := !g.isQuoted && g.symbol.isAnyOf "?*+@!"

def groupChar (g : Glyph) : Char :=
  match g.symbol with
  | .char c => c
  | _ => '@'

/-- Reads a pattern. Groups are read only if `extended` is set. -/
def read (extended : Bool) : Nat → List Glyph → List Pattern
  | 0, _ => []
  | _, [] => []
  | n + 1, g :: gs =>
    let group := match gs with
      | p :: rest => if extended && isGroupMark g && p.is '(' then alternatives (rest.length + 1) 0 rest else none
      | [] => none
    match group with
    | some (as, rest) => .group (groupChar g) (as.map (read extended n)) :: read extended n rest
    | none =>
      if g.is '*' then .anyRun :: read extended n gs
      else if g.is '?' then .anyOne :: read extended n gs
      else if g.is '[' then
        match set? gs with
        | some (p, rest) => p :: read extended n rest
        | none => .exact g.symbol :: read extended n gs
      else .exact g.symbol :: read extended n gs

def ofGlyphs (extended : Bool) (gs : List Glyph) : List Pattern := read extended (gs.length + 1) gs

/-- Drops the rests that are as long as an earlier one. They are suffixes of one text, so texts of
one length are equal. -/
def distinct (ts : List Text) : List Text :=
  (ts.foldl (fun (acc : List Nat × List Text) t =>
    let n := t.length
    if acc.1.contains n then acc else (n :: acc.1, t :: acc.2)) ([], [])).2.reverse

def suffixes : Text → List Text
  | [] => [[]]
  | s :: t => (s :: t) :: suffixes t

def longest : List Text → Option Text
  | [] => none
  | t :: ts => some (ts.foldl (fun a b => if a.length < b.length then b else a) t)

def fold (ignoreCase : Bool) (s : Symbol) : Symbol := if ignoreCase then s.toLower else s

def setHolds (ignoreCase : Bool) (items : List SetItem) (s : Symbol) : Bool :=
  items.any fun i => i.holds s || (ignoreCase && (i.holds s.toLower || i.holds s.toUpper))

def step (p : Symbol → Bool) (ts : List Text) : List Text :=
  ts.filterMap fun
    | s :: t => if p s then some t else none
    | [] => none

/-- The rests that repetition of a step can leave. -/
def closure (f : List Text → List Text) : Nat → List Text → List Text
  | 0, ts => ts
  | n + 1, ts =>
    let more := distinct (ts ++ f ts)
    if more.length ≤ ts.length then ts else closure f n more

/-- The rests that a pattern can leave of some texts. -/
def rests (ignoreCase : Bool) : Nat → List Pattern → List Text → List Text
  | 0, _, _ => []
  | _, [], ts => ts
  | n + 1, p :: ps, ts =>
    if ts.isEmpty then []
    else
      let after := match p with
        | .exact s => step (fun x => fold ignoreCase x == fold ignoreCase s) ts
        | .anyOne => step (fun _ => true) ts
        | .anyRun => (longest ts).elim [] suffixes
        | .set isNegated items => step (fun x => setHolds ignoreCase items x != isNegated) ts
        | .group mark as =>
          let once (us : List Text) : List Text :=
            distinct (as.flatMap fun a => rests ignoreCase n a us)
          match mark with
          | '?' => distinct (ts ++ once ts)
          | '*' => closure once (ts.foldl (fun m t => max m t.length) 0 + 1) (distinct ts)
          | '+' => closure once (ts.foldl (fun m t => max m t.length) 0 + 1) (once ts)
          | '!' => distinct (ts.flatMap fun t =>
              (suffixes t).filter fun r => !(once [t]).any (·.length == r.length))
          | _ => once ts
      rests ignoreCase n ps after

/-- More steps than a pattern has elements at any depth. -/
def size (ps : List Pattern) : Nat := ps.length + 1000

def restsOf (ps : List Pattern) (ignoreCase : Bool) (t : Text) : List Text :=
  rests ignoreCase (size ps) ps [t]

def isMatch (ps : List Pattern) (ignoreCase : Bool) (t : Text) : Bool :=
  (restsOf ps ignoreCase t).any (·.isEmpty)

/-- The text without the beginning that matches, the longest or the shortest. -/
def trimStart (ps : List Pattern) (isLongest : Bool) (t : Text) : Text :=
  match restsOf ps false t with
  | [] => t
  | r :: rs =>
    if isLongest then rs.foldl (fun a b => if b.length < a.length then b else a) r
    else rs.foldl (fun a b => if a.length < b.length then b else a) r

/-- The text without the end that matches, the longest or the shortest. -/
def trimEnd (ps : List Pattern) (isLongest : Bool) (t : Text) : Text :=
  let ends := if isLongest then suffixes t else (suffixes t).reverse
  match ends.find? (isMatch ps false) with
  | some e => t.take (t.length - e.length)
  | none => t

/-- The shortest rest after the longest match at the start of a text. -/
def longestMatch (ps : List Pattern) (ignoreCase : Bool) (t : Text) : Option Text :=
  match restsOf ps ignoreCase t with
  | [] => none
  | r :: rs => some (rs.foldl (fun a b => if b.length < a.length then b else a) r)

/-- Puts the result of `by_` in place of every match that is not empty. -/
def replaceAll (ps : List Pattern) (by_ : Text → Text) : Nat → Text → Text
  | 0, t => t
  | _, [] => []
  | n + 1, s :: t =>
    match longestMatch ps false (s :: t) with
    | some r =>
      if r.length < t.length + 1 then
        by_ ((s :: t).take (t.length + 1 - r.length)) ++ replaceAll ps by_ n r
      else s :: replaceAll ps by_ n t
    | none => s :: replaceAll ps by_ n t

def replaceFirst (ps : List Pattern) (by_ : Text → Text) : Text → Text
  | [] => []
  | s :: t =>
    match longestMatch ps false (s :: t) with
    | some r =>
      if r.length < t.length + 1 then by_ ((s :: t).take (t.length + 1 - r.length)) ++ r
      else s :: replaceFirst ps by_ t
    | none => s :: replaceFirst ps by_ t

/-- Whether a word can match more than itself. -/
def isActive (extended : Bool) (gs : List Glyph) : Bool :=
  (ofGlyphs extended gs).any fun
    | .exact _ => false
    | _ => true

end Pattern
end Tangle.Shell
