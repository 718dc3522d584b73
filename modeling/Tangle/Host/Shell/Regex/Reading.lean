import Tangle.Host.Shell.Regex

/-! # Reading regular expressions

Expressions in their basic form, where most operators are written with a backslash, and in their extended
form. The dialects differ in what they make of operators that have nothing to work on. -/
namespace Tangle.Shell.Regex

/-- Whether operators are written with a backslash. -/
inductive Form where
  | basic
  | extended
deriving DecidableEq, Repr

structure Dialect where
  form : Form
  /-- Whether operators at the start of an expression are passed over. -/
  skipsOperators : Bool := false
  /-- Whether a brace that bounds nothing stands for itself. -/
  takesBraces : Bool := false
  /-- Whether a closing parenthesis may stand alone for itself. -/
  takesClosing : Bool := false

namespace Dialect

def basic : Dialect := { form := .basic }

/-- The extended form of conditions in the shell. -/
def extended : Dialect := { form := .extended, takesClosing := true }

/-- The extended form in searches. -/
def searching : Dialect := { form := .extended, skipsOperators := true, takesBraces := true }

/-- The extended form in edits. -/
def editing : Dialect := { form := .extended }

end Dialect

inductive Fault where
  | badClass
  | badSymbol
  | trailingBackslash
  | badReference
  | openBracket
  | openGroup
  | openBrace
  | badBound
  | badRange
  | badOperator
  | tooBig
  | lonelyClosing
deriving DecidableEq, Repr

def Fault.message : Fault → Text
  | badClass => "Invalid character class name"
  | badSymbol => "Invalid collation character"
  | trailingBackslash => "Trailing backslash"
  | badReference => "Invalid back reference"
  | openBracket => "Unmatched [, [^, [:, [., or [="
  | openGroup => "Unmatched ( or \\("
  | openBrace => "Unmatched \\\x7b"
  | badBound => "Invalid content of \\\x7b\\\x7d"
  | badRange => "Invalid range end"
  | badOperator => "Invalid preceding regular expression"
  | tooBig => "Regular expression too big"
  | lonelyClosing => "Unmatched ) or \\)"

/-! Sets -/

def classNames : List Text := [
  "alpha", "digit", "alnum", "upper", "lower", "space", "blank", "punct", "cntrl", "print", "graph", "xdigit"]

/-- The name between an opening such as `[:` and its closing, and what follows. -/
def enclosed (mark : Char) (gs : List Glyph) : Option (Text × List Glyph) :=
  go gs []
where
  go : List Glyph → Text → Option (Text × List Glyph)
    | a :: b :: rest, name =>
      if a.symbol.is mark && b.symbol.is ']' then some (name.reverse, rest) else go (b :: rest) (a.symbol :: name)
    | _, _ => none

/-- One end of a range, or all of a class. -/
def setElement : List Glyph → Except Fault (SetItem × List Glyph)
  | [] => .error .openBracket
  | g :: gs =>
    let mark? : Option Char := match gs with
      | h :: _ =>
        if !(g.is '[') then none
        else if h.is ':' then some ':' else if h.is '=' then some '=' else if h.is '.' then some '.' else none
      | [] => none
    match mark? with
    | none => .ok (.one g.symbol, gs)
    | some mark =>
      match enclosed mark (gs.drop 1) with
      | none => .error .openBracket
      | some (name, rest) =>
        if mark = ':' then if classNames.contains name then .ok (.named name, rest) else .error .badClass
        else match name with
          | [s] => .ok (.one s, rest)
          | _ => .error .badSymbol

/-- The items of a set up to its closing bracket. -/
def setItems : Nat → (isFirst : Bool) → List Glyph → Except Fault (List SetItem × List Glyph)
  | 0, _, _ => .error .openBracket
  | n + 1, isFirst, gs => do
    match gs with
    | [] => throw .openBracket
    | g :: rest =>
      if g.is ']' && !isFirst then return ([], rest)
      let (item, after) ← setElement gs
      match after with
      | d :: e :: more =>
        if d.is '-' && !e.is ']' then
          let (last, after) ← setElement (e :: more)
          match item, last with
          | .one a, .one b =>
            if b.rank < a.rank then throw .badRange
            let (items, after) ← setItems n false after
            return (.range a b :: items, after)
          | _, _ => throw .badRange
        let (items, after) ← setItems n false after
        return (item :: items, after)
      | _ =>
        let (items, after) ← setItems n false after
        return (item :: items, after)

/-- A set after its opening bracket. -/
def setOf (gs : List Glyph) : Except Fault (Regex × List Glyph) := do
  let isNegated := gs.head?.any (·.is '^')
  let (items, rest) ← setItems (gs.length + 1) true (if isNegated then gs.drop 1 else gs)
  return (.set isNegated items, rest)

/-! Operators -/

/-- What a sign means at the start of a text, with the number of symbols it takes. -/
inductive Sign where
  | openGroup
  | closeGroup
  | alternative
  | star
  | plus
  | optional
  | openBound
deriving DecidableEq, Repr

def sign? (f : Form) (gs : List Glyph) : Option (Sign × Nat) :=
  match gs with
  | a :: rest =>
    if a.isQuoted then none
    else if a.is '*' then some (.star, 1)
    else match f with
      | .extended => (signOf a).map (·, 1)
      | .basic =>
        match rest with
        | b :: _ => if a.is '\\' then (signOf b).map (·, 2) else none
        | [] => none
  | [] => none
where
  signOf (g : Glyph) : Option Sign :=
    match g.symbol with
    | .char '(' => some .openGroup
    | .char ')' => some .closeGroup
    | .char '|' => some .alternative
    | .char '+' => some .plus
    | .char '?' => some .optional
    | .char '\x7b' => some .openBound
    | _ => none

def numberOf (gs : List Glyph) : Option Nat × List Glyph :=
  let ds := gs.takeWhile fun g => g.symbol.isDigit
  let n := ds.foldl (fun n g => n * 10 + (match g.symbol with | .char c => c.toNat - '0'.toNat | _ => 0)) 0
  (if ds.isEmpty then none else some n, gs.drop ds.length)

/-- The greatest number that bounds a repetition. -/
def greatestBound : Nat := 32767

/-- The bounds of a repetition, behind the opening brace. -/
def boundsOf (f : Form) (gs : List Glyph) : Except Fault (Nat × Option Nat × List Glyph) := do
  if gs.isEmpty then throw .openBrace
  let (least, gs) := numberOf gs
  let (hasComma, most, gs) : Bool × Option Nat × List Glyph := match gs with
    | g :: rest => if g.is ',' then (true, numberOf rest) else (false, least, gs)
    | [] => (false, least, gs)
  let close : Option (List Glyph) := match f, gs with
    | .basic, a :: b :: rest => if a.is '\\' && b.is '\x7d' then some rest else none
    | .extended, a :: rest => if a.is '\x7d' then some rest else none
    | _, _ => none
  match close with
  | none => throw (if gs.isEmpty then .openBrace else .badBound)
  | some rest =>
    if least.isNone && !hasComma then throw .badBound
    let least := least.getD 0
    if most.any (· < least) then throw .badBound
    if greatestBound < max least (most.getD 0) then throw .tooBig
    return (least, most, rest)

/-- What a backslash and a symbol stand for together, if that is not the symbol itself. -/
def escaped? (s : Symbol) : Option Regex :=
  match s with
  | .char 'w' => some (.set false [.named "word"])
  | .char 'W' => some (.set true [.named "word"])
  | .char 's' => some (.set false [.named "space"])
  | .char 'S' => some (.set true [.named "space"])
  | .char '<' => some .wordStart
  | .char '>' => some .wordEnd
  | .char 'b' => some (.wordBound false)
  | .char 'B' => some (.wordBound true)
  | .char '\x60' => some .textStart
  | .char '\'' => some .textFinish
  | _ => none

def isAnchor : Regex → Bool
  | .start => true
  | .finish => true
  | .textStart => true
  | .textFinish => true
  | .wordStart => true
  | .wordEnd => true
  | .wordBound _ => true
  | _ => false

/-! Expressions -/

structure State where
  rest : List Glyph
  groups : Nat := 0
  /-- The groups that have been closed. -/
  closed : List Nat := []
  depth : Nat := 0

abbrev Parse := StateT State (Except Fault)

def dropGlyphs (k : Nat) : Parse Unit := modify fun s => { s with rest := s.rest.drop k }

/-- An element that is no group and no operator. -/
def element (d : Dialect) (isFirst : Bool) : Parse Regex := do
  match (← get).rest with
  | [] => return .group none []
  | g :: rest =>
    if g.isQuoted then dropGlyphs 1; return .exact g.symbol
    else if g.is '.' then dropGlyphs 1; return .any
    else if g.is '^' && (isFirst || d.form = .extended) then dropGlyphs 1; return .start
    else if g.is '$' && endsAt rest then dropGlyphs 1; return .finish
    else if g.is '[' then
      match setOf rest with
      | .error e => throw e
      | .ok (r, after) =>
        modify fun s => { s with rest := after }
        return r
    else if g.is '\\' then
      match rest with
      | [] => throw .trailingBackslash
      | h :: _ =>
        dropGlyphs 2
        if h.isQuoted then return .exact h.symbol
        match h.symbol with
        | .char c =>
          if '1' ≤ c && c ≤ '9' then
            let k := c.toNat - '0'.toNat
            if (← get).closed.contains k then return .back k else throw .badReference
          else return (escaped? h.symbol).getD (.exact h.symbol)
        | s => return .exact s
    else dropGlyphs 1; return .exact g.symbol
where
  endsAt (rest : List Glyph) : Bool :=
    match rest with
    | [] => true
    | _ => d.form = .extended || (match sign? d.form rest with
      | some (.closeGroup, _) => true
      | some (.alternative, _) => true
      | _ => false)

/-- The repetitions behind an element. -/
def repetitions (d : Dialect) : Nat → Regex → Parse Regex
  | 0, r => return r
  | n + 1, r => do
    let apply (k least : Nat) (most : Option Nat) : Parse Regex := do
      dropGlyphs k
      repetitions d n (.repeated r least most .greedy)
    match sign? d.form (← get).rest with
    | some (.star, k) => apply k 0 none
    | some (.plus, k) => apply k 1 none
    | some (.optional, k) => apply k 0 (some 1)
    | some (.openBound, k) =>
      match boundsOf d.form ((← get).rest.drop k) with
      | .ok (least, most, rest) =>
        modify fun s => { s with rest }
        repetitions d n (.repeated r least most .greedy)
      | .error e => if d.takesBraces && e ≠ .tooBig then return r else throw e
    | _ => return r

mutual

def alternatives (d : Dialect) : Nat → Parse (List (List Regex))
  | 0 => throw .tooBig
  | n + 1 => do
    let first ← sequence d n true
    match sign? d.form (← get).rest with
    | some (.alternative, k) =>
      dropGlyphs k
      return first :: (← alternatives d n)
    | _ => return [first]

/-- Elements up to the end of an alternative. `isFirst` tells whether nothing but anchors has come yet. -/
def sequence (d : Dialect) : Nat → (isFirst : Bool) → Parse (List Regex)
  | 0, _ => throw .tooBig
  | n + 1, isFirst => do
    let gs := (← get).rest
    if gs.isEmpty then return []
    /- A symbol that is an operator elsewhere stands for itself. -/
    let literal (k : Nat) : Parse (List Regex) := do
      let s := ((gs.drop (k - 1)).head?.map (·.symbol)).getD Symbol.nul
      dropGlyphs k
      let r ← repetitions d n (.exact s)
      return r :: (← sequence d n false)
    let operator (k : Nat) : Parse (List Regex) := do
      match d.form with
      | .basic => literal k
      | .extended =>
        if d.skipsOperators then
          dropGlyphs k
          sequence d n isFirst
        else throw .badOperator
    match sign? d.form gs with
    | some (.alternative, _) => return []
    | some (.closeGroup, k) =>
      if 0 < (← get).depth then return []
      if d.takesClosing then literal k else throw .lonelyClosing
    | some (.openGroup, k) =>
      dropGlyphs k
      let number := (← get).groups + 1
      modify fun s => { s with groups := number, depth := s.depth + 1 }
      let as ← alternatives d n
      match sign? d.form (← get).rest with
      | some (.closeGroup, k) => dropGlyphs k
      | _ => throw .openGroup
      modify fun s => { s with depth := s.depth - 1, closed := number :: s.closed }
      let r ← repetitions d n (.group (some number) as)
      return r :: (← sequence d n false)
    | some (.openBound, k) =>
      if d.takesBraces then
        match boundsOf d.form (gs.drop k) with
        | .ok (_, _, rest) =>
          modify fun s => { s with rest }
          sequence d n isFirst
        | .error _ => literal k
      else throw .badOperator
    | some (_, k) => operator k
    | none =>
      let single ← element d isFirst
      if isAnchor single then return single :: (← sequence d n true)
      let r ← repetitions d n single
      return r :: (← sequence d n false)

end

/-- Reads an expression. -/
def read (d : Dialect) (gs : List Glyph) : Except Fault Regex := do
  let (as, _) ← (alternatives d (4 * gs.length + 10)).run { rest := gs }
  return .group none as

end Tangle.Shell.Regex
