import Tangle.Host.Shell.Regex.Reading
import Tangle.Shell.Escape

/-! # The rich form of regular expressions

Expressions with looks ahead and behind, modest repetition, named groups and settings that hold from some
place on. Every expression has a preferred match. -/
namespace Tangle.Shell.Regex.Perl

/-- What has been set for the expression that follows. -/
structure Settings where
  ignoresCase : Bool := false
  isMultiline : Bool := false
  dotsAll : Bool := false
  isSpaced : Bool := false

structure State where
  rest : Text
  settings : Settings := {}
  groups : Nat := 0
  names : List (Text × Nat) := []

abbrev Parse := StateT State Option

def take? : Parse (Option Symbol) := do
  match (← get).rest with
  | [] => return none
  | s :: t =>
    modify fun st => { st with rest := t }
    return some s

def skip (k : Nat) : Parse Unit := modify fun s => { s with rest := s.rest.drop k }

/-- Passes over a text if it comes next. -/
def accept (head : Text) : Parse Bool := do
  if (← get).rest.startsWith head then
    skip head.length
    return true
  return false

/-- A text up to a closing symbol, which is passed over. -/
def upTo (close : Char) : Parse Text := do
  let t := (← get).rest.takeWhile (!·.is close)
  guard (t.length < (← get).rest.length)
  skip (t.length + 1)
  return t

def decimal (t : Text) : Nat := (numberOf (Glyph.ofText false t)).1.getD 0

def hexValue (t : Text) : Nat := t.foldl (fun n s => n * 16 + (Escape.digitValue s).getD 0) 0

def digitItems : List SetItem := [.range (.char '0') (.char '9')]
def spaceItems : List SetItem := [.one (.char ' '), .range (.char '\t') (.char '\r')]
def wordItems : List SetItem := [
  .range (.char 'a') (.char 'z'), .range (.char 'A') (.char 'Z'), .range (.char '0') (.char '9'), .one (.char '_')]
def blankItems : List SetItem := [.one (.char ' '), .one (.char '\t')]
def lineItems : List SetItem := [.range (.char '\n') (.char '\r')]

/-- The items behind a backslash and a letter, with whether all others are meant. -/
def shorthand? (s : Symbol) : Option (Bool × List SetItem) :=
  match s with
  | .char 'd' => some (false, digitItems)
  | .char 'D' => some (true, digitItems)
  | .char 's' => some (false, spaceItems)
  | .char 'S' => some (true, spaceItems)
  | .char 'w' => some (false, wordItems)
  | .char 'W' => some (true, wordItems)
  | .char 'h' => some (false, blankItems)
  | .char 'H' => some (true, blankItems)
  | .char 'v' => some (false, lineItems)
  | .char 'V' => some (true, lineItems)
  | .char 'N' => some (true, [.one Symbol.newline])
  | _ => none

/-- The items of a property, by its name. -/
def propertyItems? (name : Text) : Option (List SetItem) :=
  match name.toDisplayString with
  | "L" => some [.named "alpha"]
  | "Lu" => some [.named "upper"]
  | "Ll" => some [.named "lower"]
  | "N" => some [.named "digit"]
  | "Nd" => some [.named "digit"]
  | "P" => some [.named "punct"]
  | _ => none

/-- The symbol that an escape stands for, behind its letter. -/
def escapedSymbol (c : Char) : Parse (Option Symbol) := do
  match c with
  | 'n' => return some (.char '\n')
  | 't' => return some (.char '\t')
  | 'r' => return some (.char '\r')
  | 'f' => return some (.char '\x0c')
  | 'e' => return some (.char '\x1b')
  | 'a' => return some (.char '\x07')
  | '0' =>
    let ds := ((← get).rest.take 2).takeWhile (·.isAnyOf "01234567")
    skip ds.length
    return some (.char (Char.ofNat (ds.foldl (fun n s => n * 8 + (Escape.digitValue s).getD 0) 0)))
  | 'x' =>
    if ← accept "\x7b" then
      let ds ← upTo '\x7d'
      return some (.char (Char.ofNat (hexValue ds)))
    else
      let ds := ((← get).rest.take 2).takeWhile (·.isAnyOf "0123456789abcdefABCDEF")
      skip ds.length
      return some (.char (Char.ofNat (hexValue ds)))
  | c => if c.isAlphanum then return none else return some (.char c)

/-- The class that a shorthand for what is outside it names. -/
def className (s : Symbol) : Text :=
  match s with
  | .char 'D' => "digit"
  | .char 'S' => "space"
  | .char 'W' => "word"
  | _ => "blank"

/-- The items of a set up to its closing bracket. -/
def setItems : Nat → (isFirst : Bool) → Parse (List SetItem)
  | 0, _ => failure
  | n + 1, isFirst => do
    match ← take? with
    | none => failure
    | some s =>
      if s.is ']' && !isFirst then return []
      let items : List SetItem ← do
        if s.is '[' && (← get).rest.head?.any (·.is ':') then
          match enclosed ':' (Glyph.ofText false ((← get).rest.drop 1)) with
          | some (name, rest) =>
            modify fun st => { st with rest := Glyph.text rest }
            match name with
            | .char '^' :: name => pure [SetItem.outside name]
            | _ => pure [SetItem.named name]
          | none => pure [SetItem.one s]
        else if s.is '\\' then
          match ← take? with
          | none => failure
          | some e =>
            match shorthand? e, e with
            | some (false, items), _ => pure items
            | some (true, _), _ => pure [SetItem.outside (className e)]
            | none, .char 'b' => pure [SetItem.one (.char '\x08')]
            | none, .char c => pure [SetItem.one ((← escapedSymbol c).getD e)]
            | none, _ => pure [SetItem.one e]
        else pure [SetItem.one s]
      match items, (← get).rest with
      | [.one a], .char '-' :: e :: _ =>
        if e.is ']' then return items ++ (← setItems n false)
        skip 2
        let last : Symbol ← match e with
          | .char '\\' => do
            match ← take? with
            | some (.char c) => pure ((← escapedSymbol c).getD (.char c))
            | _ => failure
          | e => pure e
        guard (a.rank ≤ last.rank)
        return .range a last :: (← setItems n false)
      | _, _ => return items ++ (← setItems n false)

def setOf : Parse Regex := do
  let isNegated ← accept "^"
  return .set isNegated (← setItems ((← get).rest.length + 1) true)

/-- A symbol, in both of its cases if that is set. -/
def symbolOf (s : Symbol) : Parse Regex := do
  if (← get).settings.ignoresCase && s.toLower != s.toUpper then
    return .set false [.one s.toLower, .one s.toUpper]
  else return .exact s

/-- A reference to a group, by its number or name. -/
def reference (t : Text) : Parse Regex := do
  match t with
  | .char '-' :: ds =>
    let k := (← get).groups + 1 - decimal ds
    return .back k
  | _ =>
    if !t.isEmpty && t.all Symbol.isDigit then return .back (decimal t)
    match (← get).names.lookup t with
    | some k => return .back k
    | none => failure

/-- An element behind a backslash. -/
def escape : Parse Regex := do
  match ← take? with
  | none => failure
  | some s =>
    match shorthand? s, s with
    | some (isNegated, items), _ => return .set isNegated items
    | none, .char 'b' => return .wordBound false
    | none, .char 'B' => return .wordBound true
    | none, .char 'A' => return .textStart
    | none, .char 'G' => return .textStart
    | none, .char 'z' => return .textFinish
    | none, .char 'Z' => return .textFinish
    | none, .char 'K' => return .keep
    | none, .char 'R' => return .set false lineItems
    | none, .char 'g' =>
      if ← accept "\x7b" then reference (← upTo '\x7d')
      else
        let ds := (← get).rest.takeWhile Symbol.isDigit
        skip ds.length
        reference ds
    | none, .char 'k' =>
      if ← accept "<" then reference (← upTo '>')
      else if ← accept "\x7b" then reference (← upTo '\x7d')
      else if ← accept "'" then reference (← upTo '\'')
      else failure
    | none, .char 'p' => property false
    | none, .char 'P' => property true
    | none, .char c =>
      if '1' ≤ c && c ≤ '9' then return .back (c.toNat - '0'.toNat)
      match ← escapedSymbol c with
      | some s => symbolOf s
      | none => failure
    | none, s => return .exact s
where
  property (isNegated : Bool) : Parse Regex := do
    let name ← if ← accept "\x7b" then upTo '\x7d' else do
      match ← take? with
      | some s => pure [s]
      | none => failure
    match propertyItems? name with
    | some items => return .set isNegated items
    | none => failure

/-- Settings such as `i-s`, up to the symbol behind them. -/
def readSettings : Nat → (isOn : Bool) → Parse Unit
  | 0, _ => return
  | n + 1, isOn => do
    let change (f : Settings → Settings) : Parse Unit := do
      skip 1
      modify fun s => { s with settings := f s.settings }
      readSettings n isOn
    match (← get).rest.head? with
    | some (.char 'i') => change fun s => { s with ignoresCase := isOn }
    | some (.char 'm') => change fun s => { s with isMultiline := isOn }
    | some (.char 's') => change fun s => { s with dotsAll := isOn }
    | some (.char 'x') => change fun s => { s with isSpaced := isOn }
    | some (.char '-') =>
      skip 1
      readSettings n false
    | _ => return

/-- The repetitions behind an element. -/
def repetition (r : Regex) : Parse Regex := do
  let t := (← get).rest
  let bounds? : Option (Nat × Option Nat × Nat) := match t with
    | .char '*' :: _ => some (0, none, 1)
    | .char '+' :: _ => some (1, none, 1)
    | .char '?' :: _ => some (0, some 1, 1)
    | .char '\x7b' :: inner =>
      if inner.head?.any Symbol.isDigit then
        match boundsOf .extended (Glyph.ofText false inner) with
        | .ok (least, most, rest) => some (least, most, t.length - rest.length)
        | .error _ => none
      else none
    | _ => none
  match bounds? with
  | none => return r
  | some (least, most, k) =>
    skip k
    if ← accept "?" then return .repeated r least most .modest
    if ← accept "+" then return .once [[.repeated r least most .greedy]]
    return .repeated r least most .greedy

mutual

def alternatives : Nat → Parse (List (List Regex))
  | 0 => failure
  | n + 1 => do
    let before := (← get).settings
    let first ← sequence n
    if ← accept "|" then
      modify fun s => { s with settings := { before with ignoresCase := s.settings.ignoresCase } }
      return first :: (← alternatives n)
    return [first]

def sequence : Nat → Parse (List Regex)
  | 0 => failure
  | n + 1 => do
    let settings := (← get).settings
    match (← get).rest with
    | [] => return []
    | .char '|' :: _ => return []
    | .char ')' :: _ => return []
    | .char '(' :: _ =>
      skip 1
      match ← group n with
      | none => sequence n
      | some r =>
        let r ← repetition r
        return r :: (← sequence n)
    | .char '\\' :: .char 'Q' :: _ =>
      skip 2
      let rs ← quotedRun n
      return rs ++ (← sequence n)
    | .char '\\' :: .char 'E' :: _ =>
      skip 2
      sequence n
    | s :: _ =>
      if settings.isSpaced && s.holds isBlankChar then
        skip 1
        return ← sequence n
      if settings.isSpaced && s.is '#' then
        skip ((← get).rest.takeWhile (· ≠ Symbol.newline)).length
        return ← sequence n
      guard (!s.isAnyOf "*+?")
      skip 1
      let r : Regex ←
        if s.is '.' then pure (if settings.dotsAll then Regex.any else .set true [.one Symbol.newline])
        else if s.is '^' then pure (if settings.isMultiline then Regex.start else .textStart)
        else if s.is '$' then pure (if settings.isMultiline then Regex.finish else .textFinish)
        else if s.is '[' then setOf
        else if s.is '\\' then escape
        else symbolOf s
      let r ← repetition r
      return r :: (← sequence n)

/-- The symbols between `\Q` and `\E`. -/
def quotedRun : Nat → Parse (List Regex)
  | 0 => failure
  | n + 1 => do
    if ← accept "\\E" then return []
    match ← take? with
    | none => return []
    | some s =>
      let r ← symbolOf s
      return r :: (← quotedRun n)

/-- A group behind its opening parenthesis; nothing if it only sets something. -/
def group : Nat → Parse (Option Regex)
  | 0 => failure
  | n + 1 => do
    let before := (← get).settings
    let inside : Parse (List (List Regex)) := do
      let as ← alternatives n
      guard (← accept ")")
      modify fun s => { s with settings := before }
      return as
    let numbered (name : Option Text) : Parse (Option Regex) := do
      let k := (← get).groups + 1
      modify fun s => { s with groups := k, names := name.toList.map (·, k) ++ s.names }
      return some (.group (some k) (← inside))
    if ← accept "?:" then return some (.group none (← inside))
    else if ← accept "?|" then return some (.group none (← inside))
    else if ← accept "?=" then return some (.look true false (← inside))
    else if ← accept "?!" then return some (.look true true (← inside))
    else if ← accept "?<=" then return some (.look false false (← inside))
    else if ← accept "?<!" then return some (.look false true (← inside))
    else if ← accept "?>" then return some (.once (← inside))
    else if ← accept "?#" then
      let _ ← upTo ')'
      return none
    else if ← accept "?<" then numbered (some (← upTo '>'))
    else if ← accept "?P<" then numbered (some (← upTo '>'))
    else if ← accept "?'" then numbered (some (← upTo '\''))
    else if ← accept "?P=" then return some (← reference (← upTo ')'))
    else if ← accept "?" then
      readSettings 20 true
      if ← accept ")" then return none
      guard (← accept ":")
      return some (.group none (← inside))
    else numbered none

end

/-- Reads an expression. -/
def read (t : Text) : Option Regex := do
  let (as, s) ← (alternatives (8 * t.length + 20)).run { rest := t }
  guard s.rest.isEmpty
  return .group none as

end Tangle.Shell.Regex.Perl
