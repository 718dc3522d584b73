import Tangle.Host.Shell.Regex.Reading
import Tangle.Host.Shell.Argument

/-! # Scripts of edits

The language in which edits of a stream of lines are written. Every step has the lines that it applies to,
and what is done to them. A script that cannot be read is refused at the symbol at which that became clear. -/
namespace Tangle.Shell.Program.Script
open Run

/-- An expression with the way in which it is matched; without one, the last that was used is meant. -/
structure Expression where
  regex? : Option Regex
  rules : Regex.Rules := {}

inductive Address where
  | line (n : Nat)
  | last
  | matching (e : Expression)
  /-- Every line so many behind the one before, from one on. -/
  | every (first step : Nat)
  /-- So many lines further on. -/
  | further (n : Nat)
  /-- The next line whose number is a multiple. -/
  | multiple (n : Nat)

/-- How letters are changed from some place in a replacement on. -/
inductive Recase where
  | upper
  | lower
  | nextUpper
  | nextLower
  | off
deriving DecidableEq

inductive Part where
  | literal (s : Symbol)
  | group (n : Nat)
  | recase (c : Recase)

structure Substitution where
  expression : Expression
  parts : List Part
  isGlobal : Bool := false
  /-- The number of the first match that is replaced. -/
  number : Nat := 1
  prints : Bool := false
  evaluates : Bool := false
  file : Option Text := none

inductive Jump where
  | always
  | ifReplaced
  | unlessReplaced
deriving DecidableEq

inductive Action where
  | nothing
  | openBlock
  | closeBlock
  | label (t : Text)
  | jump (j : Jump) (label : Text)
  | substitute (s : Substitution)
  | transliterate (from_ into : Text)
  | append (t : Text)
  | insert (t : Text)
  | change (t : Text)
  | delete
  | deleteFirst
  | evaluate (command : Text)
  | fileName
  | fetch (appends : Bool)
  | hold (appends : Bool)
  | exchange
  | list (width : Option Nat)
  | lineNumber
  | next
  | nextAppended
  | print
  | printFirst
  | quit (status : Nat) (isQuiet : Bool)
  | readFile (path : Text)
  | readLine (path : Text)
  | writeSpace (path : Text)
  | writeFirst (path : Text)
  | clear

structure Step where
  first : Option Address := none
  second : Option Address := none
  isNegated : Bool := false
  action : Action

/-! Reading -/

/-- What is wrong with a script, and how much of it was left then. -/
structure Fault where
  left : Option Nat
  message : Text

/-- What is left of a script. -/
structure State where
  rest : Text
  dialect : Regex.Dialect

abbrev Parse := StateT State (Except Fault)

def fail {α : Type} (message : Text) : Parse α := do throw ⟨some (← get).rest.length, message⟩

def unknown {α : Type} (s : Symbol) : Parse α := fail ("unknown command: \x60" ++ ([s] : Text) ++ "'")

def next? : Parse (Option Symbol) := do
  match (← get).rest with
  | [] => return none
  | s :: t =>
    modify fun st => { st with rest := t }
    return some s

def putBack (s : Symbol) : Parse Unit := modify fun st => { st with rest := s :: st.rest }

def isBlank (s : Symbol) : Bool := s.isAnyOf " \t"
def isSpace (s : Symbol) : Bool := s.isAnyOf " \t\n\r\x0b\x0c"

def dropWhile (p : Symbol → Bool) : Parse Unit := modify fun st => { st with rest := st.rest.dropWhile p }

/-- The next symbol that is no blank. -/
def nextFilled? : Parse (Option Symbol) := do
  dropWhile isBlank
  next?

def takeWhile (p : Symbol → Bool) : Parse Text := do
  let t := (← get).rest.takeWhile p
  modify fun st => { st with rest := st.rest.drop t.length }
  return t

/-- The symbol that a numeric escape stands for, and what follows it. -/
def numeric (base width : Nat) (digits : String) (t : Text) : Option (Symbol × Text) :=
  let ds := (t.take width).takeWhile (·.isAnyOf digits)
  if ds.isEmpty then none
  else
    let n := ds.foldl (fun n s => n * base + (Escape.digitValue s).getD 0) 0 % 256
    some (if n < 128 then .char (Char.ofNat n) else .byte n.toUInt8, t.drop ds.length)

/-- The symbol that an escape stands for, and what follows it. -/
def escape? (t : Text) : Option (Symbol × Text) :=
  match t with
  | .char 'a' :: r => some (.char '\x07', r)
  | .char 'f' :: r => some (.char '\x0c', r)
  | .char 'n' :: r => some (.char '\n', r)
  | .char 'r' :: r => some (.char '\r', r)
  | .char 't' :: r => some (.char '\t', r)
  | .char 'v' :: r => some (.char '\x0b', r)
  | .char 'c' :: .char c :: r => some (.char (Char.ofNat ((c.toUpper.toNat) ^^^ 64)), r)
  | .char 'd' :: r => numeric 10 3 "0123456789" r
  | .char 'o' :: r => numeric 8 3 "01234567" r
  | .char 'x' :: r => numeric 16 2 "0123456789abcdefABCDEF" r
  | _ => none

/-- An expression with its escapes resolved. -/
def glyphs : Nat → Text → List Glyph
  | 0, _ => []
  | _, [] => []
  | n + 1, .char '\\' :: t =>
    match escape? t with
    | some (s, rest) => ⟨s, true⟩ :: glyphs n rest
    | none =>
      match t with
      | s :: rest => ⟨.char '\\', false⟩ :: ⟨s, false⟩ :: glyphs n rest
      | [] => [⟨.char '\\', false⟩]
  | n + 1, s :: t => ⟨s, false⟩ :: glyphs n t

/-- The text up to a delimiter, before which a backslash is dropped. Nothing if the delimiter does not come. -/
def upTo (isExpression : Bool) (delimiter : Symbol) : Nat → Parse (Option Text)
  | 0 => return none
  | n + 1 => do
    match ← next? with
    | none => return none
    | some s =>
      if s = delimiter then return some []
      else if s = Symbol.newline && isExpression then
        putBack s
        return none
      else if !s.is '\\' then return (← upTo isExpression delimiter n).map (s :: ·)
      else
        match ← next? with
        | none => return none
        | some e =>
          let head : Text :=
            if e = delimiter && !(!isExpression && e.is '&') then [e]
            else if e.is 'n' && isExpression then [Symbol.newline]
            else if e = Symbol.newline then [e]
            else [s, e]
          return (← upTo isExpression delimiter n).map (head ++ ·)

def delimited (isExpression : Bool) (delimiter : Symbol) (message : Text) : Parse Text := do
  match ← upTo isExpression delimiter ((← get).rest.length + 1) with
  | some t => return t
  | none => fail message

/-- An expression, empty for the last one that was used. -/
def expression (t : Text) (ignoresCase isMultiline : Bool) : Parse Expression := do
  if t.isEmpty then
    if ignoresCase || isMultiline then fail "cannot specify modifiers on empty regexp"
    return { regex? := none }
  match Regex.read (← get).dialect (glyphs (t.length + 1) t) with
  | .ok r => return { regex? := some r, rules := { ignoresCase, isMultiline } }
  | .error e => fail e.message

def number : Parse Nat := do return naturalOf (← takeWhile Symbol.isDigit)

/-- The flags behind the expression of an address: whether case is ignored, and whether lines are told apart. -/
def addressFlags : Nat → Bool × Bool → Parse (Bool × Bool)
  | 0, flags => return flags
  | n + 1, flags => do
    dropWhile isBlank
    match (← get).rest with
    | .char 'I' :: t =>
      modify fun st => { st with rest := t }
      addressFlags n (true, flags.2)
    | .char 'M' :: t =>
      modify fun st => { st with rest := t }
      addressFlags n (flags.1, true)
    | _ => return flags

/-- An address that begins with a symbol, if it is one. -/
def address? (s : Symbol) (isSecond : Bool) : Parse (Option Address) := do
  let matching (delimiter : Symbol) : Parse (Option Address) := do
    let t ← delimited true delimiter "unterminated address regex"
    let (ignoresCase, isMultiline) ← addressFlags 20 (false, false)
    return some (.matching (← expression t ignoresCase isMultiline))
  match s with
  | .char '/' => matching s
  | .char '\\' =>
    match ← next? with
    | some d => matching d
    | none => fail "unexpected \x60,'"
  | .char '$' => return some .last
  | .char '+' =>
    if !isSecond then fail "unknown command: \x60+'"
    return some (.further (← number))
  | .char '~' =>
    if !isSecond then fail "unknown command: \x60~'"
    return some (.multiple (← number))
  | s =>
    if !s.isDigit then return none
    putBack s
    let first ← number
    dropWhile isBlank
    match (← get).rest with
    | .char '~' :: t =>
      modify fun st => { st with rest := t }
      dropWhile isBlank
      let step ← number
      return some (if step = 0 then .line first else .every first step)
    | _ => return some (.line first)

/-- The end of a command. -/
def endOfCommand : Parse Unit := do
  match ← nextFilled? with
  | none => return
  | some s =>
    if s.isAnyOf "\x7d#" then putBack s
    else if s.isAnyOf "\n;\r" then return
    else fail "extra characters after command"

def label (stops : String) : Parse Text := do
  dropWhile isBlank
  takeWhile fun s => !s.isAnyOf stops

def path : Parse Text := do
  dropWhile isBlank
  let t ← takeWhile (· ≠ Symbol.newline)
  let _ ← next?
  if t.isEmpty then fail "missing filename in r/R/w/W commands"
  return t

/-- The lines of a text, as long as each ends in a backslash. -/
def textLines : Nat → Parse Text
  | 0 => return []
  | n + 1 => do
    match ← next? with
    | none => return []
    | some s =>
      if s = Symbol.newline then return []
      else if !s.is '\\' then return s :: (← textLines n)
      else
        match escape? (← get).rest with
        | some (e, rest) =>
          modify fun st => { st with rest }
          return e :: (← textLines n)
        | none =>
          match ← next? with
          | none => return []
          | some e => return e :: (← textLines n)

/-- The text that is appended, inserted or put in place of lines. -/
def givenText : Parse Text := do
  match ← nextFilled? with
  | none => fail "expected \\ after \x60a', \x60c' or \x60i'"
  | some s =>
    if s.is '\\' then
      let t := (← get).rest
      match t.dropWhile isBlank with
      | .char '\n' :: rest => modify fun st => { st with rest }
      | [] => fail "expected \\ after \x60a', \x60c' or \x60i'"
      | _ => pure ()
    else putBack s
    return (← textLines ((← get).rest.length + 1)) ++ [Symbol.newline]

/-- The parts of a replacement. -/
def replacement : Nat → Text → List Part
  | 0, _ => []
  | _, [] => []
  | n + 1, .char '&' :: t => .group 0 :: replacement n t
  | n + 1, .char '\\' :: s :: t =>
    let recase (c : Recase) : List Part := .recase c :: replacement n t
    match s with
    | .char 'U' => recase .upper
    | .char 'L' => recase .lower
    | .char 'E' => recase .off
    | .char 'u' => recase .nextUpper
    | .char 'l' => recase .nextLower
    | s =>
      if s.isDigit then .group ((Escape.digitValue s).getD 0) :: replacement n t
      else match escape? (s :: t) with
        | some (e, rest) => .literal e :: replacement n rest
        | none => .literal s :: replacement n t
  | n + 1, s :: t => .literal s :: replacement n t

structure Flags where
  isGlobal : Bool := false
  number : Option Nat := none
  prints : Bool := false
  ignoresCase : Bool := false
  isMultiline : Bool := false
  evaluates : Bool := false
  file : Option Text := none

def substitutionFlags : Nat → Flags → Parse Flags
  | 0, f => return f
  | n + 1, f => do
    match ← next? with
    | none => return f
    | some s =>
      match s with
      | .char 'g' =>
        if f.isGlobal then fail "multiple \x60g' options to \x60s' command"
        substitutionFlags n { f with isGlobal := true }
      | .char 'p' =>
        if f.prints then fail "multiple \x60p' options to \x60s' command"
        substitutionFlags n { f with prints := true }
      | .char 'i' => substitutionFlags n { f with ignoresCase := true }
      | .char 'I' => substitutionFlags n { f with ignoresCase := true }
      | .char 'm' => substitutionFlags n { f with isMultiline := true }
      | .char 'M' => substitutionFlags n { f with isMultiline := true }
      | .char 'e' => substitutionFlags n { f with evaluates := true }
      | .char 'w' => return { f with file := some (← path) }
      | s =>
        if s.isDigit then
          if f.number.isSome then fail "multiple number options to \x60s' command"
          putBack s
          let k ← number
          if k = 0 then fail "number option to \x60s' command may not be zero"
          substitutionFlags n { f with number := some k }
        else if s.isAnyOf "\x7d#" then
          putBack s
          return f
        else if s.isAnyOf "\n;" then return f
        else if isSpace s then substitutionFlags n f
        else fail "unknown option to \x60s'"

def substitution : Parse Substitution := do
  let message : Text := "unterminated \x60s' command"
  match ← next? with
  | none => fail message
  | some d =>
    if d = Symbol.newline || d.is '\\' then fail message
    let re ← delimited true d message
    let by_ ← delimited false d message
    let f ← substitutionFlags ((← get).rest.length + 1) {}
    let e ← expression re f.ignoresCase f.isMultiline
    let parts := replacement (by_.length + 1) by_
    for p in parts do
      match p, e.regex? with
      | .group k, some r =>
        if Regex.countGroups r < k then
          fail ("invalid reference \\" ++ Text.ofNat k ++ " on \x60s' command's RHS")
      | _, _ => pure ()
    return {
      expression := e, parts, isGlobal := f.isGlobal, number := f.number.getD 1, prints := f.prints
      evaluates := f.evaluates, file := f.file }

/-- The symbols of one side of a transliteration. -/
def plainSymbols : Text → Text
  | .char '\\' :: .char '\\' :: t => .char '\\' :: plainSymbols t
  | .char '\\' :: .char 'n' :: t => Symbol.newline :: plainSymbols t
  | .char '\\' :: .char 't' :: t => .char '\t' :: plainSymbols t
  | s :: t => s :: plainSymbols t
  | [] => []

def transliteration : Parse Action := do
  let message : Text := "unterminated \x60y' command"
  match ← next? with
  | none => fail message
  | some d =>
    let from_ := plainSymbols (← delimited false d message)
    let into := plainSymbols (← delimited false d message)
    if from_.length ≠ into.length then fail "strings for \x60y' command are different lengths"
    endOfCommand
    return .transliterate from_ into

/-- The number behind a command, if there is one. -/
def count? : Parse (Option Nat) := do
  dropWhile isBlank
  let ds ← takeWhile Symbol.isDigit
  endOfCommand
  return if ds.isEmpty then none else some (naturalOf ds)

/-- What a command does, behind its letter. -/
def action (c : Char) (hasTwo : Bool) : Parse Action := do
  let plain (a : Action) : Parse Action := do
    endOfCommand
    return a
  match c with
  | '\x7b' => return .openBlock
  | '\x7d' => plain .closeBlock
  | '=' => plain .lineNumber
  | 'a' => return .append (← givenText)
  | 'i' => return .insert (← givenText)
  | 'c' => return .change (← givenText)
  | ':' =>
    let t ← label " \t\n\r;"
    if t.isEmpty then fail "\":\" lacks a label"
    return .label t
  | 'b' => jump .always
  | 't' => jump .ifReplaced
  | 'T' => jump .unlessReplaced
  | 'd' => plain .delete
  | 'D' => plain .deleteFirst
  | 'e' =>
    dropWhile isBlank
    let t ← takeWhile (· ≠ Symbol.newline)
    return .evaluate t
  | 'F' => plain .fileName
  | 'g' => plain (.fetch false)
  | 'G' => plain (.fetch true)
  | 'h' => plain (.hold false)
  | 'H' => plain (.hold true)
  | 'x' => plain .exchange
  | 'l' => return .list (← count?)
  | 'n' => plain .next
  | 'N' => plain .nextAppended
  | 'p' => plain .print
  | 'P' => plain .printFirst
  | 'q' => ending false
  | 'Q' => ending true
  | 'r' => return .readFile (← path)
  | 'R' => return .readLine (← path)
  | 's' => return .substitute (← substitution)
  | 'v' =>
    let _ ← label " \t\n\r;"
    endOfCommand
    return .nothing
  | 'w' => return .writeSpace (← path)
  | 'W' => return .writeFirst (← path)
  | 'y' => transliteration
  | 'z' => plain .clear
  | c => unknown (.char c)
where
  jump (j : Jump) : Parse Action := do
    let t ← label " \t\n\r;\x7d"
    endOfCommand
    return .jump j t
  ending (isQuiet : Bool) : Parse Action := do
    if hasTwo then fail "command only uses one address"
    return .quit ((← count?).getD 0) isQuiet

/-- The addresses before a command, with the symbol that it begins with. -/
def addresses (s : Symbol) : Parse (Option Address × Option Address × Option Symbol) := do
  match ← address? s false with
  | none => return (none, none, some s)
  | some a =>
    match ← nextFilled? with
    | some (.char ',') =>
      match ← nextFilled? with
      | none => fail "unexpected \x60,'"
      | some s =>
        match ← address? s true with
        | none => fail "unexpected \x60,'"
        | some b =>
          match a, b with
          | .line 0, .matching _ => pure ()
          | .line 0, _ => fail "invalid usage of line address 0"
          | _, _ => pure ()
          return (some a, some b, ← nextFilled?)
    | s =>
      match a with
      | .line 0 => fail "invalid usage of line address 0"
      | _ => return (some a, none, s)

/-- The steps of a script. `depth` is the number of open blocks. -/
def steps : Nat → (depth : Nat) → Parse (List Step)
  | 0, _ => return []
  | n + 1, depth => do
    dropWhile fun s => isSpace s || s.is ';'
    match ← next? with
    | none =>
      if 0 < depth then throw ⟨none, "unmatched \x60\x7b'"⟩
      return []
    | some (.char '#') =>
      dropWhile (· ≠ Symbol.newline)
      steps n depth
    | some s =>
      let (first, second, s?) ← addresses s
      let (isNegated, s?) : Bool × Option Symbol ← match s? with
        | some (.char '!') => do
          let s? ← nextFilled?
          if s? = some (.char '!') then fail "multiple \x60!'s"
          pure (true, s?)
        | s? => pure (false, s?)
      match s? with
      | none => fail "missing command"
      | some (.byte b) => unknown (.byte b)
      | some (.lone c) => unknown (.lone c)
      | some (.char c) =>
        if c = '\x7d' then
          if depth = 0 then fail "unexpected \x60\x7d'"
          if first.isSome then fail "\x7d doesn't want any addresses"
        if c = ':' && first.isSome then fail ": doesn't want any addresses"
        if c = '#' && first.isSome then fail "comments don't accept any addresses"
        if c = '\n' || c = ';' then fail "missing command"
        let a ← action c second.isSome
        let depth := if c = '\x7b' then depth + 1 else if c = '\x7d' then depth - 1 else depth
        return { first, second, isNegated, action := a } :: (← steps n depth)

/-- The steps of a script. -/
def read (dialect : Regex.Dialect) (t : Text) : Except Fault (List Step) :=
  ((steps (t.length + 1) 0).run { rest := t, dialect }).map (·.1)

/-- For every step that opens a block, the number of the step that closes it. -/
def blockEnds (ss : List Step) : List (Nat × Nat) :=
  (ss.zipIdx.foldl (fun (acc : List Nat × List (Nat × Nat)) (s, i) =>
    match s.action, acc.1 with
    | .openBlock, opened => (i :: opened, acc.2)
    | .closeBlock, o :: opened => (opened, (o, i) :: acc.2)
    | _, _ => acc) ([], [])).2

/-- The numbers of the steps that bear labels. -/
def labels (ss : List Step) : List (Text × Nat) :=
  ss.zipIdx.filterMap fun (s, i) => match s.action with
    | .label t => some (t, i)
    | _ => none

/-- A label that is jumped to but stands nowhere. -/
def missingLabel? (ss : List Step) : Option Text :=
  ss.findSome? fun s => match s.action with
    | .jump _ t => if t.isEmpty || ((labels ss).lookup t).isSome then none else some t
    | _ => none

end Tangle.Shell.Program.Script
