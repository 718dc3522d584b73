import Tangle.Shell.Reading.Word

/-! # Reading commands

Commands are read by descent through the grammar. A here-document is read at the first newline behind
the command that it belongs to. A unit is what is read before anything of it is run: the commands up
to a newline. -/
namespace Tangle.Shell.Read

/-- The commands whose arguments may be assignments. -/
def declarers : List String := ["declare", "typeset", "local", "export", "readonly"]

def isDeclarer (t : Text) : Bool := declarers.any fun (w : String) => t = (w : Text)

/-- The words that end a list of commands. -/
def closers : List String := ["then", "else", "elif", "fi", "do", "done", "esac", "\x7d"]

/-- Whether a word belongs inside a command and cannot begin one. -/
def isReservedInside (t : Text) : Bool := t = ("in" : Text) || closers.any fun (c : String) => t = (c : Text)

def isUnary (t : Text) : Bool :=
  match t with
  | [.char '-', s] => s.isAnyOf "abcdefghknoprstuvwxzGLNORS"
  | _ => false

def comparisons : List String :=
  ["=", "==", "!=", "=~", "-eq", "-ne", "-lt", "-le", "-gt", "-ge", "-nt", "-ot", "-ef"]

/-- The lines of a here-document up to its delimiter, and the rest behind it, if it is there. -/
def documentLines (d : Awaited) : Nat → Text → Text × Option Text
  | 0, _ => ([], none)
  | _, [] => ([], none)
  | n + 1, t =>
    let line := t.takeWhile (· ≠ Symbol.newline)
    let bare := if d.stripsTabs then line.dropWhile (·.is '\t') else line
    let after := t.drop (line.length + 1)
    if bare = d.delimiter then ([], some after)
    else
      let more : Text := if line.length < t.length then [Symbol.newline] else []
      let (body, r) := documentLines d n after
      (bare ++ more ++ body, r)

/-- A number before a redirection. -/
def leadingNumber (t : Text) : Option Nat :=
  let ds := t.takeWhile Symbol.isDigit
  match t.drop ds.length with
  | s :: _ =>
    if !ds.isEmpty && (s.is '<' || s.is '>') then
      some (ds.foldl (fun n d => n * 10 + ((Escape.digitValue d).getD 0)) 0)
    else none
  | [] => none

/-- A name in braces before a redirection, perhaps with an index. -/
def leadingName (t : Text) : Option Text :=
  match t with
  | .char '\x7b' :: t =>
    let name := t.takeWhile Symbol.isIdentifier
    let index : Text := match t.drop name.length with
      | .char c :: r =>
        if c = '[' then
          let inner := r.takeWhile fun s => s.isIdentifier || s.isAnyOf "-+*@ $"
          if (r.drop inner.length).head?.any (·.is ']') then .char c :: r.take (inner.length + 1) else []
        else []
      | _ => []
    let target := name ++ index
    match t.drop target.length with
    | a :: b :: _ => if isIdentifierText name && a.is '\x7d' && (b.is '<' || b.is '>') then some target else none
    | _ => none
  | _ => none

/-- The name of a variable that is followed by a sign of assignment or an index. -/
def assignedName (t : Text) : Option Text :=
  let name := t.takeWhile Symbol.isIdentifier
  if !isIdentifierText name then none
  else match t.drop name.length with
    | .char '=' :: _ => some name
    | .char '+' :: .char '=' :: _ => some name
    | .char '[' :: _ => some name
    | _ => none

inductive RedirectMark where
  | plain (kind : RedirectKind)
  | document (stripsTabs : Bool)

/-- The signs of redirection, each before those that it begins with. -/
def redirectMarks : List (String × RedirectMark) := [
  ("&>>", .plain .appendBoth), ("&>", .plain .both), ("<<<", .plain .hereString), ("<<-", .document true),
  ("<<", .document false), ("<&", .plain .duplicateInput), ("<>", .plain .readWrite),
  (">>", .plain .append), (">&", .plain .duplicateOutput), (">|", .plain .clobber)]

/-- The pieces of a text between semicolons, without the blanks before them. -/
def loopPieces (t : Text) : List Text :=
  (Text.pieces (.char ';') t).map fun p => (p.dropWhile isSpace)

section
variable (commands : Read Command)

/-- Reads the here-documents that are awaited, at the start of a line. -/
def documents : Read Unit := do
  for d in (← get).awaited do
    let before ← get
    let (body, after?) := documentLines d (before.size + 1) before.rest
    let after := after?.getD []
    let passed := before.rest.take (before.rest.length - after.length)
    let line := before.line + countLines passed
    modify fun s => { s with
      rest := after, line
      start := if after?.isNone && !passed.getLast?.any (· = Symbol.newline) then passed else after
      unended := if after?.isNone then (d.line, line, d.delimiter) :: s.unended else s.unended }
    let ps ← if d.isQuoted then pure [] else
      inside body do
        let (_, ps) ← keeping (parts commands .document (2 * (← get).size + 2) 0)
        return ps
    modify fun s => { s with
      documents := (d.number, ⟨d.delimiter, d.isQuoted, d.stripsTabs, body, ps⟩) :: s.documents }
  modify fun s => { s with awaited := [] }

def newline : Read Unit := do
  drop 1
  documents commands

/-- Passes over blanks and ends of lines. -/
def newlines : Nat → Read Unit
  | 0 => pure ()
  | n + 1 => do
    blanks
    if ← peekIs '\n' then newline commands; newlines n

def gap : Read Unit := do newlines commands ((← get).size + 1)

def redirectWord : Read Word := do
  blanks
  if ← isAtWordStart then word commands .word else noWordHere

def awaitDocument (at_ : Descriptor) (stripsTabs : Bool) : Read Redirect := do
  let (delimiter, isQuoted) := unquote (← redirectWord commands).source
  let n := (← get).count
  modify fun s => { s with
    count := n + 1, awaited := s.awaited ++ [⟨n, delimiter, isQuoted, stripsTabs, s.line⟩] }
  return .document at_ n

/-- A redirection, if one begins here. -/
def redirect? : Read (Option Redirect) := do
  let r ← rest
  let at_ : Descriptor ← match leadingNumber r, leadingName r with
    | some n, _ => do drop (r.takeWhile Symbol.isDigit).length; pure (.number n)
    | none, some name => do drop (name.length + 2); pure (.named name)
    | none, none => pure .default
  for (sign, mark) in redirectMarks do
    if ← isAt sign then
      drop sign.length
      match mark with
      | .plain k => return some (.file at_ k (← redirectWord commands))
      | .document stripsTabs => return some (← awaitDocument commands at_ stripsTabs)
  if (← isAt "<(") || (← isAt ">(") then return none
  if ← peekIs '<' then drop 1; return some (.file at_ .input (← redirectWord commands))
  if ← peekIs '>' then drop 1; return some (.file at_ .output (← redirectWord commands))
  return none

def redirects : Nat → Read (List Redirect)
  | 0 => pure []
  | n + 1 => do
    blanks
    match ← redirect? commands with
    | some r => return r :: (← redirects n)
    | none => return []

def subscriptParts : Read (Text × List Part) :=
  keeping do
    let _ ← take 1
    let ps ← parts commands .subscript (2 * (← get).size + 2) 0
    if !(← peekIs ']') then ended
    let _ ← take 1
    return ps

/-- The sign of assignment; whether it appends. -/
def sign : Read Bool := do
  if ← isAt "+=" then drop 2; return true
  else expect "="; return false

def signText (appends : Bool) : Text := if appends then "+=" else "="

def elements : Nat → Read (List (Text × Element))
  | 0 => ended
  | n + 1 => do
    gap commands
    if ← peekIs ')' then drop 1; return []
    else if (← rest).isEmpty then throw (.inArray (.unclosed ")" (← get).line))
    else if !(← isAtWordStart) then unexpectedHere
    else
      let indexed ← if ← peekIs '[' then attempt do
          let (source, ps) ← subscriptParts commands
          let appends ← sign
          return (source ++ signText appends, ps, appends)
        else pure none
      match indexed with
      | some (source, ps, appends) =>
        let w ← word commands .word
        return (source ++ w.source, .mk (some ps) appends w) :: (← elements n)
      | none =>
        let w ← word commands .word
        return (w.source, .mk none false w) :: (← elements n)

/-- A fault between the parentheses of an assignment. -/
def arrayFault : ParseFault → ParseFault
  | .unexpected t line text => .inArray (.unexpected t line text)
  | f => f

/-- An assignment, if one begins here. -/
def assignment? : Read (Option Assignment) := do
  match assignedName (← rest) with
  | none => return none
  | some name =>
    let head ← attempt do
      drop name.length
      let index ← if ← peekIs '[' then some <$> subscriptParts commands else pure none
      let appends ← sign
      return (index, appends)
    match head with
    | none => return none
    | some (index, appends) =>
      let source := name ++ (index.map (·.1)).getD [] ++ signText appends
      let ps := index.map (·.2)
      if (← peekIs '(') then
        drop 1
        let es ← refaulted arrayFault (elements commands ((← get).size + 1))
        return some (.mk (source ++ "(" ++ Text.join " " (es.map (·.1)) ++ ")") name ps appends
          (.array (es.map (·.2))))
      else
        let w ← if ← isAtWordStart then word commands .word else pure (.mk [] [])
        return some (.mk (source ++ w.source) name ps appends (.scalar w))

/-- What has been read of a simple command. -/
structure Simple where
  assignments : List Assignment := []
  arguments : List Argument := []
  redirects : List Redirect := []

/-- Whether arguments may be assignments, by the words before them. -/
def Simple.takesAssignments (c : Simple) : Bool :=
  let words := c.arguments.map fun | .word w => w.source | .assignment a => a.source
  let isCarrier (t : Text) : Bool := t = ("command" : Text) || t = ("builtin" : Text)
  (words.dropWhile isCarrier).head?.any isDeclarer

def simple : Nat → Simple → Read Simple
  | 0, c => pure c
  | n + 1, c => do
    blanks
    match ← redirect? commands with
    | some r => simple n { c with redirects := c.redirects ++ [r] }
    | none =>
      if !(← isAtWordStart) then return c
      else if (c.arguments.isEmpty || (← isBehindAlias)) && (← aliased) then simple n c
      else
        let assigned ← if c.arguments.isEmpty || c.takesAssignments then assignment? commands else pure none
        match assigned with
        | some a =>
          if c.arguments.isEmpty then simple n { c with assignments := c.assignments ++ [a] }
          else simple n { c with arguments := c.arguments ++ [.assignment a] }
        | none => simple n { c with arguments := c.arguments ++ [.word (← word commands .word)] }

/-- Fails with a message about a condition. -/
def badCondition {α : Type} (message : Text) : Read α := do
  let s ← get
  throw (.condition message (tokenOf s.rest) s.line (lineText s.start))

/-- A word of a condition; `complaint` is about a token that is no word. -/
def conditionWord (m : Setting) (complaint : Text → Text) : Read Word := do
  gap commands
  if (← rest).isEmpty then ended
  if !(← isAtWordStart) && !(m = .regex && (← peekIs '(')) then
    badCondition (complaint (tokenOf (← rest)))
  else
    let before := (← get).hasGroups
    modify fun s => { s with hasGroups := true }
    let w ← word commands m
    modify fun s => { s with hasGroups := before }
    return w

/-- Whether an operator or the end of a condition stands here. -/
def isAtConnective : Read Bool := do
  gap commands
  return (← isAt "&&") || (← isAt "||") || (← peekIs ')') || (← isAtWord "]]")

def inCommand (t : Text) : Text := "unexpected token \x60" ++ t ++ "' in conditional command"
def forUnary (t : Text) : Text := "unexpected argument \x60" ++ t ++ "' to conditional unary operator"
def forBinary (t : Text) : Text := "unexpected argument \x60" ++ t ++ "' to conditional binary operator"

def conditionTerm (inner : Read Condition) : Nat → Read Condition
  | 0 => ended
  | n + 1 => do
    gap commands
    if ← isAtWord "!" then drop 1; return .not (← conditionTerm inner n)
    else if ← peekIs '(' then
      drop 1
      let c ← inner
      gap commands
      if (← rest).isEmpty then ended
      if !(← peekIs ')') then badCondition ("unexpected token \x60" ++ tokenOf (← rest) ++ "', expected \x60)'")
      drop 1
      return .group c
    else
      let w ← conditionWord commands .word inCommand
      if isUnary w.source && !(← isAtConnective commands) then
        let operator ← binary?
        match operator with
        | none => return .unary w.source (← conditionWord commands .word forUnary)
        | some op => return .binary w op (← conditionWord commands .word forBinary)
      else if ← isAtConnective commands then return .unary "-n" w
      else match ← binary? with
        | some op =>
          return .binary w op (← conditionWord commands (if op = ("=~" : Text) then .regex else .word) forBinary)
        | none =>
          if (← rest).isEmpty then ended
          badCondition "conditional binary operator expected"
where
  /-- A sign of comparison. -/
  binary? : Read (Option Text) := do
    blanks
    if (← peekIs '<') && !(← isAt "<(") then drop 1; return some "<"
    else if (← peekIs '>') && !(← isAt ">(") then drop 1; return some ">"
    else match ← plainWord with
      | some w =>
        if comparisons.any fun (c : String) => w = (c : Text) then drop w.length; return some w
        else return none
      | none => return none

def conditionAnd (inner : Read Condition) : Nat → Read Condition
  | 0 => ended
  | n + 1 => do
    let c ← conditionTerm commands inner (n + 1)
    gap commands
    if ← isAt "&&" then drop 2; return .and c (← conditionAnd inner n) else return c

def condition : Nat → Read Condition
  | 0 => ended
  | n + 1 => do
    let c ← conditionAnd commands (condition n) (n + 1)
    gap commands
    if ← isAt "||" then drop 2; return .or c (← condition n) else return c

end

/-- Whether a list of commands ends here. -/
def isAtEnd : Read Bool := do
  match ← rest with
  | [] => return true
  | .char ')' :: _ => return true
  | .char ';' :: .char ';' :: _ => return true
  | .char ';' :: .char '&' :: _ => return true
  | _ =>
    match ← plainWord with
    | some w => return closers.any fun (c : String) => w = (c : Text)
    | none => return false

/-- Whether a command that may be empty ends here. -/
def isAtTerminator : Read Bool := do
  blanks
  match ← rest with
  | [] => return true
  | s :: _ => return s.isAnyOf ";\n"

/-- The sign between two commands of a list. A newline is left for the caller. -/
def separator? : Read (Option Separator) := do
  blanks
  if (← isAt ";;") || (← isAt ";&") then return none
  else if ← peekIs ';' then drop 1; return some .semicolon
  else if ← isAt "&&" then return none
  else if ← peekIs '&' then drop 1; return some .background
  else if ← peekIs '\n' then return some .newline
  else return none

def withRedirects (c : Command) (rs : List Redirect) : Command :=
  if rs.isEmpty then c else .redirected c rs

/-- Adds to a command that its errors go where its output goes. -/
def withErrors : Command → Command
  | .simple line as args rs => .simple line as args (rs ++ [.file (.number 2) .duplicateOutput (.mk "1" [.plain "1"])])
  | .redirected c rs => .redirected c (rs ++ [.file (.number 2) .duplicateOutput (.mk "1" [.plain "1"])])
  | c => .redirected c [.file (.number 2) .duplicateOutput (.mk "1" [.plain "1"])]

mutual

/-- The commands of a list up to a word or sign that ends it. -/
def items : Nat → Read (List (Command × Separator))
  | 0 => ended
  | n + 1 => do
    gap (body n)
    if ← isAtEnd then return []
    let c ← chain n
    match ← separator? with
    | none =>
      if ← isAtEnd then return [(c, .semicolon)] else unexpectedHere
    | some s => return (c, s) :: (← items n)

/-- A list of commands that may be empty. -/
def body : Nat → Read Command
  | 0 => ended
  | n + 1 => do return .list (← items n)

/-- A list of at least one command. -/
def block : Nat → Read Command
  | 0 => ended
  | n + 1 => do
    match ← items n with
    | [] => unexpectedHere
    | is => return .list is

def chain : Nat → Read Command
  | 0 => ended
  | n + 1 => do
    let c ← pipeline n
    match ← links n with
    | [] => return c
    | ls => return .chain c ls

def links : Nat → Read (List (Bool × Command))
  | 0 => ended
  | n + 1 => do
    blanks
    let isAnd ← isAt "&&"
    if isAnd || (← isAt "||") then
      drop 2
      gap (body n)
      let c ← pipeline n
      return (isAnd, c) :: (← links n)
    else return []

def pipeline : Nat → Read Command
  | 0 => ended
  | n + 1 => do
    blanks
    if ← isAtWord "!" then
      drop 1
      if ← isAtTerminator then return .pipeline true .untimed []
      match ← pipeline n with
      | .pipeline isNegated timing cs => return .pipeline (!isNegated) timing cs
      | c => return .pipeline true .untimed [c]
    else if ← isAtWord "time" then
      drop 4
      blanks
      let isShort ← isAtWord "-p"
      if isShort then drop 2
      blanks
      if ← isAtWord "--" then drop 2
      let timing : Timing := if isShort then .short else .full
      if ← isAtTerminator then return .pipeline false timing []
      match ← pipeline n with
      | .pipeline isNegated _ cs => return .pipeline isNegated timing cs
      | c => return .pipeline false timing [c]
    else
      match ← piped n with
      | [c] => return c
      | cs => return .pipeline false .untimed cs

def piped : Nat → Read (List Command)
  | 0 => ended
  | n + 1 => do
    let c ← command n
    blanks
    if ← isAt "|&" then
      drop 2
      gap (body n)
      return withErrors c :: (← piped n)
    else if (← peekIs '|') && !(← isAt "||") then
      drop 1
      gap (body n)
      return c :: (← piped n)
    else return [c]

/-- A command with the redirections behind it. -/
def command : Nat → Read Command
  | 0 => ended
  | n + 1 => do
    blanks
    if ← aliased then command n
    else if (← plainWord).any isReservedInside then unexpectedHere
    else match ← compound n with
    | some c =>
      let rs ← redirects (body n) ((← get).size + 1)
      return withRedirects c rs
    | none => simpleOrFunction n

/-- A compound command, if one begins here. -/
def compound : Nat → Read (Option Command)
  | 0 => ended
  | n + 1 => do
    let line := (← get).line
    if ← isAt "((" then
      match ← attempt (arithmetic n) with
      | some c => return some c
      | none => return some (← subshell n)
    else if ← peekIs '(' then return some (← subshell n)
    else match ← plainWord with
      | none => return none
      | some w =>
        match w.toDisplayString with
        | "\x7b" =>
          drop 1
          let c ← block n
          keyword "\x7d"
          return some (.group c)
        | "if" => drop 2; return some (← conditional n)
        | "while" => drop 5; return some (← loop false n)
        | "until" => drop 5; return some (← loop true n)
        | "for" => drop 3; return some (← forLoop n)
        | "select" =>
          drop 6
          let (name, ws) ← loopHead n
          return some (.select line name ws (← loopBody n))
        | "case" => drop 4; return some (← case n)
        | "function" =>
          drop 8
          blanks
          if !(← isAtWordStart) then noWordHere
          let w ← word (body n) .word
          blanks
          if ← peekIs '(' then
            drop 1
            blanks
            expect ")"
          return some (← function line w.source n)
        | "coproc" => drop 6; return some (← coprocess n)
        | "[[" =>
          drop 2
          let c ← condition (body n) ((← get).size + 1)
          gap (body n)
          if !(← isAtWord "]]") && !(← rest).isEmpty then
            badCondition ("syntax error in conditional expression: unexpected token \x60" ++ tokenOf (← rest) ++ "'")
          keyword "]]"
          return some (.test line c)
        | _ => return none

def subshell : Nat → Read Command
  | 0 => ended
  | n + 1 => do
    drop 1
    let c ← block n
    expect ")"
    return .subshell c

/-- A command beside the shell. It has a name of its own only if it is a compound command. -/
def coprocess : Nat → Read Command
  | 0 => ended
  | n + 1 => do
    blanks
    let redirected (c : Command) : Read Command := do
      return withRedirects c (← redirects (body n) ((← get).size + 1))
    match ← compound n with
    | some c => return .coprocess "COPROC" (← redirected c)
    | none =>
      let named ← attempt do
        let w ← word (body n) .word
        blanks
        match ← compound n with
        | some c => return Command.coprocess w.source (← redirected c)
        | none => ended
      match named with
      | some c => return c
      | none => return .coprocess "COPROC" (← simpleOrFunction n)

def arithmetic : Nat → Read Command
  | 0 => ended
  | n + 1 => do
    let line := (← get).line
    drop 2
    let (source, ps) ← keeping (parts (body n) .arithmetic (2 * (← get).size + 2) 0)
    expect "))"
    return .arithmetic line source ps

def conditional : Nat → Read Command
  | 0 => ended
  | n + 1 => do
    let test ← block n
    keyword "then"
    let yes ← block n
    if ← isAtWord "elif" then
      drop 4
      return .conditional test yes (some (← conditional n))
    else if ← isAtWord "else" then
      drop 4
      let no ← block n
      keyword "fi"
      return .conditional test yes (some no)
    else
      keyword "fi"
      return .conditional test yes none

def loop (isUntil : Bool) : Nat → Read Command
  | 0 => ended
  | n + 1 => do
    let test ← block n
    keyword "do"
    let c ← block n
    keyword "done"
    return .loop isUntil test c

/-- The name of a loop and the words that it runs through. -/
def loopHead : Nat → Read (Text × Option (List Word))
  | 0 => ended
  | n + 1 => do
    blanks
    let w ← word (body n) .word
    if w.source.isEmpty then noWordHere
    gap (body n)
    if ← isAtWord "in" then
      drop 2
      let ws ← words n
      blanks
      if ← peekIs ';' then drop 1
      gap (body n)
      return (w.source, some ws)
    else
      if ← peekIs ';' then drop 1
      gap (body n)
      return (w.source, none)

def words : Nat → Read (List Word)
  | 0 => ended
  | n + 1 => do
    blanks
    if ← isAtWordStart then
      let w ← word (body n) .word
      return w :: (← words n)
    else return []

def loopBody : Nat → Read Command
  | 0 => ended
  | n + 1 => do
    gap (body n)
    if ← isAtWord "\x7b" then
      drop 1
      let c ← block n
      keyword "\x7d"
      return c
    else
      keyword "do"
      let c ← block n
      keyword "done"
      return c

def forLoop : Nat → Read Command
  | 0 => ended
  | n + 1 => do
    let line := (← get).line
    blanks
    if ← isAt "((" then
      drop 2
      let (source, _) ← keeping (parts (body n) .arithmetic (2 * (← get).size + 2) 0)
      expect "))"
      blanks
      if ← peekIs ';' then drop 1
      gap (body n)
      let pieces := (loopPieces source).map fun p => if p.isEmpty then ("1" : Text) else p
      let size := (← get).size
      let expression (i : Nat) : Read (List Part) :=
        inside (pieces.getD i []) (parts (body n) .document (2 * size + 2) 0)
      let start ← expression 0
      let test ← expression 1
      let step ← expression 2
      if pieces.length ≠ 3 then throw (.unexpected source line (lineText (← get).start))
      return .forArithmetic line pieces start test step (← loopBody n)
    else
      let (name, ws) ← loopHead n
      return .forEach line name ws (← loopBody n)

def case : Nat → Read Command
  | 0 => ended
  | n + 1 => do
    let line := (← get).line
    blanks
    if !(← isAtWordStart) then noWordHere
    let w ← word (body n) .word
    gap (body n)
    keyword "in"
    let cs ← clauses n
    return .case line w cs

def clauses : Nat → Read (List Clause)
  | 0 => ended
  | n + 1 => do
    gap (body n)
    if ← isAtWord "esac" then drop 4; return []
    if ← peekIs '(' then drop 1
    let ps ← patterns n
    expect ")"
    let is ← items n
    let c := if is.isEmpty then none else some (Command.list is)
    gap (body n)
    if ← isAt ";;&" then
      drop 3
      return .mk ps c .testNext :: (← clauses n)
    else if ← isAt ";;" then
      drop 2
      return .mk ps c .stop :: (← clauses n)
    else if ← isAt ";&" then
      drop 2
      return .mk ps c .fallThrough :: (← clauses n)
    else
      keyword "esac"
      return [.mk ps c .stop]

def patterns : Nat → Read (List Word)
  | 0 => ended
  | n + 1 => do
    blanks
    if !(← isAtWordStart) then noWordHere
    let w ← word (body n) .word
    blanks
    if ← peekIs '|' then
      drop 1
      return w :: (← patterns n)
    else return [w]

/-- The body of a function. -/
def function (line : Nat) (name : Text) : Nat → Read Command
  | 0 => ended
  | n + 1 => do
    gap (body n)
    match ← compound n with
    | none => unexpectedHere
    | some c =>
      let rs ← redirects (body n) ((← get).size + 1)
      return .function line name (withRedirects c rs)

def simpleOrFunction : Nat → Read Command
  | 0 => ended
  | n + 1 => do
    let line := (← get).line
    let c ← simple (body n) ((← get).size + 1) {}
    let isFunction ← if ← peekIs '(' then
        match c with
        | ⟨[], [.word w], []⟩ => do
          drop 1
          blanks
          expect ")"
          pure (some w.source)
        | _ => unexpectedHere
      else pure none
    match isFunction with
    | some name => function line name n
    | none =>
      if c.assignments.isEmpty && c.arguments.isEmpty && c.redirects.isEmpty then unexpectedHere
      else return .simple line c.assignments c.arguments c.redirects

end

/-- The commands of a unit up to the end of its line. -/
def unitItems (fuel : Nat) : Nat → Read (List (Command × Separator))
  | 0 => ended
  | n + 1 => do
    blanks
    if (← peekIs '\n') || (← rest).isEmpty then return []
    let c ← chain fuel
    match ← separator? with
    | some .newline => return [(c, .newline)]
    | some s => return (c, s) :: (← unitItems fuel n)
    | none => if (← rest).isEmpty then return [(c, .semicolon)] else unexpectedHere

/-- The next unit, if there is one. -/
def unit? : Read (Option Command) := do
  let fuel := 20 * (← get).size + 100
  gap (body fuel)
  if (← rest).isEmpty then return none
  let is ← unitItems fuel fuel
  if (← peekIs '\n') || !(← get).awaited.isEmpty then newline (body fuel)
  return some (.list is)

/-! Texts that are read when they are used -/

/-- The fuel that reading a text takes at most. -/
def fuelFor (t : Text) : Nat := 20 * t.length + 100

/-- The parts of a text that is expanded as if it were in quotation marks. -/
def quotedParts (t : Text) : List Part :=
  match (parts (body (fuelFor t)) .document (2 * t.length + 2) 0).run (Source.ofText t) with
  | (.ok ps, _) => ps
  | (.error _, _) => [.plain t]

/-- Reads a word up to a blank; signs of the language in it stand for themselves. -/
def looseWord (fuel : Nat) : Nat → Read (List Part)
  | 0 => ended
  | n + 1 => do
    let ps ← parts (body fuel) .word (2 * (← get).size + 2) 0
    match ← rest with
    | [] => return ps
    | s :: _ =>
      if s.isAnyOf " \t\n" then return ps
      drop 1
      return ps ++ .plain [s] :: (← looseWord fuel n)

def looseWords (fuel : Nat) : Nat → Read (List Word)
  | 0 => return []
  | n + 1 => do
    drop (← ahead (·.isAnyOf " \t\n")).length
    if (← rest).isEmpty then return []
    let ps ← looseWord fuel ((← get).size + 1)
    return .mk [] ps :: (← looseWords fuel n)

/-- The words of a text, which are divided by blanks alone. -/
def wordsOf (t : Text) : List Word :=
  match (looseWords (fuelFor t) (t.length + 1)).run (Source.ofText t) with
  | (.ok ws, _) => ws
  | (.error _, _) => []

/-- The elements that a text in parentheses spells. -/
def elementsOf? (t : Text) : Option (List Element) :=
  match t with
  | .char '(' :: r =>
    match (elements (body (fuelFor r)) (r.length + 2)).run (Source.ofText r) with
    | (.ok es, _) => some (es.map (·.2))
    | (.error _, _) => none
  | _ => none

end Tangle.Shell.Read
