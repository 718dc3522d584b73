import Tangle.Shell.Command

/-! # The layout of commands

Commands are written out with one command of a list to a line inside a function, and on one line
outside. A here-document follows the line that its command is on, so it is held back while a list or
pipeline goes on; behind it no semicolon is needed. -/
namespace Tangle.Shell

/-- `out` is what has been written, backwards; `skips` counts the commands that continue a line. -/
structure Layout where
  out : Text := []
  column : Nat := 0
  step : Nat := 4
  skips : Nat := 0
  afterDocument : Bool := false
  held : List HereDocument := []
  connections : Nat := 0
  functions : Nat := 0

namespace Layout

abbrev Write := StateM Layout

def put (t : Text) : Write Unit := modify fun l => { l with out := t.reverse ++ l.out }

def margin : Write Unit := do put (List.replicate (← get).column (.char ' '))

def newLine (t : Text) : Write Unit := do put "\n"; margin; put t

def indent : Write Unit := modify fun l => { l with column := l.column + l.step }
def unindent : Write Unit := modify fun l => { l with column := l.column - l.step }
def skipNext : Write Unit := modify fun l => { l with skips := l.skips + 1 }

/-- Ends a command, unless the line or a background command is at its end already. -/
def semicolon : Write Unit := do
  match (← get).out with
  | s :: _ => if s.is '&' || s == Symbol.newline then pure () else put ";"
  | [] => put ";"

/-- The margin before a command, unless it continues a line. -/
def lead : Write Unit := do
  if 0 < (← get).skips then modify fun l => { l with skips := l.skips - 1 } else margin

def documentBodies (ds : List HereDocument) : Write Unit := do
  put "\n"
  ds.forM fun d => put (d.body ++ d.delimiter ++ "\n")
  modify fun l => { l with afterDocument := true }

/-- Writes a connector, and behind it the here-documents that were held back. -/
def release (connector : Text) : Write Unit := do
  put connector
  let held := (← get).held
  if !held.isEmpty then
    documentBodies held
    if !connector.isEmpty then put " "
  modify fun l => { l with held := [] }

def releaseHeld : Write Unit := do if !(← get).held.isEmpty then release []

def numberText (standard : Option Nat) : Descriptor → Text
  | .default => standard.elim ([] : Text) fun _ => []
  | .number n => if standard = some n then [] else Text.ofNat n
  | .named v => "\x7b" ++ v ++ "\x7d"

def explicitNumber (standard : Nat) : Descriptor → Text
  | .default => Text.ofNat standard
  | .number n => Text.ofNat n
  | .named v => "\x7b" ++ v ++ "\x7d"

def isNumber (t : Text) : Bool := !t.isEmpty && t.all Symbol.isDigit

/-- A descriptor, a descriptor to be moved, or the mark that closes one. -/
def isDuplicate (t : Text) : Bool := t = ("-" : Text) || isNumber t || (t.getLast?.any (·.is '-') && isNumber t.dropLast)

def documentHead (at_ : Descriptor) (d : HereDocument) : Text :=
  numberText (some 0) at_ ++ "<<" ++ (if d.stripsTabs then "-" else "") ++
    if d.isQuoted then
      "'" ++ Text.replaceAll (.char '\'') "'\\''" d.delimiter ++ "'"
    else d.delimiter

/-- A number without zeros before it, or another text as it is. -/
def plainNumber (t : Text) : Text :=
  if isNumber t && 1 < t.length then
    match t.dropWhile (·.is '0') with
    | [] => "0"
    | digits => digits
  else t

def redirectText : Descriptor → RedirectKind → Text → Text
  | d, .input, w => numberText (some 0) d ++ "< " ++ w
  | d, .output, w => numberText (some 1) d ++ "> " ++ w
  | d, .clobber, w => numberText (some 1) d ++ ">| " ++ w
  | d, .append, w => numberText (some 1) d ++ ">> " ++ w
  | _, .both, w => "&> " ++ w
  | _, .appendBoth, w => "&>> " ++ w
  | d, .readWrite, w => (match d with | .default => "0" | d => numberText (some 1) d) ++ "<> " ++ w
  | d, .hereString, w => numberText (some 0) d ++ "<<< " ++ w
  | d, .duplicateInput, w =>
    let w := plainNumber w
    if w = ("-" : Text) then explicitNumber 0 d ++ ">&-"
    else if isDuplicate w || w.endsWith "-" then explicitNumber 0 d ++ "<&" ++ w
    else numberText (some 0) d ++ "<&" ++ w
  | d, .duplicateOutput, w =>
    let w := plainNumber w
    if isDuplicate w || w.endsWith "-" then explicitNumber 1 d ++ ">&" ++ w
    else numberText (some 1) d ++ ">&" ++ w

/-- The redirections of a command; here-documents come after the others, or are held back. -/
def redirects (docs : HereDocuments) (rs : List Redirect) : Write Unit := do
  modify fun l => { l with afterDocument := false }
  let texts := rs.map fun
    | .file d k w => redirectText d k w.source
    | .document d n => (docs.lookup n).elim ([] : Text) (documentHead d)
  put (Text.join " " texts)
  let bodies := rs.filterMap fun
    | .document _ n => docs.lookup n
    | .file .. => none
  if !bodies.isEmpty then
    if 0 < (← get).connections then modify fun l => { l with held := bodies }
    else documentBodies bodies

def sources (ws : List Word) : Text := Text.join " " (ws.map Word.source)

def condition : Nat → Condition → Text
  | 0, _ => []
  | _ + 1, .unary op w => op ++ " " ++ w.source
  | _ + 1, .binary l op r => l.source ++ " " ++ op ++ " " ++ r.source
  | n + 1, .and l r => condition n l ++ " && " ++ condition n r
  | n + 1, .or l r => condition n l ++ " || " ++ condition n r
  | n + 1, .not c => "! " ++ condition n c
  | n + 1, .group c => "( " ++ condition n c ++ " )"

/-- The words that cannot name a function without the word `function` before them. -/
def reserved : List String := [
  "if", "then", "else", "elif", "fi", "case", "esac", "for", "select", "while", "until", "do", "done",
  "in", "function", "time", "\x7b", "\x7d", "!", "[[", "]]", "coproc"]

def isReserved (t : Text) : Bool := reserved.any fun (w : String) => t = (w : Text)

section
variable (docs : HereDocuments) (write : Command → Write Unit)

/-- The part of a pair of connected commands between the two. -/
def separator : Separator → (hasNext : Bool) → Write Unit
  | .background, hasNext => do
    release " &"
    if hasNext then put " "; skipNext
  | s, hasNext => do
    let inFunction := 0 < (← get).functions
    if (← get).held.isEmpty then
      if (← get).afterDocument then modify fun l => { l with afterDocument := false }
      else put (if !inFunction && s = .newline then "\n" else ";")
    else release (if inFunction then [] else ";")
    if inFunction then put "\n"
    else
      if s = .semicolon then put " "
      if hasNext then skipNext

def connected (w : Write Unit) : Write Unit := do
  modify fun l => { l with connections := l.connections + 1 }
  w
  releaseHeld
  modify fun l => { l with connections := l.connections - 1 }

/-- The commands after the first of a list, each with the separator before it. -/
def following : Separator → List (Command × Separator) → Write Unit
  | s, [] => if s = .background then separator s false else pure ()
  | s, (c, s') :: rest => do
    separator s true
    write c
    if !rest.isEmpty || s' = .background then releaseHeld
    following s' rest

def listed : List (Command × Separator) → Write Unit
  | [] => pure ()
  | [(c, .background)] => do
    lead
    connected do skipNext; write c; separator .background false
  | [(c, _)] => write c
  | (c, s) :: rest => do
    lead
    connected do skipNext; write c; following write s rest

def piped : List Command → Write Unit
  | [] => pure ()
  | c :: rest => do
    release " |"
    put " "
    skipNext
    write c
    if !rest.isEmpty then releaseHeld
    piped rest

def chained : List (Bool × Command) → Write Unit
  | [] => pure ()
  | (isAnd, c) :: rest => do
    release (if isAnd then " && " else " || ")
    skipNext
    write c
    if !rest.isEmpty then releaseHeld
    chained rest

/-- Commands between two keywords, indented. -/
def body (c : Command) : Write Unit := do
  indent
  write c
  releaseHeld
  unindent

def doneBody (c : Command) : Write Unit := do
  newLine "do\n"
  indent
  write c
  releaseHeld
  semicolon
  unindent
  newLine "done"

def words? : Option (List Word) → Text
  | some ws => sources ws
  | none => "\"$@\""

def clauses : List Clause → Write Unit
  | [] => pure ()
  | .mk patterns commands ending :: rest => do
    newLine []
    put (Text.join " | " (patterns.map Word.source) ++ ")\n")
    indent
    commands.forM write
    unindent
    releaseHeld
    newLine (match ending with | .stop => ";;" | .fallThrough => ";&" | .testNext => ";;&")
    clauses rest

/-- The commands of a function between braces, and the redirections of the function. The margin changes at
both ends. -/
def functionBody (enter leave : Write Unit) (c : Command) : Write Unit := do
  let (inner, rs) : Command × List Redirect := match c with
    | .redirected (.group b) rs => (b, rs)
    | .group b => (b, [])
    | c => (c, [])
  modify fun l => { l with functions := l.functions + 1 }
  enter
  write inner
  releaseHeld
  leave
  modify fun l => { l with functions := l.functions - 1 }
  if rs.isEmpty then newLine "\x7d"
  else
    newLine "\x7d "
    redirects docs rs

def groupBody (c : Command) : Write Unit := do
  put "\x7b "
  let inFunction := 0 < (← get).functions
  if inFunction then put "\n"; indent else skipNext
  write c
  releaseHeld
  if inFunction then put "\n"; unindent; margin else semicolon; put " "
  put "\x7d"

/-- A compound command after its margin. -/
def compound (depth : Nat) : Command → Write Unit
  | .group c => groupBody write c
  | .subshell c => do
    put "( "
    skipNext
    write c
    releaseHeld
    put " )"
  | .loop isUntil test c => do
    put (if isUntil then "until " else "while ")
    skipNext
    write test
    releaseHeld
    semicolon
    put " do\n"
    indent
    write c
    releaseHeld
    unindent
    semicolon
    newLine "done"
  | .forEach _ n ws c => do
    put ("for " ++ n ++ " in " ++ words? ws ++ ";")
    doneBody write c
  | .select _ n ws c => do
    put ("select " ++ n ++ " in " ++ words? ws ++ ";")
    doneBody write c
  | .forArithmetic _ source _ _ _ c => do
    put ("for ((" ++ Text.join "; " source ++ "))")
    doneBody write c
  | .conditional test yes no => do
    put "if "
    skipNext
    write test
    semicolon
    put " then\n"
    body write yes
    no.forM fun c => do
      semicolon
      newLine "else\n"
      body write c
    semicolon
    newLine "fi"
  | .case _ w cs => do
    put ("case " ++ w.source ++ " in ")
    indent
    clauses write cs
    unindent
    newLine "esac"
  | .arithmetic _ source _ => put ("((" ++ source ++ "))")
  | .test _ c => put ("[[ " ++ condition depth c ++ " ]]")
  | .function _ n c => do
    put ("function " ++ n ++ " () \n")
    margin
    put "\x7b \n"
    functionBody docs write indent unindent c
  | .coprocess n c => do
    put ("coproc " ++ n ++ " ")
    skipNext
    write c
  | .simple _ as ws rs => do
    put (Text.join " " (as.map Assignment.source ++ ws.map Argument.source))
    if !rs.isEmpty then
      if !(as.isEmpty && ws.isEmpty) then put " "
      redirects docs rs
  | _ => pure ()

end

/-- Writes a command, with as many others inside one another as `depth` allows. -/
def command (docs : HereDocuments) : (depth : Nat) → Command → Write Unit
  | 0, _ => pure ()
  | n + 1, .list items => listed (command docs n) items
  | n + 1, .redirected c rs => do
    command docs n c
    put " "
    redirects docs rs
  | n + 1, .pipeline isNegated timing cs => do
    lead
    put (match timing with | .untimed => "" | .full => "time " | .short => "time -p ")
    if isNegated then put "! "
    match cs with
    | [] => pure ()
    | [c] => skipNext; command docs n c
    | c :: rest => connected do
      skipNext
      command docs n c
      piped (command docs n) rest
  | n + 1, .chain c rest => do
    lead
    connected do
      skipNext
      command docs n c
      chained (command docs n) rest
  | n + 1, c => do
    lead
    compound docs (command docs n) n c

def greatestDepth : Nat := 1000

def run (w : Write Unit) : Text := (w.run {}).2.out.reverse

end Layout

/-- A command on one line, as it is kept inside a word. -/
def Command.inlineText (docs : HereDocuments) (c : Command) : Text :=
  Layout.run (Layout.command docs Layout.greatestDepth c)

/-- The first line of a compound command, without the commands in it. -/
def Command.head (docs : HereDocuments) : Command → Text
  | .forEach _ n ws _ => "for " ++ n ++ " in " ++ Layout.words? ws
  | .select _ n ws _ => "select " ++ n ++ " in " ++ Layout.words? ws
  | .case _ w _ => "case " ++ w.source ++ " in "
  | c => c.inlineText docs

/-- The definition of a function. -/
def Command.definitionText (docs : HereDocuments) (name : Text) (body : Command) : Text :=
  Layout.run do
    if Layout.isReserved name then Layout.put "function "
    Layout.put (name ++ " () \n\x7b \n")
    Layout.functionBody docs (Layout.command docs Layout.greatestDepth) Layout.indent Layout.unindent body
    Layout.put "\n"

/-- The definition of a function without its name, as it is handed to programs: all lines are indented alike. -/
def Command.handedText (docs : HereDocuments) (body : Command) : Text :=
  Layout.run do
    Layout.put "() \x7b "
    Layout.functionBody docs (Layout.command docs Layout.greatestDepth)
      (modify fun l => { l with column := 1, step := 0 }) (modify fun l => { l with column := 0 }) body

end Tangle.Shell
