import Tangle.Host.Shell.Program.Copying
import Tangle.Host.Shell.Regex.Perl

/-! # Searching

The program that shows the lines of files that match, with the lines around them. It goes through a file line
by line, and keeps the lines before in case they are to be shown. -/
namespace Tangle.Shell.Program
open Run

/-! What is searched for -/

/-- How the patterns of a search are written. -/
inductive Writing where
  | basic
  | extended
  | fixed
  | rich
deriving DecidableEq

/-- The expression that matches what any of the patterns does. -/
def expressionOf (w : Writing) (ps : List Text) : Except Text Regex := do
  let each (d : Regex.Dialect) (p : Text) : Except Text (List Regex) :=
    match Regex.read d (Glyph.ofText false p) with
    | .ok r => .ok [r]
    | .error e => .error e.message
  match w with
  | .basic => return .group none (← ps.mapM (each .basic))
  | .extended => return .group none (← ps.mapM (each .searching))
  | .fixed => return .group none (ps.map fun p => p.map Regex.exact)
  | .rich =>
    match ps with
    | [p] =>
      match Regex.Perl.read p with
      | some r => return r
      | none => throw ("invalid pattern" : Text)
    | _ => throw ("the -P option only supports a single pattern" : Text)

/-- The symbols behind backslashes that give them no meaning. -/
def strays (p : Text) : List Symbol :=
  match p with
  | .char '\\' :: s :: t =>
    if s.isAnyOf "(){}|+?*.[]^$123456789\x60'<>bBsSwW\\\n/" then strays t else s :: strays t
  | _ :: t => strays t
  | [] => []

/-- What counts as a match in a line. -/
structure Quarry where
  expression : Regex
  rules : Regex.Rules
  isWord : Bool := false
  isWhole : Bool := false

/-- The ways to match at a spot, the longest first. -/
def Quarry.endsAt (q : Quarry) (line : Text) (s : Regex.Spot) : List Regex.Spot :=
  let ends := Regex.leads ⟨q.rules, line, Regex.refersBack q.expression⟩ q.expression s
  ends.mergeSort fun a b => b.offset ≤ a.offset

def isWordBefore (s : Regex.Spot) : Bool := Regex.isWordSymbol s.before
def isWordAhead (s : Regex.Spot) : Bool := Regex.isWordSymbol s.rest.head?

/-- The first match that is a word. -/
def Quarry.findWord (q : Quarry) (line : Text) : (before : Option Symbol) → (rest : Text) → (offset : Nat) →
    Option (Nat × Nat)
  | before, rest, offset =>
    let here : Regex.Spot := { before, rest, offset }
    let ends := if isWordBefore here then [] else (q.endsAt line here).filter (!isWordAhead ·)
    let good := match q.endsAt line here with
      | [] => none
      | longest :: _ => if longest.offset = offset then ends.head? else ends.find? (offset < ·.offset)
    match good with
    | some s => some (offset, s.offset)
    | none =>
      match rest with
      | c :: t => q.findWord line (some c) t (offset + 1)
      | [] => none

/-- The first match in a line from an offset on. -/
def Quarry.find (q : Quarry) (line : Text) (from_ : Nat) : Option (Nat × Nat) :=
  if q.isWhole then
    if from_ = 0 && (q.endsAt line { before := none, rest := line, offset := 0 }).any (·.rest.isEmpty) then
      some (0, line.length)
    else none
  else if q.isWord then
    q.findWord line (if from_ = 0 then none else (line.drop (from_ - 1)).head?) (line.drop from_) from_
  else (Regex.find q.expression q.rules line from_).map fun m => (m.first, m.last)

/-- The matches in a line that are not empty. -/
def Quarry.all (q : Quarry) (line : Text) : List (Nat × Nat) :=
  go (line.length + 1) 0
where
  go : Nat → Nat → List (Nat × Nat)
    | 0, _ => []
    | n + 1, from_ =>
      match q.find line from_ with
      | none => []
      | some (a, b) =>
        if line.length ≤ a then []
        else if a = b then go n (a + 1)
        else (a, b) :: go n b

/-! What is shown -/

/-- What is told of the files. -/
inductive Telling where
  | lines
  | counts
  | names
  | otherNames
  | nothing
deriving DecidableEq

structure Search where
  quarry : Quarry
  telling : Telling := .lines
  isNegated : Bool := false
  onlyMatches : Bool := false
  showsNumbers : Bool := false
  showsOffsets : Bool := false
  showsNames : Bool := false
  endsNamesInNul : Bool := false
  alignsTabs : Bool := false
  isColored : Bool := false
  before : Nat := 0
  after : Nat := 0
  hasContext : Bool := false
  separator : Option Text := some "--"
  most : Option Nat := none
  isText : Bool := false
  skipsBinary : Bool := false
  isZero : Bool := false

/-- A line with its number and the number of bytes before it. -/
structure NumberedLine where
  number : Nat
  offset : Nat
  text : Text

/-- How far a search has come in a file. -/
structure Trail where
  number : Nat := 0
  offset : Nat := 0
  selected : Nat := 0
  /-- The lines before that have not been shown, the newest first. -/
  before : List NumberedLine := []
  after : Nat := 0
  lastShown : Nat := 0
  isOver : Bool := false
  isBinary : Bool := false
  isSuppressed : Bool := false
  /-- The offset behind the last line that was selected. -/
  resumption : Nat := 0
  /-- Whether anything has been shown, of this file or one before. -/
  hasShown : Bool := false
  /-- What is to be written, newest first. -/
  out : List Text := []

def Trail.put (t : Trail) (s : Text) : Trail := { t with out := s :: t.out }

def Search.paint (q : Search) (code t : Text) : Text :=
  if q.isColored && !t.isEmpty then "\x1b[" ++ code ++ "m\x1b[K" ++ t ++ "\x1b[m\x1b[K" else t

/-- What stands before a line or a match. -/
def Search.head (q : Search) (name : Text) (mark : Char) (number offset : Nat) : Text :=
  let sep := q.paint "36" ([.char mark] : Text)
  let file := if !q.showsNames then [] else q.paint "35" name ++ (if q.endsNamesInNul then [Symbol.nul] else sep)
  let line := if !q.showsNumbers then [] else
    q.paint "32" (if q.alignsTabs then padLeft 4 (Text.ofNat number) else Text.ofNat number) ++ sep
  let place := if !q.showsOffsets then [] else
    q.paint "32" (if q.alignsTabs then padLeft 7 (Text.ofNat offset) else Text.ofNat offset) ++ sep
  let all := file ++ line ++ place
  if q.alignsTabs && !all.isEmpty then all.take (all.length - sep.length) ++ "\t" ++ sep ++ "\x08" else all

/-- The end of a line that is shown. -/
def Search.closing (q : Search) : Text := if q.isZero then [Symbol.nul] else [Symbol.newline]

/-- A line with its matches painted. -/
def Search.painted (q : Search) (line : Text) : Text :=
  if !q.isColored then line
  else
    let (out, last) := (q.quarry.all line).foldl (fun (acc : Text × Nat) m =>
      (acc.1 ++ (line.drop acc.2).take (m.1 - acc.2) ++ q.paint "01;31" ((line.drop m.1).take (m.2 - m.1)), m.2)) ([], 0)
    out ++ line.drop last

/-- The text that is shown for a line. `isSelected` tells whether it is more than context. -/
def Search.shown (q : Search) (name : Text) (isSelected : Bool) (l : NumberedLine) : Text :=
  let mark := if isSelected then ':' else '-'
  let hasMatches := isSelected != q.isNegated
  if q.onlyMatches then
    if !hasMatches then []
    else (q.quarry.all l.text).flatMap fun m =>
      q.head name mark l.number (l.offset + (Text.encode (l.text.take m.1)).length) ++
        q.paint "01;31" ((l.text.drop m.1).take (m.2 - m.1)) ++ q.closing
  else q.head name mark l.number l.offset ++ (if hasMatches then q.painted l.text else l.text) ++ q.closing

/-- Shows a line, unless it holds what is no text. -/
def Search.show (q : Search) (name : Text) (isSelected : Bool) (l : NumberedLine) (t : Trail) : Trail :=
  let t := { t with lastShown := l.number, hasShown := true }
  if !q.isText && l.text.any (fun s => s matches .byte _) then { t with isSuppressed := true }
  else t.put (q.shown name isSelected l)

/-- Shows the lines before one that has been found, behind a mark if they do not follow what was shown last. -/
def Search.showBefore (q : Search) (name : Text) (l : NumberedLine) (t : Trail) : Trail :=
  let lines := (t.before.take q.before).reverse
  let first := (lines.head?.map (·.number)).getD l.number
  let t := match q.separator with
    | some mark =>
      if q.hasContext && t.hasShown && t.lastShown + 1 ≠ first then t.put (q.paint "36" mark ++ "\n") else t
    | none => t
  { lines.foldl (fun t l => q.show name false l t) t with before := [] }

/-- Looks at one line. -/
def Search.step (q : Search) (name : Text) (t : Trail) (record : Bytes) (isEnded : Bool) : Trail :=
  if t.isOver then t
  else
    let text := Text.decode record
    let l : NumberedLine := ⟨t.number + 1, t.offset, text⟩
    let next := t.offset + record.length + (if isEnded then 1 else 0)
    let t := { t with number := l.number, offset := next }
    let isSelected := (q.quarry.find text 0).isSome != q.isNegated
    let isQuiet := q.telling ≠ .lines || t.isBinary
    if q.most.any (· ≤ t.selected) then
      if isSelected || t.after = 0 then { t with isOver := true }
      else
        let t := q.show name false l { t with after := t.after - 1 }
        { t with isOver := t.after = 0 }
    else if isSelected then
      let t := { t with selected := t.selected + 1, resumption := next }
      if isQuiet then
        { t with isOver := q.telling ≠ .counts || q.most.any (· ≤ t.selected) }
      else
        let t := q.show name true l (q.showBefore name l t)
        let t := { t with after := q.after }
        { t with isOver := q.most.any (· ≤ t.selected) && q.after = 0 }
    else if isQuiet then t
    else if 0 < t.after then q.show name false l { t with after := t.after - 1 }
    else if q.before = 0 then t
    else { t with before := l :: t.before.take (q.before - 1) }

/-! Files -/

/-- Goes through a stream. -/
def Search.hunt (q : Search) (name : Text) (i : Nat) (t : Trail) : Run Trail := do
  let mark := lineEnd q.isZero
  let (t, rest) ← keeping i (feed i (fun (t, held) bs => do
    let isBinary := t.isBinary || (!q.isText && !q.isZero && bs.contains 0)
    if isBinary && q.skipsBinary then return (({ t with isOver := true, selected := 0 }, []), false)
    let t := { t with isBinary }
    let (records, rest) := splitRecords mark (if held.isEmpty then bs else held ++ bs)
    let t := records.foldl (fun t r => q.step name t r true) t
    putBytes "grep" (t.out.reverse.flatMap Text.encode)
    return (({ t with out := [] }, rest), !t.isOver)) greatestPieces (t, ([] : Bytes)))
  let t := if rest.isEmpty then t else q.step name t rest false
  put "grep" t.out.reverse.flatten
  if q.most.any (· ≤ t.selected) then
    match ← stream i with
    | .file place _ appends => setStream i (.file place t.resumption appends)
    | _ => pure ()
  return { t with out := [] }

/-- Whether a stream is at the file that is written to. -/
def isOutput (i : Nat) : Run Bool := do
  match ← descriptor? 1 with
  | none => return false
  | some o =>
    match ← stream i, ← stream o with
    | .file p _ _, .file q _ _ => return p = q
    | _, _ => return false

/-- What has been found in all files. -/
structure Catch where
  isFound : Bool := false
  hasFailed : Bool := false
  hasShown : Bool := false

/-- Searches one stream and tells of it. -/
def Search.file (q : Search) (name : Text) (i : Nat) (c : Catch) : Run Catch := do
  if q.telling = .lines && q.most ≠ some 1 && (← isOutput i) then
    report "grep" (name ++ ": input file is also the output")
    return { c with hasFailed := true }
  let t ← q.hunt name i { hasShown := c.hasShown }
  let isFound := 0 < t.selected
  if q.telling = .lines && isFound && (t.isBinary || t.isSuppressed) then
    report "grep" (name ++ ": binary file matches")
  let sep := q.paint "36" ":"
  let nameEnd : Text := if q.endsNamesInNul then [Symbol.nul] else "\n"
  match q.telling with
  | .counts =>
    let file := if !q.showsNames then [] else
      q.paint "35" name ++ (if q.endsNamesInNul then [Symbol.nul] else sep)
    put "grep" (file ++ Text.ofNat t.selected ++ "\n")
  | .names => if isFound then put "grep" (q.paint "35" name ++ nameEnd)
  | .otherNames => if !isFound then put "grep" (q.paint "35" name ++ nameEnd)
  | _ => pure ()
  if isFound && q.telling = .nothing then quit 0
  return { c with isFound := c.isFound || isFound, hasShown := t.hasShown }

/-- Which files of a directory are searched. -/
structure Choice where
  descends : Bool := false
  included : List Text := []
  excluded : List Text := []
  excludedDirectories : List Text := []
  isSilent : Bool := false
  skipsDirectories : Bool := false

def globMatches (pattern name : Text) : Bool :=
  Pattern.isMatch (Pattern.ofGlyphs false (Glyph.ofText false pattern)) false name

def Choice.takes (c : Choice) (name : Text) : Bool :=
  (c.included.isEmpty || c.included.any (globMatches · name)) && !c.excluded.any (globMatches · name)

/-- The files below a directory, with the paths that they are shown under. -/
def filesBelow (c : Choice) : Nat → (path : Text) → (place : Place) → Run (List Text)
  | 0, _, _ => return []
  | n + 1, path, place => do
    let found ← ((← tree).children place).mapM fun (name, node) => do
      let below := if path.isEmpty then name else if Text.endsWith path "/" then path ++ name else path ++ "/" ++ name
      match node with
      | .directory _ =>
        if c.excludedDirectories.any (globMatches · name) then return []
        else filesBelow c n below (place ++ [name])
      | .file .. | .sealed .. => return if c.takes name then [below] else []
      | _ => return []
    return found.flatten

def Search.complain (c : Choice) (name : Text) (e : FileError) : Run Unit := do
  if !c.isSilent then report "grep" (name ++ ": " ++ e.reason)

/-- Searches one operand. -/
def Search.operand (q : Search) (c : Choice) (label path : Text) (isImplied : Bool) (state : Catch) : Run Catch := do
  if isDash path && !isImplied then
    match ← descriptor? 0 with
    | some i => q.file label i state
    | none =>
      Search.complain c label .badDescriptor
      return { state with hasFailed := true }
  else
    match ← lookup path with
    | .ok (place, .directory _) =>
      if c.descends then
        let files ← filesBelow c 1000 (if isImplied then [] else path) place
        files.foldlM (fun state f => single q f state) state
      else if c.skipsDirectories then return state
      else
        Search.complain c path .isDirectory
        return { state with hasFailed := true }
    | .ok _ => single q path state
    | .error e =>
      match descriptorOfPath? path with
      | some _ => single q path state
      | none =>
        Search.complain c path e
        return { state with hasFailed := true }
where
  single (q : Search) (path : Text) (state : Catch) : Run Catch := do
    match ← openInput path with
    | .ok i => q.file path i state
    | .error e =>
      Search.complain c path e
      return { state with hasFailed := true }

/-! Arguments -/

def grepFlags : List Flag := [
  { key := 'E', name := "extended-regexp" }, { key := 'F', name := "fixed-strings" },
  { key := 'G', name := "basic-regexp" }, { key := 'P', name := "perl-regexp" },
  { key := 'e', name := "regexp", need := .required }, { key := 'f', name := "file", need := .required },
  { key := 'i', name := "ignore-case" }, { key := 'y' },
  { key := '\x02', name := "no-ignore-case", isLetter := false }, { key := 'v', name := "invert-match" },
  { key := 'w', name := "word-regexp" }, { key := 'x', name := "line-regexp" }, { key := 'c', name := "count" },
  { key := '\x03', name := "color", need := .optional, isLetter := false },
  { key := '\x03', name := "colour", need := .optional, isLetter := false },
  { key := 'L', name := "files-without-match" }, { key := 'l', name := "files-with-matches" },
  { key := 'm', name := "max-count", need := .required }, { key := 'o', name := "only-matching" },
  { key := 'q', name := "quiet" }, { key := 'q', name := "silent", isLetter := false },
  { key := 's', name := "no-messages" }, { key := 'b', name := "byte-offset" }, { key := 'H', name := "with-filename" },
  { key := 'h', name := "no-filename" }, { key := '\x04', name := "label", need := .required, isLetter := false },
  { key := 'n', name := "line-number" }, { key := 'T', name := "initial-tab" }, { key := 'Z', name := "null" },
  { key := 'A', name := "after-context", need := .required }, { key := 'B', name := "before-context", need := .required },
  { key := 'C', name := "context", need := .required },
  { key := '\x05', name := "group-separator", need := .required, isLetter := false },
  { key := '\x06', name := "no-group-separator", isLetter := false }, { key := 'a', name := "text" },
  { key := '\x07', name := "binary-files", need := .required, isLetter := false },
  { key := 'I' }, { key := 'D', name := "devices", need := .required },
  { key := 'd', name := "directories", need := .required }, { key := 'r', name := "recursive" },
  { key := 'R', name := "dereference-recursive" },
  { key := '\x08', name := "include", need := .required, isLetter := false },
  { key := '\x0e', name := "exclude", need := .required, isLetter := false },
  { key := '\x0f', name := "exclude-dir", need := .required, isLetter := false },
  { key := '\x10', name := "line-buffered", isLetter := false }, { key := 'U', name := "binary" },
  { key := 'u', name := "unix-byte-offsets" }, { key := 'z', name := "null-data" }]

/-- Arguments with counts of context such as `-5` spelt out. -/
def spelledContexts : List Text → List Text
  | [] => []
  | a :: rest =>
    if a = ("--" : Text) then a :: rest
    else match a with
      | .char '-' :: ds =>
        (if !ds.isEmpty && ds.all Symbol.isDigit then "-C" ++ ds else a) :: spelledContexts rest
      | _ => a :: spelledContexts rest

def grepUsage : Text := "Usage: grep [OPTION]... PATTERNS [FILE]...\nTry 'grep --help' for more information.\n"

/-- The patterns that flags give. -/
def givenPatterns (cs : Chosen) : Run (List Text) := do
  let found ← cs.mapM fun (c, t) => do
    if c = 'e' then return Text.pieces Symbol.newline t
    else if c = 'f' then
      match ← openSource t with
      | .ok i => return linesIn false (← keeping i (drain i))
      | .error e => die "grep" 2 (t ++ ": " ++ e.reason)
    else return []
  return found.flatten

/-- Searches for lines, with patterns written in some way unless the flags tell otherwise. -/
def grep (writing : Writing) (args : List Text) : Run Nat := do
  let fs := grepFlags ++ [{ key := versionKey, name := "version", isLetter := false }, { key := versionKey, name := "V" }]
  match readFlags fs (← isOn "posix") none (spelledContexts args) with
  | .error f =>
    report "grep" f.message
    let _ ← write 2 grepUsage
    return 2
  | .ok (cs, operands) =>
    let has (c : Char) : Bool := hasOption c cs
    if has versionKey then return ← say "grep (GNU grep) 3.8\n"
    let writing := match lastOf "EFGP" cs with
      | some 'E' => .extended
      | some 'F' => .fixed
      | some 'P' => .rich
      | some _ => .basic
      | none => writing
    let number (c : Char) (what : Text) : Run (Option Nat) := do
      match optionValue? c cs with
      | none => return none
      | some t =>
        match sized? t with
        | some n => return some n
        | none => die "grep" 2 (if c = 'm' then what else t ++ ": " ++ what)
    let around ← number 'C' "invalid context length argument"
    let before ← number 'B' "invalid context length argument"
    let after ← number 'A' "invalid context length argument"
    let most ← number 'm' "invalid max count"
    let hasPatterns := cs.any fun c => c.1 = 'e' || c.1 = 'f'
    let (patterns, paths) ← if hasPatterns then do pure (← givenPatterns cs, operands) else
      match operands with
      | p :: paths => pure (Text.pieces Symbol.newline p, paths)
      | [] => do
        let _ ← write 2 grepUsage
        quit 2
    match expressionOf writing patterns with
    | .error e => die "grep" 2 e
    | .ok expression =>
      if writing = .basic || writing = .extended then
        for s in patterns.flatMap strays do report "grep" ("warning: stray \\ before " ++ [s])
      let telling : Telling := if has 'q' then .nothing else match lastOf "lL" cs with
        | some 'l' => .names
        | some _ => .otherNames
        | none => if has 'c' then .counts else .lines
      let descends := has 'r' || has 'R' || optionValue? 'd' cs = some "recurse"
      let isImplied := descends && paths.isEmpty
      let paths := if isImplied then [("." : Text)] else sourcesOf paths
      let isDirectory ← match paths with
        | [p] => do
          match ← lookup p with
          | .ok (_, .directory _) => pure descends
          | _ => pure false
        | _ => pure false
      let showsNames := match lastOf "Hh" cs with
        | some 'H' => true
        | some _ => false
        | none => 1 < paths.length || isDirectory
      let binary := (optionValue? '\x07' cs).getD (if has 'a' then "text" else if has 'I' then "without-match" else "binary")
      let color := optionValue? '\x03' cs
      let q : Search := {
        quarry := {
          expression
          rules := { ignoresCase := lastOf "iy\x02" cs ≠ none && lastOf "iy\x02" cs ≠ some '\x02'
                     isPreferred := writing = .rich }
          isWord := has 'w', isWhole := has 'x' }
        telling, isNegated := has 'v', onlyMatches := has 'o', showsNumbers := has 'n', showsOffsets := has 'b'
        showsNames, endsNamesInNul := has 'Z', alignsTabs := has 'T'
        isColored := color = some "always" || color = some "yes" || color = some "force"
        before := (before.or around).getD 0, after := (after.or around).getD 0
        hasContext := before.isSome || after.isSome || around.isSome
        separator := match lastOf "\x05\x06" cs with
          | some '\x05' => optionValue? '\x05' cs
          | some _ => none
          | none => some "--"
        most, isText := binary = ("text" : Text), skipsBinary := binary = ("without-match" : Text), isZero := has 'z' }
      let c : Choice := {
        descends, included := optionValues '\x08' cs, excluded := optionValues '\x0e' cs
        excludedDirectories := optionValues '\x0f' cs, isSilent := has 's'
        skipsDirectories := optionValue? 'd' cs = some "skip" }
      if most = some 0 then return 1
      let label := (optionValue? '\x04' cs).getD "(standard input)"
      let found ← paths.foldlM (fun state p => q.operand c label p isImplied state) ({} : Catch)
      return if found.hasFailed then (if telling = .nothing && found.isFound then 0 else 2)
        else statusOf found.isFound

end Tangle.Shell.Program
