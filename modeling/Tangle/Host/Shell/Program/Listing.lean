import Tangle.Host.Shell.Program.Naming
import Tangle.Host.Shell.Program.Mode
import Tangle.Host.Shell.Program.Sorting
import Tangle.Host.Shell.Prompt

/-! # Listings

The programs that list directories and tell what is known of files. -/
namespace Tangle.Shell.Program
open Run

/-! What is known of a file -/

/-- A name with what it leads to. -/
structure Entry where
  name : Text
  place : Place
  node : Node
  links : Nat := 1
  /-- The moment of the last change, in microseconds. -/
  changed : Nat := 0

/-- Where a shared file is kept, or the place itself. -/
def keptAt (t : Tree) (place : Place) : Place :=
  match t.node? place with
  | some (.shared q) => q
  | _ => place

def entryOf (name : Text) (place : Place) (node : Node) : Run Entry := do
  let w ← world
  let kept := match node with
    | .shared q => q
    | _ => place
  let node := w.tree.settled node
  let links := match node with
    | .directory _ => 2 + (w.tree.children place).countP fun c => c.2.isDirectory
    | _ => max 1 (w.tree.namesOf kept)
  return { name, place := kept, node, links, changed := w.changeOf kept }

/-- What a path leads to, a link at its end being followed or not. -/
def entryAt (follows : Bool) (path : Text) : Run (Except FileError Entry) := do
  match ← (if follows then lookup path else lookupLink path) with
  | .error e => return .error e
  | .ok (place, node) => return .ok (← entryOf path place node)

def sizeOf : Node → Nat
  | .file content _ => content.length
  | .directory _ => 4096
  | .link target => target.encode.length
  | _ => 0

/-- The number of pieces of 512 bytes that a file takes. -/
def blocksOf : Node → Nat
  | .file content _ => (content.length + 4095) / 4096 * 8
  | .directory _ => 8
  | _ => 0

/-- A number that tells a place from others. -/
def identityOf (place : Place) : Run Nat := do
  return ((← tree).entries.findIdx fun e => e.1 = place) + 1000

/-- A size with a letter for its power of 1024. -/
def humanSize (n : Nat) : Text :=
  if n < 1024 then Text.ofNat n else go 10 n 1024 "KMGTPE".toList
where
  go : Nat → Nat → Nat → List Char → Text
    | 0, n, _, _ => Text.ofNat n
    | _, n, _, [] => Text.ofNat n
    | k + 1, n, unit, c :: cs =>
      let tenths := (n * 10 + unit - 1) / unit
      if tenths < 100 then Text.ofNat (tenths / 10) ++ "." ++ Text.ofNat (tenths % 10) ++ ([.char c] : Text)
      else
        let whole := (n + unit - 1) / unit
        if whole < 1024 || cs.isEmpty then Text.ofNat whole ++ ([.char c] : Text) else go k n (unit * 1024) cs

/-! Lists -/

inductive Order where
  | name
  | size
  | time
  | version
  | ending
  | none
deriving DecidableEq

inductive NameQuoting where
  | literal
  | doubled
  | escaped
  | words
deriving DecidableEq

structure Listing where
  showsAll : Bool := false
  showsDots : Bool := false
  hidesBackups : Bool := false
  /-- The letter of the marks behind names: all of them, those of directories, or those but of programs. -/
  marks : Option Char := none
  isReverse : Bool := false
  order : Order := .name
  isLong : Bool := false
  showsOwner : Bool := true
  showsGroup : Bool := true
  isHuman : Bool := false
  showsIdentity : Bool := false
  showsBlocks : Bool := false
  isNumeric : Bool := false
  namesPlainly : Bool := false
  follows : Bool := false
  descends : Bool := false
  isComma : Bool := false
  isColumns : Bool := false
  isAcross : Bool := false
  width : Nat := 80
  directoriesFirst : Bool := false
  quoting : NameQuoting := .literal
  hidden : List Text := []
  ending : Text := "\n"
  fullTime : Bool := false
  timeStyle : Option Text := none

def Listing.quotedName (l : Listing) (t : Text) : Text :=
  let escapes (t : Text) (extra : String) : Text := t.flatMap fun s =>
    if s.is '\\' then "\\\\" else if s.is '\n' then "\\n" else if s.is '\t' then "\\t"
    else if s.isAnyOf extra then ([.char '\\', s] : Text) else [s]
  match l.quoting with
  | .literal => t
  | .doubled => "\"" ++ escapes t "\"" ++ "\""
  | .escaped => escapes t " "
  | .words => shown t

/-- The mark behind a name. -/
def Listing.mark (l : Listing) (n : Node) : Text :=
  match l.marks with
  | none => ""
  | some style =>
    match n with
    | .directory _ => "/"
    | .link _ => if style = 'p' || l.isLong then "" else "@"
    | .pipe .. => if style = 'p' then "" else "|"
    | .file _ mode => if style = 'F' && mode &&& 0o111 ≠ 0 then "*" else ""
    | _ => ""

def extensionOf (t : Text) : Text :=
  let tail := t.reverse.takeWhile (!·.is '.')
  if tail.length = t.length then [] else (Symbol.char '.') :: tail.reverse

def Listing.sorted (l : Listing) (es : List Entry) : List Entry :=
  let byName (a b : Entry) : Bool := nameLe a.name b.name
  let le : Entry → Entry → Bool := match l.order with
    | .size => fun a b =>
      let x := sizeOf a.node
      let y := sizeOf b.node
      y < x || (x == y && byName a b)
    | .time => fun a b => b.changed < a.changed || (a.changed == b.changed && byName a b)
    | .version => fun a b => compareVersions a.name.encode b.name.encode != .gt
    | .ending => fun a b =>
      let x := extensionOf a.name
      let y := extensionOf b.name
      if x = y then byName a b else nameLe x y
    | _ => byName
  let es := if l.order = .none then es else es.mergeSort le
  let es := if l.isReverse && l.order ≠ .none then es.reverse else es
  if l.directoriesFirst then
    let (ds, fs) := es.partition fun e => e.node.isDirectory
    ds ++ fs
  else es

/-- The moment of a change as lists show it. -/
def Listing.timeText (l : Listing) (now : Nat) (e : Entry) : Text :=
  let at_ := Civil.Shown.ofSeconds (e.changed / 1000000) (e.changed % 1000000 * 1000)
  let isRecent := now < e.changed + 15778476000000
  let format : Text := match l.timeStyle with
    | some (.char '+' :: f) => f
    | some t =>
      match t.toDisplayString with
      | "full-iso" => "%Y-%m-%d %H:%M:%S.%N %z"
      | "long-iso" => "%Y-%m-%d %H:%M"
      | "iso" => if isRecent then "%m-%d %H:%M" else "%Y-%m-%d "
      | _ => if isRecent then "%b %e %H:%M" else "%b %e  %Y"
    | none => if l.fullTime then "%Y-%m-%d %H:%M:%S.%N %z" else if isRecent then "%b %e %H:%M" else "%b %e  %Y"
  formatMoment at_ format

/-- The name with what stands directly before and behind it. -/
def Listing.nameText (l : Listing) (e : Entry) : Run Text := do
  let target : Text := match e.node with
    | .link t => if l.isLong then " -> " ++ l.quotedName t else []
    | _ => []
  return l.quotedName e.name ++ l.mark e.node ++ target

/-- Columns of texts, each as wide as the widest of its texts. -/
def aligned (rows : List (List (Bool × Text))) : List Text :=
  let count := (rows.head?.map (·.length)).getD 0
  let widths := (List.range count).map fun i => (rows.map fun r => (r.getD i (false, [])).2.length).foldl max 0
  rows.map fun r => Text.join " " ((r.zip widths).map fun ((isLeft, t), w) =>
    if isLeft then Text.padEnd w t else padLeft w t)

/-- The fields of an entry before its name. -/
def Listing.fields (l : Listing) (now : Nat) (e : Entry) : Run (List (Bool × Text)) := do
  let owner : Text := if l.isNumeric then "0" else "root"
  let size := sizeOf e.node
  let identity ← if l.showsIdentity then do pure [(false, Text.ofNat (← identityOf e.place))] else pure []
  let blocks := blocksOf e.node / 2
  return identity ++
    (if l.showsBlocks then [(false, if l.isHuman then humanSize (blocks * 1024) else Text.ofNat blocks)] else []) ++
    (if !l.isLong then [] else
      [(true, modeText e.node), (false, Text.ofNat e.links)] ++
      (if l.showsOwner then [(true, owner)] else []) ++ (if l.showsGroup then [(true, owner)] else []) ++
      [(false, match e.node with
        | .device _ => "1, 3"
        | _ => if l.isHuman then humanSize size else Text.ofNat size), (false, l.timeText now e)])

/-- Names in columns that fill a line, from the top down or across. -/
def columns (width : Nat) (isAcross : Bool) (names : List Text) : List Text :=
  let count := names.length
  let layout (cols : Nat) : Nat × List Nat :=
    let rows := (count + cols - 1) / cols
    let at_ (i : Nat) : Nat := if isAcross then i % cols else i / rows
    (rows, (List.range cols).map fun c =>
      ((names.zipIdx.filter fun n => at_ n.2 = c).map fun n => n.1.length + 2).foldl max 3)
  let fits (cols : Nat) : Bool :=
    let (_, ws) := layout cols
    (ws.foldl (· + ·) 0) < width + 2
  let cols := (((List.range (min count (max 1 (width / 3)))).map (· + 1)).reverse.find? fits).getD 1
  let (rows, ws) := layout cols
  (List.range rows).map fun r =>
    let line := (List.range cols).filterMap fun c =>
      (names[if isAcross then r * cols + c else c * rows + r]?).map fun n => (c, n)
    (line.zipIdx.flatMap fun ((c, n), i) =>
      if i + 1 = line.length then n else Text.padEnd (ws.getD c 0) n)

def Listing.put (l : Listing) (es : List Entry) : Run Unit := do
  let now := (← world).clock
  let es := l.sorted es
  let names ← es.mapM l.nameText
  let heads := aligned (← es.mapM (l.fields now))
  let all := (heads.zip names).map fun (h, n) => if h.isEmpty then n else h ++ " " ++ n
  if l.isComma && !l.isLong then
    if !all.isEmpty then Program.put "ls" (comma all [] 0 ++ "\n")
  else if (l.isColumns || l.isAcross) && !l.isLong then putLines "ls" (columns l.width l.isAcross all)
  else Program.put "ls" (all.flatMap (· ++ l.ending))
where
  comma : List Text → Text → Nat → Text
    | [], done, _ => done
    | t :: ts, done, column =>
      let more : Text := if ts.isEmpty then "" else ","
      let needed := t.length + more.length
      if column = 0 then comma ts (done ++ t ++ more) needed
      else if column + 1 + needed ≤ l.width - 1 then comma ts (done ++ " " ++ t ++ more) (column + 1 + needed)
      else comma ts (done ++ "\n" ++ t ++ more) needed

def Listing.isListed (l : Listing) (name : Text) : Bool :=
  (l.showsAll || l.showsDots || !Field.isHidden name) && !(l.hidesBackups && Text.endsWith name "~") &&
    !l.hidden.any fun p => Pattern.isMatch (Pattern.ofGlyphs false (Glyph.ofText false p)) false name

/-- Lists a directory, and those below it if that is asked for. `title` tells how it is introduced. -/
def Listing.directory (l : Listing) : Nat → (path : Text) → (place : Place) → (isTitled isFirst : Bool) → Run Unit
  | 0, _, _, _, _ => return
  | n + 1, path, place, isTitled, isFirst => do
    if isTitled then Program.put "ls" ((if isFirst then "" else "\n") ++ path ++ ":\n")
    let children := ((← tree).children place).filter fun c => l.isListed c.1
    let nodes : List (Text × Place × Node) := children.map fun c => (c.1, place ++ [c.1], c.2)
    let self : Node := ((← tree).node? place).getD (.directory 0o755)
    let parent : Node := ((← tree).node? place.dropLast).getD (.directory 0o755)
    let dots := if l.showsAll then [((".": Text), place, self), ("..", place.dropLast, parent)] else []
    let es ← (dots ++ nodes).mapM fun (name, p, node) => do
      let e ← entryOf name p node
      if l.follows then
        match ← entryAt true (placeText p) with
        | .ok f => return { f with name }
        | .error _ => return e
      else return e
    if l.isLong || l.showsBlocks then
      let total := (es.map fun e => blocksOf e.node).foldl (· + ·) 0 / 2
      Program.put "ls" ("total " ++ (if l.isHuman then humanSize (total * 1024) else Text.ofNat total) ++ "\n")
    l.put es
    if l.descends then
      for e in l.sorted es do
        if e.node.isDirectory && e.name ≠ ("." : Text) && e.name ≠ (".." : Text) then
          let below := if Text.endsWith path "/" then path ++ e.name else path ++ "/" ++ e.name
          l.directory n below e.place true false

def lsFlags : List Flag := [
  { key := 'a', name := "all" }, { key := 'A', name := "almost-all" }, { key := 'b', name := "escape" },
  { key := 'B', name := "ignore-backups" }, { key := 'c' }, { key := 'C' }, { key := 'd', name := "directory" },
  { key := 'f' }, { key := 'F', name := "classify", need := .optional, isLetter := false }, { key := 'F' }, { key := 'g' },
  { key := 'G', name := "no-group" }, { key := 'h', name := "human-readable" }, { key := 'H' }, { key := 'i', name := "inode" },
  { key := 'I', name := "ignore", need := .required }, { key := 'k', name := "kibibytes" }, { key := 'l' },
  { key := 'L', name := "dereference" }, { key := 'm' }, { key := 'n', name := "numeric-uid-gid" },
  { key := 'N', name := "literal" }, { key := 'o' }, { key := 'p' }, { key := 'q', name := "hide-control-chars" },
  { key := 'Q', name := "quote-name" }, { key := 'r', name := "reverse" }, { key := 'R', name := "recursive" },
  { key := 's', name := "size" }, { key := 'S' }, { key := 't' }, { key := 'T', name := "tabsize", need := .required },
  { key := 'u' }, { key := 'U' }, { key := 'v' }, { key := 'w', name := "width", need := .required }, { key := 'x' },
  { key := 'X' }, { key := '1' }, { key := 'Z', name := "context" },
  { key := '\x02', name := "color", need := .optional, isLetter := false },
  { key := '\x03', name := "group-directories-first", isLetter := false },
  { key := '\x04', name := "sort", need := .required, isLetter := false },
  { key := '\x05', name := "full-time", isLetter := false },
  { key := '\x06', name := "time-style", need := .required, isLetter := false },
  { key := '\x07', name := "zero", isLetter := false },
  { key := '\x08', name := "indicator-style", need := .required, isLetter := false },
  { key := '\x0e', name := "hide", need := .required, isLetter := false },
  { key := '\x0f', name := "quoting-style", need := .required, isLetter := false },
  { key := '\x10', name := "file-type", isLetter := false },
  { key := '\x11', name := "format", need := .required, isLetter := false },
  { key := '\x12', name := "time", need := .required, isLetter := false },
  { key := '\x13', name := "author", isLetter := false }]

def orderOf (cs : Chosen) : Order :=
  match cs.reverse.find? fun c => "StUvXf\x04".contains c.1 with
  | some ('S', _) => .size
  | some ('t', _) => .time
  | some ('v', _) => .version
  | some ('X', _) => .ending
  | some ('\x04', t) =>
    match t.toDisplayString with
    | "size" => .size
    | "time" => .time
    | "version" => .version
    | "extension" => .ending
    | "none" => .none
    | _ => .name
  | some _ => .none
  | none => .name

def listingOf (cs : Chosen) : Listing :=
  let has (c : Char) : Bool := hasOption c cs
  let isLong := match lastOf "lgon1Cxm\x05" cs with
    | none => false
    | some c => "lgon\x05".contains c || (c = '1' && cs.any fun o => "lgon\x05".contains o.1)
  let marks : Option Char := match cs.reverse.find? fun c => "Fp\x08\x10".contains c.1 with
    | some ('F', _) => some 'F'
    | some ('p', _) => some 'p'
    | some ('\x10', _) => some 't'
    | some (_, t) =>
      match t.toDisplayString with
      | "slash" => some 'p'
      | "file-type" => some 't'
      | "classify" => some 'F'
      | _ => none
    | none => none
  let quoting : NameQuoting := match cs.reverse.find? fun c => "bQN\x0f".contains c.1 with
    | some ('b', _) => .escaped
    | some ('Q', _) => .doubled
    | some ('\x0f', t) =>
      match t.toDisplayString with
      | "c" => .doubled
      | "escape" => .escaped
      | "shell" => .words
      | "shell-escape" => .words
      | _ => .literal
    | _ => .literal
  { showsAll := lastOf "aA" cs = some 'a' || has 'f', showsDots := has 'A', hidesBackups := has 'B', marks
    isReverse := has 'r', order := orderOf cs, isLong, showsOwner := !has 'g', showsGroup := !has 'o' && !has 'G'
    isHuman := has 'h', showsIdentity := has 'i', showsBlocks := has 's', isNumeric := has 'n'
    namesPlainly := has 'd', follows := has 'L', descends := has 'R'
    isComma := lastOf "lgon1Cxm\x05" cs = some 'm', isColumns := lastOf "lgon1Cxm\x05" cs = some 'C'
    isAcross := lastOf "lgon1Cxm\x05" cs = some 'x'
    width := ((optionValue? 'w' cs).map naturalOf).getD 80
    directoriesFirst := has '\x03', quoting, hidden := optionValues 'I' cs ++ optionValues '\x0e' cs
    ending := if has '\x07' then [Symbol.nul] else "\n", fullTime := has '\x05', timeStyle := optionValue? '\x06' cs }

def ls (args : List Text) : Run Nat :=
  withFlags "ls" 2 lsFlags args fun cs paths => do
    let l := listingOf cs
    let followsGiven := l.follows || hasOption 'H' cs || !(l.isLong || l.marks = some 'F' || l.namesPlainly)
    let paths := if paths.isEmpty then [("." : Text)] else paths
    let found ← paths.mapM fun p => do
      match ← entryAt followsGiven p with
      | .ok e => return some { e with name := p }
      | .error e =>
        match ← entryAt false p with
        | .ok f =>
          if !l.follows then return some { f with name := p }
          report "ls" ("cannot access " ++ quoted p ++ ": " ++ e.reason)
          return none
        | .error _ =>
          report "ls" ("cannot access " ++ quoted p ++ ": " ++ e.reason)
          return none
    let es := found.filterMap id
    let (directories, files) := es.partition fun e => e.node.isDirectory && !l.namesPlainly
    l.put files
    let isTitled := 1 < paths.length || l.descends
    for (e, i) in (l.sorted directories).zipIdx do
      l.directory 1000 e.name e.place isTitled (i = 0 && files.isEmpty)
    return if found.all (·.isSome) then 0 else 2

def dir (args : List Text) : Run Nat := ls ("-C" :: "-b" :: args)
def vdir (args : List Text) : Run Nat := ls ("-l" :: "-b" :: args)

/-! What is known of a file, as a format asks for -/

structure StatField where
  flags : Text := []
  width : Nat := 0
  precision : Option Nat := none

def StatField.filled (f : StatField) (isNumber : Bool) (t : Text) : Text :=
  let t := match f.precision with
    | some n => if isNumber then List.replicate (n - t.length) (.char '0') ++ t else t.take n
    | none => t
  if f.flags.any (·.is '-') then Text.padEnd f.width t
  else if isNumber && f.flags.any (·.is '0') then List.replicate (f.width - t.length) (.char '0') ++ t
  else padLeft f.width t

def momentText (changed : Nat) : Text :=
  formatMoment (Civil.Shown.ofSeconds (changed / 1000000) (changed % 1000000 * 1000)) "%Y-%m-%d %H:%M:%S.%N %z"

/-- The value of a letter: whether it is a number, and its text. -/
def statValue? (e : Entry) (name : Text) (identity : Nat) (f : StatField) (c : Char) : Option (Bool × Text) :=
  let number (n : Nat) : Option (Bool × Text) := some (true, Text.ofNat n)
  let text (t : Text) : Option (Bool × Text) := some (false, t)
  match c with
  | 'a' =>
    let t := octalText e.node.mode
    some (true, if f.flags.any (·.is '#') && !(t.head?.any (·.is '0')) then "0" ++ t else t)
  | 'A' => text (modeText e.node)
  | 'b' => number (blocksOf e.node)
  | 'B' => number 512
  | 'd' => number 64
  | 'D' => some (true, "40")
  | 'f' => some (true, Text.ofChars (Nat.toDigits 16 (kindBits e.node ||| e.node.mode)))
  | 'F' => text (kindText e.node)
  | 'g' => number 0
  | 'G' => text "root"
  | 'h' => number e.links
  | 'i' => number identity
  | 'm' => text "/"
  | 'n' => text name
  | 'N' => text (match e.node with
    | .link t => quoted name ++ " -> " ++ quoted t
    | _ => quoted name)
  | 'o' => number 4096
  | 's' => number (sizeOf e.node)
  | 't' => number 0
  | 'T' => number 0
  | 'u' => number 0
  | 'U' => text "root"
  | 'w' => text (momentText e.changed)
  | 'x' => text (momentText e.changed)
  | 'y' => text (momentText e.changed)
  | 'z' => text (momentText e.changed)
  | 'W' => number (e.changed / 1000000)
  | 'X' => number (e.changed / 1000000)
  | 'Y' => number (e.changed / 1000000)
  | 'Z' => number (e.changed / 1000000)
  | _ => none

/-- A format with its letters replaced. -/
def statText (e : Entry) (name : Text) (identity : Nat) (escapes : Bool) : Nat → Text → Text
  | 0, _ => []
  | _, [] => []
  | n + 1, .char '%' :: t =>
    match t with
    | .char '%' :: rest => .char '%' :: statText e name identity escapes n rest
    | _ =>
      let flags := t.takeWhile (·.isAnyOf "-+ #0'")
      let r := t.drop flags.length
      let ds := r.takeWhile Symbol.isDigit
      let r := r.drop ds.length
      let (precision, r) : Option Nat × Text := match r with
        | .char '.' :: r =>
          let ps := r.takeWhile Symbol.isDigit
          (some (naturalOf ps), r.drop ps.length)
        | r => (none, r)
      let f : StatField := { flags, width := naturalOf ds, precision }
      match r with
      | .char c :: rest =>
        match statValue? e name identity f c with
        | some (isNumber, v) => f.filled isNumber v ++ statText e name identity escapes n rest
        | none => "?" ++ statText e name identity escapes n rest
      | _ => "%" ++ statText e name identity escapes n t
  | n + 1, .char '\\' :: t =>
    if !escapes then .char '\\' :: statText e name identity escapes n t
    else match t with
      | .char 'n' :: rest => .char '\n' :: statText e name identity escapes n rest
      | .char 't' :: rest => .char '\t' :: statText e name identity escapes n rest
      | .char '\\' :: rest => .char '\\' :: statText e name identity escapes n rest
      | .char '0' :: rest =>
        let ds := (rest.take 3).takeWhile (·.isAnyOf "01234567")
        .char (Char.ofNat (ds.foldl (fun n d => n * 8 + (Escape.digitValue d).getD 0) 0)) ::
          statText e name identity escapes n (rest.drop ds.length)
      | s :: rest => s :: statText e name identity escapes n rest
      | [] => [.char '\\']
  | n + 1, s :: t => s :: statText e name identity escapes n t

def standardStat : Text :=
  "  File: %N\n  Size: %-10s\tBlocks: %-10b IO Block: %-6o %F\nDevice: 0,%d\tInode: %-11i Links: %h\n" ++
    ("Access: (%04a/%10.10A)  Uid: (%5u/%8U)   Gid: (%5g/%8G)\nAccess: %x\nModify: %y\nChange: %z\n Birth: %w\n" : Text)

def stat (args : List Text) : Run Nat := do
  let fs : List Flag := [
    { key := 'L', name := "dereference" }, { key := 'f', name := "file-system" },
    { key := 'c', name := "format", need := .required },
    { key := '\x02', name := "printf", need := .required, isLetter := false }, { key := 't', name := "terse" },
    { key := '\x03', name := "cached", need := .required, isLetter := false }]
  withFlags "stat" 1 fs args fun cs paths => do
    needOperands "stat" 1 none paths
    let (format, escapes, ending) : Text × Bool × Text := match cs.reverse.find? fun c => "c\x02".contains c.1 with
      | some ('c', f) => (f, false, "\n")
      | some (_, f) => (f, true, "")
      | none =>
        if hasOption 't' cs then ("%n %s %b %f %u %g %D %i %h %t %T %X %Y %Z %W %o", false, "\n")
        else (standardStat, false, "")
    let oks ← paths.mapM fun p => do
      match ← entryAt (hasOption 'L' cs) p with
      | .error e =>
        report "stat" ("cannot statx " ++ quoted p ++ ": " ++ e.reason)
        return false
      | .ok e =>
        let identity ← identityOf e.place
        put "stat" (statText e p identity escapes (format.length + 1) format ++ ending)
        return true
    return statusOf (oks.all id)

/-! Sizes -/

/-- The sizes of a directory and all below it, those that are below before it. -/
def sizesBelow (size : Node → Nat) (t : Tree) : Nat → (path : Text) → Place → Node → List (Text × Bool × Nat)
  | 0, _, _, _ => []
  | n + 1, path, place, node =>
    match node with
    | .directory _ =>
      let below := (t.children place).flatMap fun (name, child) =>
        (sizesBelow size t n (path ++ "/" ++ name) (place ++ [name]) (t.settled child))
      let total := (below.filter fun e => (e.1.drop (path.length + 1)).all (!·.is '/')).map (·.2.2)
      below ++ [(path, true, total.foldl (· + ·) (size node))]
    | _ => [(path, false, size node)]

def du (args : List Text) : Run Nat := do
  let fs : List Flag := [
    { key := 'a', name := "all" }, { key := 'b', name := "bytes" }, { key := 's', name := "summarize" },
    { key := 'c', name := "total" }, { key := 'h', name := "human-readable" }, { key := 'k' }, { key := 'm' },
    { key := '\x02', name := "apparent-size", isLetter := false }, { key := 'd', name := "max-depth", need := .required },
    { key := 'x', name := "one-file-system" }, { key := 'L', name := "dereference" }, { key := '0', name := "null" }]
  withFlags "du" 1 fs args fun cs paths => do
    let isApparent := hasOption 'b' cs || hasOption '\x02' cs
    let size (n : Node) : Nat := if isApparent then sizeOf n else blocksOf n * 512
    let text (n : Nat) : Text :=
      if hasOption 'h' cs then humanSize n else if hasOption 'b' cs then Text.ofNat n
      else if hasOption 'm' cs then Text.ofNat ((n + 1048575) / 1048576) else Text.ofNat ((n + 1023) / 1024)
    let ending := endMark (hasOption '0' cs) true
    let mut total := 0
    let mut ok := true
    for p in (if paths.isEmpty then [("." : Text)] else paths) do
      match ← entryAt (hasOption 'L' cs) p with
      | .error e =>
        report "du" ("cannot access " ++ quoted p ++ ": " ++ e.reason)
        ok := false
      | .ok e =>
        let all := sizesBelow size (← tree) 1000 p e.place e.node
        let deepest := if hasOption 's' cs then some 0 else (optionValue? 'd' cs).map naturalOf
        for (path, isDirectory, n) in all do
          let depth := (path.drop p.length).countP (·.is '/')
          if path = p || ((isDirectory || hasOption 'a' cs) && deepest.all (depth ≤ ·)) then
            put "du" (text n ++ "\t" ++ path ++ ending)
          if path = p then total := total + n
    if hasOption 'c' cs then put "du" (text total ++ "\ttotal" ++ ending)
    return statusOf ok

end Tangle.Shell.Program
