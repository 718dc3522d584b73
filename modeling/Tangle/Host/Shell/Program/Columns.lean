import Tangle.Host.Shell.Program.Pairing

/-! # Columns

The programs that count what is in files, take lines apart into fields or positions and put them together,
and change between tabs and blanks. -/
namespace Tangle.Shell.Program
open Run

/-! Counts -/

/-- What has been counted, and the state in between: whether a word is being read, the column, and the bytes of
a symbol that is not complete. -/
structure Tally where
  lines : Nat := 0
  words : Nat := 0
  symbols : Nat := 0
  bytes : Nat := 0
  widest : Nat := 0
  isInWord : Bool := false
  column : Nat := 0
  held : Bytes := []

def isWordGap (n : Nat) : Bool :=
  (9 ≤ n && n ≤ 13) || n = 32 || n = 0xA0 || n = 0x1680 || (0x2000 ≤ n && n ≤ 0x200A) || n = 0x2028 || n = 0x2029 ||
    n = 0x202F || n = 0x205F || n = 0x2060 || n = 0x3000

/-- The number of columns that a character takes. -/
def columnsOf (c : Char) : Nat :=
  let n := c.toNat
  if n < 32 || n = 127 then 0
  else if (0x300 ≤ n && n ≤ 0x36F) || n = 0x200B || (0x20D0 ≤ n && n ≤ 0x20FF) || (0xFE00 ≤ n && n ≤ 0xFE0F) then 0
  else if (0x1100 ≤ n && n ≤ 0x115F) || (0x2E80 ≤ n && n ≤ 0x303E) || (0x3041 ≤ n && n ≤ 0xA4CF) ||
      (0xAC00 ≤ n && n ≤ 0xD7A3) || (0xF900 ≤ n && n ≤ 0xFAFF) || (0xFE30 ≤ n && n ≤ 0xFE6F) ||
      (0xFF00 ≤ n && n ≤ 0xFF60) || (0xFFE0 ≤ n && n ≤ 0xFFE6) || (0x1F300 ≤ n && n ≤ 0x1F64F) ||
      (0x1F900 ≤ n && n ≤ 0x1F9FF) || (0x20000 ≤ n && n ≤ 0x3FFFD) then 2
  else 1

def Tally.symbol (t : Tally) (s : Symbol) : Tally :=
  match s with
  | .byte _ | .lone _ => t
  | .char c =>
    let t := { t with symbols := t.symbols + 1 }
    let lineOver (t : Tally) : Tally := { t with widest := max t.widest t.column, column := 0 }
    if c = '\n' then
      { lineOver t with lines := t.lines + 1, isInWord := false }
    else if c = '\r' || c = '\x0c' then { lineOver t with isInWord := false }
    else if c = '\t' then { t with column := t.column + 8 - t.column % 8, isInWord := false }
    else
      let t := { t with column := t.column + columnsOf c }
      if isWordGap c.toNat then { t with isInWord := false }
      else if !isPrintable c || t.isInWord then t
      else { t with isInWord := true, words := t.words + 1 }

/-- The bytes at the end that may be the beginning of a character. -/
def unfinished (bs : Bytes) : Nat :=
  let tail := (bs.reverse.take 3)
  match tail.findIdx? fun b => b < 0x80 || 0xC0 ≤ b with
  | none => 0
  | some i =>
    let b := tail.getD i 0
    let size := if b < 0x80 then 1 else if b < 0xE0 then 2 else if b < 0xF0 then 3 else 4
    if i + 1 < size then i + 1 else 0

def Tally.add (t : Tally) (bs : Bytes) : Tally :=
  let all := t.held ++ bs
  let k := all.length - unfinished all
  let t := (Text.decode (all.take k)).foldl Tally.symbol t
  { t with bytes := t.bytes + bs.length, held := all.drop k }

/-- A tally that needs no more than the lines and bytes. -/
def Tally.addQuickly (t : Tally) (bs : Bytes) : Tally :=
  { t with lines := t.lines + bs.countP (· = 10), bytes := t.bytes + bs.length }

def Tally.ended (t : Tally) : Tally := { t with widest := max t.widest t.column, held := [] }

def Tally.plus (a b : Tally) : Tally := {
  lines := a.lines + b.lines, words := a.words + b.words, symbols := a.symbols + b.symbols
  bytes := a.bytes + b.bytes, widest := max a.widest b.widest }

/-- The size of a file, if a path leads to one. -/
def fileSize? (path : Text) : Run (Option Nat) := do
  let place? : Option Place ← match descriptorOfPath? path, isDash path with
    | none, false => do pure ((← lookup path).toOption.map (·.1))
    | fd, _ =>
      match ← descriptor? (fd.getD 0) with
      | none => pure none
      | some i =>
        match ← stream i with
        | .file place _ _ => pure (some place)
        | _ => pure none
  match place?.bind (← tree).node? with
  | some (.file content _) => return some content.length
  | _ => return none

def wc (args : List Text) : Run Nat := do
  let fs : List Flag := [
    { key := 'c', name := "bytes" }, { key := 'm', name := "chars" }, { key := 'l', name := "lines" },
    { key := 'L', name := "max-line-length" }, { key := 'w', name := "words" },
    { key := 'F', name := "files0-from", need := .required, isLetter := false }]
  withFlags "wc" 1 fs args fun cs paths => do
    let has (c : Char) : Bool := hasOption c cs
    let isDefault := !cs.any fun c => "cmlLw".contains c.1
    let paths ← match optionValue? 'F' cs with
      | none => pure paths
      | some f =>
        match ← contentOf? "wc" f with
        | some bs => pure (linesIn true bs)
        | none => quit 1
    let shows (t : Tally) : List Nat :=
      (if isDefault || has 'l' then [t.lines] else []) ++ (if isDefault || has 'w' then [t.words] else []) ++
        (if has 'm' then [t.symbols] else []) ++ (if isDefault || has 'c' then [t.bytes] else []) ++
        (if has 'L' then [t.widest] else [])
    let isSingle := (shows {}).length = 1 && paths.length ≤ 1
    let mut total := 0
    let mut least := 1
    for p in sourcesOf paths do
      match ← fileSize? p with
      | some n => total := total + n
      | none => if isDash p || (← lookup p).isOk then least := 7
    let width := if isSingle then 1 else max least (Text.ofNat total).length
    let line (t : Tally) (name : Text) : Text :=
      Text.join " " ((shows t).map fun n => padLeft width (Text.ofNat n)) ++ name ++ "\n"
    let isQuick := !(isDefault || has 'w' || has 'm' || has 'L')
    let mut sum : Tally := {}
    let mut ok := true
    for p in sourcesOf paths do
      let name : Text := if paths.isEmpty then [] else " " ++ shown p
      match ← openSource p with
      | .ok i =>
        let t ← feedAll i (fun t bs => return if isQuick then t.addQuickly bs else t.add bs) ({} : Tally)
        put "wc" (line t.ended name)
        sum := sum.plus t.ended
      | .error e =>
        reportSource "wc" p e
        if e = .isDirectory then put "wc" (line {} name)
        ok := false
    if 1 < paths.length then put "wc" (line sum " total")
    return statusOf ok

/-! Cutting -/

/-- A range of positions from one on; an open one has no end. -/
abbrev Range := Nat × Option Nat

def rangeOf (isFields : Bool) (p : Text) : Except Text Range :=
  let zero : Text := if isFields then "fields are numbered from 1" else "byte/character positions are numbered from 1"
  let bad : Text := if isFields then "invalid field range" else "invalid byte or character range"
  match p.span (!·.is '-') with
  | (a, []) =>
    match natural? a with
    | some 0 => .error zero
    | some n => .ok (n, some n)
    | none => .error ((if isFields then ("invalid field value " : Text) else "invalid byte/character position ") ++ curved p)
  | ([], [_]) => .error "invalid range with no endpoint: -"
  | (a, _ :: b) =>
    match (if a.isEmpty then some 1 else natural? a), (if b.isEmpty then some none else (natural? b).map some) with
    | some 0, _ => .error zero
    | some n, some last => if last.any (· < n) then .error "invalid decreasing range" else .ok (n, last)
    | _, _ => .error bad

/-- Ranges in order, those that overlap as one. -/
def joinedRanges (rs : List Range) : List Range :=
  let sorted := rs.mergeSort fun a b => a.1 ≤ b.1
  (sorted.foldl (fun (done : List Range) r =>
    match done with
    | (a, b) :: more => if b.all (r.1 ≤ ·) then (a, b.bind fun m => r.2.map (max m)) :: more else r :: done
    | [] => [r]) []).reverse

/-- What the ranges leave out. -/
def otherRanges (rs : List Range) : List Range :=
  go 1 rs
where
  go (next : Nat) : List Range → List Range
    | [] => [(next, none)]
    | (a, b) :: more =>
      (if next < a then [(next, some (a - 1))] else []) ++ (match b with
        | some m => go (m + 1) more
        | none => [])

def isInRanges (rs : List Range) (n : Nat) : Bool := rs.any fun r => r.1 ≤ n && r.2.all (n ≤ ·)

/-- The parts of a list at the positions of each range. -/
def atRanges {α : Type} (rs : List Range) (xs : List α) : List (List α) :=
  (rs.map fun r => match r.2 with
    | some b => (xs.take b).drop (r.1 - 1)
    | none => xs.drop (r.1 - 1)).filter (!·.isEmpty)

def cutFlags : List Flag := [
  { key := 'b', name := "bytes", need := .required }, { key := 'c', name := "characters", need := .required },
  { key := 'd', name := "delimiter", need := .required }, { key := 'f', name := "fields", need := .required },
  { key := 'n' }, { key := 'C', name := "complement", isLetter := false }, { key := 's', name := "only-delimited" },
  { key := 'O', name := "output-delimiter", need := .required, isLetter := false },
  { key := 'z', name := "zero-terminated" }]

def cut (args : List Text) : Run Nat :=
  withFlags "cut" 1 cutFlags args fun cs paths => do
    let lists := cs.filter fun c => "bcf".contains c.1
    match lists with
    | [] => misuse "cut" 1 "you must specify a list of bytes, characters, or fields"
    | [(kind, spec)] =>
      let isFields := kind = 'f'
      let isZero := hasOption 'z' cs
      let delimiter ← match optionValue? 'd' cs with
        | none => pure (9 : UInt8)
        | some t =>
          match t.encode with
          | [] => pure 0
          | [b] => pure b
          | _ => misuse "cut" 1 "the delimiter must be a single character"
      if !isFields && hasOption 'd' cs then
        misuse "cut" 1 "an input delimiter may be specified only when operating on fields"
      if !isFields && hasOption 's' cs then
        misuse "cut" 1 "suppressing non-delimited lines makes sense\n\tonly when operating on fields"
      let ranges ← ((Text.piecesBy (fun s => s.isAnyOf ", \t") spec).filter (!·.isEmpty)).mapM fun p => do
        match rangeOf isFields p with
        | .ok r => return r
        | .error e => misuse "cut" 1 e
      if ranges.isEmpty then misuse "cut" 1 (if isFields then "fields are numbered from 1" else "byte/character positions are numbered from 1")
      let ranges := joinedRanges ranges
      let ranges := if hasOption 'C' cs then otherRanges ranges else ranges
      let given := (optionValue? 'O' cs).map Text.encode
      let mark := lineEnd isZero
      let fieldsOf (line : Bytes) : List Bytes := splitFields (some delimiter) line
      let joiner := given.getD [delimiter]
      let pick (fs : List Bytes) : Bytes :=
        List.intercalate joiner (fs.zipIdx.filterMap fun (f, i) => if isInRanges ranges (i + 1) then some f else none)
      if isFields && delimiter = mark then
        let (bs, ok) ← allBytes "cut" paths
        let (fs, _) := recordsOf mark bs
        if fs.length ≤ 1 then
          if !hasOption 's' cs then putBytes "cut" (fs.flatMap (· ++ [mark]))
        else putBytes "cut" (pick fs ++ [mark])
        return statusOf ok
      let one (line : Bytes) : Option Bytes :=
        if isFields then
          if !line.contains delimiter then (if hasOption 's' cs then none else some line)
          else some (pick (fieldsOf line))
        else some (List.intercalate (given.getD []) (atRanges ranges line))
      let ((), ok) ← eachSource "cut" (fun _ i _ => do
        let rest ← feedAll i (fun held bs => do
          let (records, rest) := splitRecords mark (held ++ bs)
          putBytes "cut" (records.flatMap fun r => ((one r).map (· ++ [mark])).getD [])
          return rest) ([] : Bytes)
        if !rest.isEmpty then putBytes "cut" (((one rest).map (· ++ [mark])).getD [])) (sourcesOf paths) ()
      return statusOf ok
    | _ => misuse "cut" 1 "only one list may be specified"

/-! Putting together -/

/-- The delimiters of a list; an empty one stands for nothing. -/
def delimitersOf : Text → List Text
  | [] => []
  | .char '\\' :: s :: t =>
    let d : Text := match s with
      | .char '0' => []
      | .char 'n' => "\n"
      | .char 't' => "\t"
      | .char 'b' => "\x08"
      | .char 'f' => "\x0c"
      | .char 'r' => "\r"
      | .char 'v' => "\x0b"
      | s => [s]
    d :: delimitersOf t
  | s :: t => [s] :: delimitersOf t

def pastedLine (delimiters : List Text) (parts : List Text) : Text :=
  (parts.zipIdx.map fun (t, i) =>
    if i = 0 then t
    else if delimiters.isEmpty then t
    else delimiters.getD ((i - 1) % delimiters.length) [] ++ t).flatten

/-- Takes a line from each of several columns in turn, some of which may be the same one. -/
def takeRow (columns : List Nat) (rest : List (List Text)) : List (Option Text) × List (List Text) :=
  let (row, rest) := columns.foldl (fun (acc : List (Option Text) × List (List Text)) c =>
    match acc.2[c]? with
    | some (l :: ls) => (some l :: acc.1, acc.2.set c ls)
    | _ => (none :: acc.1, acc.2)) ([], rest)
  (row.reverse, rest)

def pasteRows (delimiters : List Text) (columns : List Nat) : Nat → List (List Text) → List Text
  | 0, _ => []
  | n + 1, rest =>
    let (row, rest) := takeRow columns rest
    if row.all (·.isNone) then []
    else pastedLine delimiters (row.map (·.getD [])) :: pasteRows delimiters columns n rest

def paste (args : List Text) : Run Nat := do
  let fs : List Flag := [
    { key := 'd', name := "delimiters", need := .required }, { key := 's', name := "serial" },
    { key := 'z', name := "zero-terminated" }]
  withFlags "paste" 1 fs args fun cs paths => do
    let isZero := hasOption 'z' cs
    let delimiters := delimitersOf ((optionValue? 'd' cs).getD "\t")
    let sources := sourcesOf paths
    if hasOption 's' cs then
      let (all, ok) ← contents "paste" sources
      putBytes "paste" (withEnds isZero (all.map fun c => pastedLine delimiters (linesIn isZero c.2)))
      return statusOf ok
    else
      /- The standard input is one column, however often it is named. -/
      let named := sources.zipIdx.map fun (p, i) => if isDash p then (sources.idxOf? p).getD i else i
      let all ← sources.zipIdx.mapM fun (p, i) => do
        if named.getD i i ≠ i then return []
        match ← openSource p with
        | .error e => die "paste" 1 (shown p ++ ": " ++ e.reason)
        | .ok s => return linesIn isZero (← keeping s (drain s))
      let height := all.foldl (fun n c => n + c.length) 1
      putBytes "paste" (withEnds isZero (pasteRows delimiters named height all))
      return 0

/-! Tabs -/

/-- Tab stops: given ones, and how they go on: in multiples, or in steps from the last one. -/
structure TabStops where
  stops : List Nat := []
  every : Option Nat := some 8
  step : Option Nat := none

/-- The next stop behind a column. -/
def TabStops.next? (t : TabStops) (column : Nat) : Option Nat :=
  match t.stops.find? (column < ·), t.every, t.step with
  | some s, _, _ => some s
  | none, some n, _ => some (column + n - column % n)
  | none, none, some n => some (column + n - (column - t.stops.getLastD 0) % n)
  | none, none, none => none

def tabStopsOf (program : Text) (lists : List Text) : Run TabStops := do
  let parts := (lists.flatMap fun l => Text.piecesBy (fun s => s.isAnyOf ", \t") l).filter (!·.isEmpty)
  let (stops, every, step) ← parts.foldlM (fun (acc : List Nat × Option Nat × Option Nat) p => do
    let (mark, ds) : Option Symbol × Text := if p.head?.any (·.isAnyOf "/+") then (p.head?, p.drop 1) else (none, p)
    match natural? ds with
    | none => die program 1 ("tab size contains invalid character(s): " ++ curved p)
    | some 0 => die program 1 "tab size cannot be 0"
    | some n =>
      match mark with
      | none =>
        if acc.1.getLast?.any (n ≤ ·) then die program 1 "tab sizes must be ascending"
        return (acc.1 ++ [n], acc.2)
      | some s => return if s.is '/' then (acc.1, some n, acc.2.2) else (acc.1, acc.2.1, some n)) ([], none, none)
  match stops, every, step with
  | [], none, none => return {}
  | [n], none, none => return { every := some n }
  | stops, every, step => return { stops, every, step }

/-- Long lists of tabs in the old form, such as `-4,8`. -/
def spelledTabs (args : List Text) : List Text :=
  args.map fun a => match a with
    | .char '-' :: d :: ds => if d.isDigit && ds.all (fun s => s.isDigit || s.is ',') then "-t" ++ d :: ds else a
    | _ => a

/-- Where the expansion of a line has come to. -/
structure TabState where
  column : Nat := 0
  converts : Bool := true

def TabStops.expand (stops : TabStops) (isInitial : Bool) (s : TabState) (b : UInt8) : TabState × Bytes :=
  if b = 10 then ({}, [b])
  else if !s.converts then (s, [b])
  else
    let converts := !isInitial || isBlankByte b
    if b = 9 then
      let next := (stops.next? s.column).getD (s.column + 1)
      ({ column := next, converts }, List.replicate (next - s.column) 32)
    else if b = 8 then ({ column := s.column - 1, converts }, [b])
    else ({ column := s.column + 1, converts }, [b])

/-- Goes through the bytes of all sources with a state. -/
def filterBytes {σ : Type} (program : Text) (paths : List Text) (step : σ → UInt8 → σ × Bytes) (s : σ) :
    Run (σ × Bool) :=
  eachSource program (fun _ i s => feedAll i (fun s bs => do
    let (s, out) := bs.foldl (fun (acc : σ × List Bytes) b =>
      let (s, bs) := step acc.1 b
      (s, bs :: acc.2)) (s, [])
    putBytes program out.reverse.flatten
    return s) s) (sourcesOf paths) s

def expand (args : List Text) : Run Nat := do
  let fs : List Flag := [{ key := 'i', name := "initial" }, { key := 't', name := "tabs", need := .required }]
  withFlags "expand" 1 fs (spelledTabs args) fun cs paths => do
    let stops ← tabStopsOf "expand" (optionValues 't' cs)
    let (_, ok) ← filterBytes "expand" paths (stops.expand (hasOption 'i' cs)) {}
    return statusOf ok

/-- Where the contraction of a line has come to, with the blanks that are still to be written. -/
structure BlankState where
  column : Nat := 0
  converts : Bool := true
  wasBlank : Bool := true
  isSingle : Bool := false
  pending : Bytes := []

def TabStops.contract (stops : TabStops) (isEntire : Bool) (s : BlankState) (b : UInt8) : BlankState × Bytes :=
  let finish (s : BlankState) (b : UInt8) (isBlank : Bool) : BlankState × Bytes :=
    let pending := if 1 < s.pending.length && s.isSingle then 9 :: s.pending.drop 1 else s.pending
    let written := pending ++ [b]
    if b = 10 then ({}, written)
    else
      ({ s with
        pending := [], isSingle := s.isSingle && s.pending.isEmpty, wasBlank := isBlank
        converts := s.converts && (isEntire || isBlank) }, written)
  if !s.converts then if b = 10 then ({}, [b]) else (s, [b])
  else if b = 32 || b = 9 then
    match stops.next? s.column with
    | none => finish { s with converts := false } b true
    | some next =>
      if b = 9 then
        let first : Bytes := if s.pending.isEmpty then [] else [9]
        finish { s with column := next, pending := if s.isSingle then first else [] } 9 true
      else
        let column := s.column + 1
        if s.wasBlank && column = next then
          finish { s with column, pending := if s.isSingle then [9] else [] } 9 true
        else
          ({ s with
            column, isSingle := s.isSingle || column = next, pending := s.pending ++ [b], wasBlank := true }, [])
  else if b = 8 then finish { s with column := s.column - 1 } b false
  else finish { s with column := s.column + 1 } b false

def unexpand (args : List Text) : Run Nat := do
  let fs : List Flag := [
    { key := 'a', name := "all" }, { key := 'F', name := "first-only", isLetter := false },
    { key := 't', name := "tabs", need := .required }]
  withFlags "unexpand" 1 fs (spelledTabs args) fun cs paths => do
    let stops ← tabStopsOf "unexpand" (optionValues 't' cs)
    let isEntire := (hasOption 'a' cs || hasOption 't' cs) && !hasOption 'F' cs
    let (s, ok) ← filterBytes "unexpand" paths (stops.contract isEntire) ({} : BlankState)
    putBytes "unexpand" s.pending
    return statusOf ok

/-! Folding -/

/-- The column behind a byte. -/
def columnAfter (countsBytes : Bool) (column : Nat) (b : UInt8) : Nat :=
  if countsBytes then column + 1
  else if b = 8 then column - 1
  else if b = 13 then 0
  else if b = 9 then column + 8 - column % 8
  else column + 1

/-- The line so far, newest first, and its column. -/
structure FoldState where
  line : Bytes := []
  column : Nat := 0

/-- Takes a byte into a line, which is broken before it if it would become too long. -/
def foldStep (countsBytes atBlanks : Bool) (width : Nat) : Nat → FoldState → UInt8 → FoldState × Bytes
  | 0, s, b => ({ s with line := b :: s.line }, [])
  | n + 1, s, b =>
    if b = 10 then ({}, (b :: s.line).reverse)
    else
      let column := columnAfter countsBytes s.column b
      if column ≤ width then ({ line := b :: s.line, column }, [])
      else
        let kept := s.line.takeWhile fun c => c ≠ 32 && c ≠ 9
        if atBlanks && kept.length < s.line.length then
          let column := kept.reverse.foldl (columnAfter countsBytes) 0
          let (s', out) := foldStep countsBytes atBlanks width n { line := kept, column } b
          (s', (s.line.drop kept.length).reverse ++ [10] ++ out)
        else if s.line.isEmpty then ({ line := [b], column }, [])
        else
          let (s', out) := foldStep countsBytes atBlanks width n {} b
          (s', s.line.reverse ++ [10] ++ out)

def fold (args : List Text) : Run Nat := do
  let fs : List Flag := [
    { key := 'b', name := "bytes" }, { key := 's', name := "spaces" }, { key := 'w', name := "width", need := .required }]
  let args := args.map fun a => match a with
    | .char '-' :: d :: ds => if (d :: ds).all Symbol.isDigit then "-w" ++ d :: ds else a
    | _ => a
  withFlags "fold" 1 fs args fun cs paths => do
    let width ← match optionValue? 'w' cs with
      | none => pure 80
      | some t =>
        match natural? t with
        | some n => if n = 0 then die "fold" 1 ("invalid number of columns: " ++ curved t) else pure n
        | none => die "fold" 1 ("invalid number of columns: " ++ curved t)
    let ((), ok) ← eachSource "fold" (fun _ i _ => do
      let s ← feedAll i (fun s bs => do
        let (s, out) := bs.foldl (fun (acc : FoldState × List Bytes) b =>
          let (s, bs) := foldStep (hasOption 'b' cs) (hasOption 's' cs) width 4 acc.1 b
          (s, bs :: acc.2)) (s, [])
        putBytes "fold" out.reverse.flatten
        return s) ({} : FoldState)
      putBytes "fold" s.line.reverse) (sourcesOf paths) ()
    return statusOf ok

end Tangle.Shell.Program
