import Tangle.Host.Shell.Program.Source
import Tangle.Host.Shell.Regex.Reading

/-! # Portions

The programs that show the beginning or the end of files, or cut them into files of their own. -/
namespace Tangle.Shell.Program
open Run

/-- How much of a file is meant: from its beginning or from its end, in bytes or in lines. -/
structure Extent where
  isBytes : Bool := false
  /-- Whether the count is taken from the other side. -/
  isOpposite : Bool := false
  size : Nat := 10
  isZero : Bool := false

/-- When the names of files are shown above them. -/
inductive Titling where
  | several
  | always
  | never

def Titling.holds (t : Titling) (count : Nat) : Bool :=
  match t with
  | .several => 1 < count
  | .always => true
  | .never => false

def titleText (isFirst : Bool) (path : Text) : Text :=
  (if isFirst then "" else "\n") ++ "==> " ++ (if isDash path then ("standard input" : Text) else path) ++ " <==\n"

def portionFlags : List Flag := [
  { key := 'c', name := "bytes", need := .required }, { key := 'n', name := "lines", need := .required },
  { key := 'q', name := "quiet" }, { key := 'q', name := "silent", isLetter := false },
  { key := 'v', name := "verbose" }, { key := 'z', name := "zero-terminated" }]

/-- The last extent that the flags give. -/
def extentOf (program : Text) (opposite : Char) (cs : Chosen) : Run Extent := do
  let isZero := hasOption 'z' cs
  match (cs.reverse.find? fun c => c.1 = 'c' || c.1 = 'n') with
  | none => return { isZero }
  | some (c, t) =>
    let isOpposite := t.head?.any (·.is opposite)
    let digits := if t.head?.any (·.isAnyOf "+-") then t.drop 1 else t
    match sized? digits with
    | some size => return { isBytes := c = 'c', isOpposite, size, isZero }
    | none =>
      die program 1 ("invalid number of " ++ (if c = 'c' then ("bytes" : Text) else "lines") ++ ": " ++ curved
        (if isOpposite && opposite = '-' then digits else t))

def titlingOf (cs : Chosen) : Titling :=
  match lastOf "qv" cs with
  | some 'q' => .never
  | some _ => .always
  | none => .several

/-- Bytes up to the end of a line of some number, and the number of lines that are still wanted. -/
def takeLines (mark : UInt8) : Nat → Bytes → Bytes × Nat
  | 0, _ => ([], 0)
  | n + 1, bs => go mark n bs []
where
  go (mark : UInt8) : Nat → Bytes → Bytes → Bytes × Nat
    | n, [], taken => (taken.reverse, n + 1)
    | n, b :: bs, taken =>
      if b = mark then
        match n with
        | 0 => ((b :: taken).reverse, 0)
        | n + 1 => go mark n bs (b :: taken)
      else go mark n bs (b :: taken)

/-- The bytes behind all but the last lines. -/
def lastLines (mark : UInt8) (count : Nat) (bs : Bytes) : Bytes :=
  if count = 0 then []
  else
    let r := bs.reverse
    let (tail, r) : Bytes × Bytes := match r with
      | b :: rest => if b = mark then ([b], rest) else ([], r)
      | [] => ([], [])
    go mark count r tail
where
  go (mark : UInt8) : Nat → (reversed taken : Bytes) → Bytes
    | _, [], taken => taken
    | n, b :: rest, taken =>
      if b = mark then if n ≤ 1 then taken else go mark (n - 1) rest (b :: taken) else go mark n rest (b :: taken)

/-! Beginnings -/

/-- Writes the beginning of a stream, and reads no more of it than that needs. -/
def showBeginning (e : Extent) (i : Nat) : Run Unit := do
  let mark := lineEnd e.isZero
  if e.isOpposite then
    let bs ← drain i
    if e.isBytes then putBytes "head" (bs.take (bs.length - e.size))
    else
      let count := bs.countP (· = mark) + (if bs.getLast?.all (· = mark) then 0 else 1)
      putBytes "head" (takeLines mark (count - e.size) bs).1
  else if e.size = 0 then return
  else
    let _ ← feedBlocks 8192 i (fun left bs => do
      let (shown, left) := if e.isBytes then (bs.take left, left - bs.length) else takeLines mark left bs
      putBytes "head" shown
      return (left, if left = 0 then some (bs.length - shown.length) else none)) greatestPieces e.size

/-- Arguments with a count such as `-5` at their head spelt out. -/
def spelledCount (args : List Text) : List Text :=
  match args with
  | (.char '-' :: d :: t) :: rest =>
    if !d.isDigit then args
    else
      let ds := (d :: t).takeWhile Symbol.isDigit
      let marks := (d :: t).drop ds.length
      let unit := marks.filter (·.isAnyOf "cbkml")
      let factor : Text := unit.filter (·.isAnyOf "bkm")
      let other := marks.filter (·.isAnyOf "qvz")
      if marks.all (·.isAnyOf "cbkmlqvz") then
        [(if unit.any (·.isAnyOf "cbkm") then ("-c" : Text) else "-n") ++ ds ++ factor] ++
          (if other.isEmpty then [] else [.char '-' :: other]) ++ rest
      else args
  | _ => args

def head (args : List Text) : Run Nat := do
  withFlags "head" 1 portionFlags (spelledCount args) fun cs paths => do
    let e ← extentOf "head" '-' cs
    let isTitled := (titlingOf cs).holds paths.length
    go e isTitled (sourcesOf paths) true true
where
  go (e : Extent) (isTitled : Bool) : List Text → (isFirst ok : Bool) → Run Nat
    | [], _, ok => return statusOf ok
    | path :: rest, isFirst, ok => do
      match ← openSource path with
      | .error .isDirectory =>
        if isTitled then put "head" (titleText isFirst path)
        report "head" ("error reading " ++ quoted path ++ ": Is a directory")
        go e isTitled rest false false
      | .error f =>
        report "head" ("cannot open " ++ quoted path ++ " for reading: " ++ f.reason)
        go e isTitled rest isFirst false
      | .ok i =>
        if isTitled then put "head" (titleText isFirst path)
        keeping i (showBeginning e i)
        go e isTitled rest false ok

/-! Ends -/

def endOf (e : Extent) (bs : Bytes) : Bytes :=
  let mark := lineEnd e.isZero
  if e.isOpposite then
    if e.isBytes then bs.drop (e.size - 1)
    else bs.drop (takeLines mark (e.size - 1) bs).1.length
  else if e.isBytes then bs.drop (bs.length - e.size)
  else lastLines mark e.size bs

/-- Arguments whose first is a count such as `-5` or `+5c` in the old form. -/
def oldCount (args : List Text) : List Text :=
  match args with
  | (.char sign :: t) :: rest =>
    let ds := t.takeWhile Symbol.isDigit
    let marks := t.drop ds.length
    let unit := marks.takeWhile (·.isAnyOf "bcl")
    let follows := marks.drop unit.length
    let isOld := (sign = '+' || (sign = '-' && !ds.isEmpty)) && unit.length ≤ 1 &&
      (follows.isEmpty || follows = ("f" : Text)) && rest.length ≤ 2 && !t.isEmpty &&
      (match rest with
        | [] => true
        | [a] => !(a.head?.any (·.is '-') && 1 < a.length)
        | a :: _ => a = ("--" : Text))
    if isOld then
      let digits : Text := if ds.isEmpty then "10" else ds
      let factor : Text := if unit = ("b" : Text) then "b" else ""
      ((if unit.isEmpty || unit = ("l" : Text) then ("-n" : Text) else "-c") ++ [.char sign] ++ digits ++ factor) ::
        (if follows.isEmpty then rest else "-f" :: rest)
    else args
  | _ => args

def tail (args : List Text) : Run Nat := do
  let fs := portionFlags ++ [
    { key := 'f', name := "follow", need := .optional, isLetter := false }, { key := 'f' }, { key := 'F' },
    { key := 'P', name := "pid", need := .required, isLetter := false }, { key := 'R', name := "retry", isLetter := false },
    { key := 's', name := "sleep-interval", need := .required },
    { key := 'M', name := "max-unchanged-stats", need := .required, isLetter := false }]
  withFlags "tail" 1 fs (oldCount args) fun cs paths => do
    let e ← extentOf "tail" '+' cs
    let isTitled := (titlingOf cs).holds paths.length
    let status ← go e isTitled (sourcesOf paths) true true
    if (hasOption 'f' cs || hasOption 'F' cs) && !paths.isEmpty then awaitOnly fun _ => false
    return status
where
  go (e : Extent) (isTitled : Bool) : List Text → (isFirst ok : Bool) → Run Nat
    | [], _, ok => return statusOf ok
    | path :: rest, isFirst, ok => do
      match ← openSource path with
      | .error .isDirectory =>
        if isTitled then put "tail" (titleText isFirst path)
        report "tail" ("error reading " ++ quoted path ++ ": Is a directory")
        go e isTitled rest false false
      | .error f =>
        report "tail" ("cannot open " ++ quoted path ++ " for reading: " ++ f.reason)
        go e isTitled rest isFirst false
      | .ok i =>
        if isTitled then put "tail" (titleText isFirst path)
        putBytes "tail" (endOf e (← keeping i (drain i)))
        go e isTitled rest false ok

/-! Pieces of a size -/

/-- The names of pieces. -/
structure PieceNames where
  stem : Text := "x"
  digits : List Char := "abcdefghijklmnopqrstuvwxyz".toList
  width : Nat := 2
  grows : Bool := true
  start : Nat := 0
  ending : Text := ""

/-- A number in the digits of the names, so wide. -/
def numeralIn (digits : List Char) : (width : Nat) → Nat → Text
  | 0, _ => []
  | w + 1, n => numeralIn digits w (n / digits.length) ++ [.char (digits.getD (n % digits.length) 'a')]

/-- The marks behind the stem of the piece of a number. Names that begin with the last digit are longer. -/
def PieceNames.mark? (p : PieceNames) (n : Nat) : Option Text :=
  let base := p.digits.length
  let rec wider : Nat → Nat → Nat → Option Text
    | 0, _, _ => none
    | k + 1, width, n =>
      let room := (base - 1) * base ^ (width - 1)
      if n < room then some (numeralIn p.digits width n) else
        (wider k (width + 1) (n - room)).map ((.char (p.digits.getD (base - 1) 'z')) :: ·)
  if p.grows then wider 12 p.width (p.start + n)
  else if p.start + n < base ^ p.width then some (numeralIn p.digits p.width (p.start + n)) else none

def PieceNames.path? (p : PieceNames) (n : Nat) : Option Text :=
  (p.mark? n).map fun m => p.stem ++ m ++ p.ending

def bytePieces (size : Nat) : Nat → Bytes → List Bytes
  | 0, _ => []
  | n + 1, bs => if bs.isEmpty then [] else bs.take size :: bytePieces size n (bs.drop size)

/-- Lists of so many elements each. -/
def grouped {α : Type} (size : Nat) : Nat → List α → List (List α)
  | 0, _ => []
  | n + 1, xs => if xs.isEmpty then [] else xs.take size :: grouped size n (xs.drop size)

/-- Lines with their ends. -/
def fullLines (mark : UInt8) (bs : Bytes) : List Bytes :=
  let (rs, isEnded) := recordsOf mark bs
  rs.zipIdx.map fun (r, i) => if i + 1 = rs.length && !isEnded then r else r ++ [mark]

/-- Lines put together as long as they fit into a size; a longer line is cut. -/
def packedLines (size : Nat) (lines : List Bytes) : List Bytes :=
  let (done, last) := lines.foldl (fun (acc : List Bytes × Bytes) l =>
    if acc.2.length + l.length ≤ size then (acc.1, acc.2 ++ l)
    else
      let done := if acc.2.isEmpty then acc.1 else acc.2 :: acc.1
      let cut := bytePieces size (l.length + 1) l
      match cut.getLast? with
      | some rest => (cut.dropLast.reverse ++ done, rest)
      | none => (done, [])) ([], [])
  (if last.isEmpty then done else last :: done).reverse

/-- Bytes in so many parts of nearly one size. -/
def evenParts (count : Nat) (bs : Bytes) : List Bytes :=
  let size := bs.length / count
  (List.range count).map fun k =>
    let part := bs.drop (k * size)
    if k + 1 = count then part else part.take size

/-- Bytes in so many parts, in each of which are the lines that begin in it. -/
def lineParts (mark : UInt8) (count : Nat) (bs : Bytes) : List Bytes :=
  let size := max 1 (bs.length / count)
  let placed := ((fullLines mark bs).foldl (fun (acc : List (Nat × Bytes) × Nat) l =>
    ((min (acc.2 / size) (count - 1), l) :: acc.1, acc.2 + l.length)) ([], 0)).1.reverse
  (List.range count).map fun k => (placed.filterMap fun (i, l) => if i = k then some l else none).flatten

def splitFlags : List Flag := [
  { key := 'a', name := "suffix-length", need := .required },
  { key := 'A', name := "additional-suffix", need := .required, isLetter := false },
  { key := 'b', name := "bytes", need := .required }, { key := 'C', name := "line-bytes", need := .required },
  { key := 'd' }, { key := 'd', name := "numeric-suffixes", need := .optional, isLetter := false },
  { key := 'e', name := "elide-empty-files" }, { key := 'F', name := "filter", need := .required, isLetter := false },
  { key := 'l', name := "lines", need := .required }, { key := 'n', name := "number", need := .required },
  { key := 't', name := "separator", need := .required }, { key := 'u', name := "unbuffered" }, { key := 'x' },
  { key := 'x', name := "hex-suffixes", need := .optional, isLetter := false },
  { key := 'V', name := "verbose", isLetter := false }]

/-- What a number of parts asks for: all of them or one, of bytes, of lines, or of lines in turn. -/
def partsOf? (t : Text) : Option (Char × Option Nat × Nat) :=
  let (kind, t) : Char × Text := match t with
    | .char 'l' :: .char '/' :: r => ('l', r)
    | .char 'r' :: .char '/' :: r => ('r', r)
    | r => ('b', r)
  match (Text.pieces (.char '/') t).mapM natural? with
  | some [n] => if n = 0 then none else some (kind, none, n)
  | some [k, n] => if k = 0 || n < k then none else some (kind, some k, n)
  | _ => none

def split (args : List Text) : Run Nat := do
  let args := match args with
    | (.char '-' :: d :: ds) :: rest => if (d :: ds).all Symbol.isDigit then ("-l" ++ d :: ds) :: rest else args
    | _ => args
  withFlags "split" 1 splitFlags args fun cs operands => do
    needOperands "split" 0 (some 2) operands
    let source := operands.headD "-"
    let positive (c : Char) (what : Text) : Run (Option Nat) := do
      match optionValue? c cs with
      | none => return none
      | some t =>
        match sized? t with
        | some n => if n = 0 then die "split" 1 ("invalid number of " ++ what ++ ": " ++ curved t) else return some n
        | none => die "split" 1 ("invalid number of " ++ what ++ ": " ++ curved t)
    let lines ← positive 'l' "lines"
    let bytes ← positive 'b' "bytes"
    let lineBytes ← positive 'C' "bytes"
    let parts ← match optionValue? 'n' cs with
      | none => pure none
      | some t =>
        match partsOf? t with
        | some p => pure (some p)
        | none => die "split" 1 ("invalid number of chunks: " ++ curved t)
    let given := (optionValue? 'a' cs).bind natural?
    let kind := lastOf "dx" cs
    let digits := match kind with
      | some 'd' => "0123456789".toList
      | some _ => "0123456789abcdef".toList
      | none => "abcdefghijklmnopqrstuvwxyz".toList
    let startText := (kind.bind fun c => optionValue? c cs).getD []
    let start := naturalOf startText
    let needed := match parts with
      | some (_, _, n) => ((List.range 10).find? fun w => n + start ≤ digits.length ^ w).getD 2
      | none => 2
    let names : PieceNames := {
      stem := (operands[1]?).getD "x", digits
      width := match given with
        | some n => if n = 0 then max 2 needed else n
        | none => max 2 needed
      grows := given.all (· = 0) && parts.isNone && start = 0, start
      ending := (optionValue? 'A' cs).getD [] }
    let mark := ((optionValue? 't' cs).bind fun t => if t = ("\\0" : Text) then some 0 else t.encode.head?).getD 10
    match ← contentOf? "split" source with
    | none => return 1
    | some bs =>
      let full := fullLines mark bs
      let inTurn (n : Nat) : List Bytes := (List.range n).map fun k =>
        (full.zipIdx.filterMap fun (l, i) => if i % n = k then some l else none).flatten
      match parts with
      | some (kind, some k, n) =>
        let all := if kind = 'b' then evenParts n bs else if kind = 'l' then lineParts mark n bs else inTurn n
        putBytes "split" (all.getD (k - 1) [])
        return 0
      | _ =>
        let pieces := match parts, bytes, lineBytes with
          | some (kind, _, n), _, _ =>
            if kind = 'b' then evenParts n bs else if kind = 'l' then lineParts mark n bs else inTurn n
          | none, some b, _ => bytePieces b (bs.length + 1) bs
          | none, none, some c => packedLines c full
          | none, none, none => (grouped (lines.getD 1000) (full.length + 1) full).map List.flatten
        let pieces := if hasOption 'e' cs then pieces.filter (!·.isEmpty) else pieces
        for (p, k) in pieces.zipIdx do
          match names.path? k with
          | none => die "split" 1 "output file suffixes exhausted"
          | some path =>
            if hasOption 'V' cs then put "split" ("creating file " ++ quoted path ++ "\n")
            match ← writeFile path p with
            | .ok () => pure ()
            | .error e => die "split" 1 (shown path ++ ": " ++ e.reason)
        return 0

/-! Pieces at patterns -/

/-- Where a file is cut. -/
inductive Cut where
  | line (n : Nat)
  | expression (r : Regex) (offset : Int) (isKept : Bool)

/-- A cut with the argument that it is given by and the number of times that it is made; none stands for as
often as possible. -/
structure Cutting where
  cut : Cut
  source : Text
  times : Option Nat := some 1

/-- The cut that an argument gives. -/
def cutOf (t : Text) : Except Text Cut :=
  let expression (d : Symbol) (r : Text) : Except Text Cut :=
    let body := r.takeWhile (· ≠ d)
    let offset := (r.drop body.length).drop 1
    match Regex.read .basic (Glyph.ofText false body), (if offset.isEmpty then some 0 else integerOf? offset) with
    | .ok re, some k => .ok (.expression re k (d.is '/'))
    | .error e, _ => .error (curved t ++ ": invalid regular expression: " ++ e.message)
    | _, none => .error (curved t ++ ": integer expected after delimiter")
  match t, natural? t with
  | .char '/' :: r, _ => expression (.char '/') r
  | .char '%' :: r, _ => expression (.char '%') r
  | _, some n => if n = 0 then .error (t ++ ": line number must be greater than zero") else .ok (.line n)
  | _, none => .error (curved t ++ ": invalid pattern")

/-- The number of times that an argument such as `{3}` repeats the cut before it. -/
def repeats? (t : Text) : Option (Option Nat) :=
  match t with
  | .char '\x7b' :: r =>
    if !Text.endsWith r "\x7d" then none
    else if r.dropLast = ("*" : Text) then some none
    else (natural? r.dropLast).map fun n => some (n + 1)
  | _ => none

/-- The cuts of arguments, the last one first. -/
def cuttings (args : List Text) : Except Text (List Cutting) :=
  args.foldlM (fun done t =>
    match repeats? t, done with
    | some times, c :: more => .ok ({ c with times } :: more)
    | _, _ => (cutOf t).map fun cut => { cut, source := t } :: done) []

/-- What is left to be cut: its lines, and the numbers of the first of them and of the last that was looked at.
The pieces are kept newest first. -/
structure CutState where
  rest : List Bytes
  first : Nat := 1
  seen : Nat := 0
  pieces : List Bytes := []

/-- Moves the lines before one into a piece, or passes over them. -/
def CutState.cutBefore (s : CutState) (isKept : Bool) (line : Nat) : CutState :=
  let count := line - s.first
  { s with
    rest := s.rest.drop count, first := s.first + count
    pieces := if isKept then (s.rest.take count).flatten :: s.pieces else s.pieces }

/-- Makes one cut; a text tells why it cannot be made. -/
def CutState.make (s : CutState) (c : Cutting) (repetition : Nat) : Except Text CutState :=
  match c.cut with
  | .line n =>
    let line := n * (repetition + 1)
    if line < s.first || s.first + s.rest.length ≤ line then .error (curved c.source ++ ": line number out of range")
    else .ok { s.cutBefore true line with seen := line - 1 }
  | .expression r offset isKept =>
    let start := s.seen + 1 - s.first
    let holds (l : Bytes) : Bool := Regex.isFound r {} (Text.trimEndBy (· = Symbol.newline) (Text.decode l))
    match (s.rest.drop start).findIdx? holds with
    | none => .error (curved c.source ++ ": match not found" ++
        (if repetition = 0 then ([] : Text) else " on repetition " ++ Text.ofNat repetition))
    | some k =>
      let line := s.seen + 1 + k
      let target := ((line : Int) + offset).toNat
      if target < s.first || s.first + s.rest.length < target then
        .error (curved c.source ++ ": line number out of range")
      else .ok { s.cutBefore isKept target with seen := if 0 < offset then target else line }

/-- Makes a cut as often as it is asked for. -/
def CutState.repeated (c : Cutting) : Nat → (repetition : Nat) → CutState → Except (Text × CutState) (CutState × Bool)
  | 0, _, s => .ok (s, false)
  | n + 1, repetition, s =>
    if c.times.any (· ≤ repetition) then .ok (s, false)
    else
      match s.make c repetition with
      | .ok s => repeated c n (repetition + 1) s
      | .error e => if c.times.isNone then .ok (s, true) else .error (e, s)

def CutState.all : List Cutting → CutState → Except (Text × CutState) CutState
  | [], s => .ok s
  | c :: cs, s => do
    let (s, isOver) ← s.repeated c (s.rest.length + 2) 0
    if isOver then return s else all cs s

def csplit (args : List Text) : Run Nat := do
  let fs : List Flag := [
    { key := 'b', name := "suffix-format", need := .required }, { key := 'f', name := "prefix", need := .required },
    { key := 'k', name := "keep-files" }, { key := 'm', name := "suppress-matched", isLetter := false },
    { key := 'n', name := "digits", need := .required }, { key := 's', name := "quiet" }, { key := 's', name := "silent" },
    { key := 'q' }, { key := 'z', name := "elide-empty-files" }]
  withFlags "csplit" 1 fs args fun cs operands => do
    needOperands "csplit" 2 none operands
    match cuttings (operands.drop 1) with
    | .error e => die "csplit" 1 e
    | .ok reversed =>
      match ← contentOf? "csplit" (operands.headD "-") with
      | none => return 1
      | some bs =>
        let (s, fault) : CutState × Option Text := match CutState.all reversed.reverse { rest := fullLines 10 bs } with
          | .ok s => (s, none)
          | .error (e, s) => (s, some e)
        let pieces := (s.rest.flatten :: s.pieces).reverse
        let pieces := if hasOption 'z' cs then pieces.filter (!·.isEmpty) else pieces
        let stem := (optionValue? 'f' cs).getD "xx"
        let width := ((optionValue? 'n' cs).bind natural?).getD 2
        let path (k : Nat) : Text := stem ++ (match optionValue? 'b' cs with
          | some f => Text.replaceAll (.char '%') (numeralIn "0123456789".toList width k) f
          | none => numeralIn "0123456789".toList width k)
        for (p, k) in pieces.zipIdx do
          match ← writeFile (path k) p with
          | .ok () => pure ()
          | .error e => die "csplit" 1 (shown (path k) ++ ": " ++ e.reason)
          if !(hasOption 's' cs || hasOption 'q' cs) then put "csplit" (Text.ofNat p.length ++ "\n")
        match fault with
        | none => return 0
        | some e =>
          report "csplit" e
          if !hasOption 'k' cs then
            for (_, k) in pieces.zipIdx do
              match ← locate (path k) with
              | .ok place => modifyWorld fun w => w.remove place
              | .error _ => pure ()
          return 1

/-! Sizes -/

def truncate (args : List Text) : Run Nat := do
  let fs : List Flag := [
    { key := 'c', name := "no-create" }, { key := 'o', name := "io-blocks" },
    { key := 'r', name := "reference", need := .required }, { key := 's', name := "size", need := .required }]
  withFlags "truncate" 1 fs args fun cs paths => do
    let spec := (optionValue? 's' cs).map fun t => t.dropWhile (·.is ' ')
    if spec.isNone && !hasOption 'r' cs then
      misuse "truncate" 1 "you must specify either '--size' or '--reference'"
    needOperandsOf "truncate" paths
    let reference : Nat ← match optionValue? 'r' cs with
      | none => pure 0
      | some r =>
        match ← lookup r with
        | .ok (_, .file content _) => pure content.length
        | .ok _ => pure 0
        | .error e => die "truncate" 1 ("cannot stat " ++ quoted r ++ ": " ++ e.reason)
    let mark := (spec.bind List.head?).filter (·.isAnyOf "+-<>/%")
    let digits := match mark with
      | some _ => (spec.getD []).drop 1
      | none => spec.getD []
    let amount ← match sized? digits with
      | some n => pure n
      | none => if spec.isNone then pure 0 else die "truncate" 1 ("Invalid number: " ++ curved (spec.getD []))
    if amount = 0 && mark.any (·.isAnyOf "/%") then die "truncate" 1 "division by zero"
    let newSize (old : Nat) : Nat :=
      let old := if hasOption 'r' cs then reference else old
      match mark with
      | none => if spec.isNone then reference else amount
      | some s =>
        if s.is '+' then old + amount else if s.is '-' then old - amount else if s.is '<' then min old amount
        else if s.is '>' then max old amount else if s.is '/' then old / amount * amount
        else (old + amount - 1) / amount * amount
    let oks ← paths.mapM fun p => do
      match ← lookup p with
      | .error .notFound => if hasOption 'c' cs then return true else resize newSize p
      | _ => resize newSize p
    return statusOf (oks.all id)
where
  needOperandsOf (program : Text) (paths : List Text) : Run Unit := do
    if paths.isEmpty then misuse program 1 "missing file operand"
  resize (newSize : Nat → Nat) (p : Text) : Run Bool := do
    match ← openOutput p .keep true with
    | .error e =>
      report "truncate" ("cannot open " ++ quoted p ++ " for writing: " ++ e.reason)
      return false
    | .ok _ =>
      match ← lookup p with
      | .ok (place, .file content mode) =>
        let size := newSize content.length
        let content := content.take size ++ List.replicate (size - content.length) 0
        modifyWorld fun w => { w with tree := w.tree.put place (.file content mode) }.changed place
        return true
      | _ => return true

/-! Blocks -/

/-- Bytes changed as the words of a conversion say. -/
def converted (words : List Text) (bs : Bytes) : Bytes :=
  words.foldl (fun bs w => match w.toDisplayString with
    | "ucase" => bs.map fun b => if 97 ≤ b && b ≤ 122 then b - 32 else b
    | "lcase" => bs.map fun b => if 65 ≤ b && b ≤ 90 then b + 32 else b
    | "swab" => (grouped 2 (bs.length + 1) bs).flatMap List.reverse
    | _ => bs) bs

def dd (args : List Text) : Run Nat := do
  let value (name : String) : Option Text := (args.filterMap fun a => a.after? (name : Text)).getLast?
  match args.find? fun a => !a.any (·.is '=') with
  | some a => misuse "dd" 1 ("unrecognized operand " ++ curved a)
  | none => pure ()
  let size (name : String) (standard : Nat) : Run Nat := do
    match value name with
    | none => return standard
    | some t =>
      match (Text.pieces (.char 'x') t).mapM sized? with
      | some ns => return ns.foldl (· * ·) 1
      | none => die "dd" 1 ("invalid number: " ++ curved t)
  let block ← size "bs=" 512
  let inputBlock ← if (value "bs=").isSome then pure block else size "ibs=" 512
  let outputBlock ← if (value "bs=").isSome then pure block else size "obs=" 512
  let words := ((value "conv=").map (Text.pieces (.char ','))).getD []
  let skipped := (← size "skip=" 0) * inputBlock
  let limit : Option Nat ← if (value "count=").isSome then do pure (some ((← size "count=" 0) * inputBlock)) else pure none
  let source ← match value "if=" with
    | some p => openSource p
    | none => openSource "-"
  match source with
  | .error e => die "dd" 1 ("failed to open " ++ quoted ((value "if=").getD "standard input") ++ ": " ++ e.reason)
  | .ok i =>
    let read ← keeping i (feedBlocks 65536 i (fun (acc : List Bytes × Nat) bs => do
      let wanted := match limit with
        | some l => skipped + l
        | none => acc.2 + bs.length
      let bs' := bs.take (wanted - acc.2)
      let n := acc.2 + bs'.length
      let isOver : Bool := limit.isSome && wanted ≤ n
      return ((bs' :: acc.1, n), if isOver then some (bs.length - bs'.length) else none)) greatestPieces ([], 0))
    let bs := converted words (read.1.reverse.flatten.drop skipped)
    match value "of=" with
    | some p =>
      let seek := (← size "seek=" 0) * outputBlock
      let keeps : Bool := words.any (· = ("notrunc" : Text)) || 0 < seek
      match ← openOutput p (if keeps then .keep else .truncate) true with
      | .error e => die "dd" 1 ("failed to open " ++ quoted p ++ ": " ++ e.reason)
      | .ok o =>
        match ← stream o with
        | .file place _ _ => setStream o (.file place seek false)
        | _ => pure ()
        let _ ← writeStream o bs
    | none => putBytes "dd" bs
    let records (n size : Nat) : Text := Text.ofNat (n / size) ++ "+" ++ (if n % size = 0 then "0" else "1")
    match (value "status=").map Text.toDisplayString with
    | some "none" => pure ()
    | level =>
      let _ ← write 2 (records (bs.length) inputBlock ++ " records in\n" ++ records bs.length outputBlock ++ " records out\n")
      if level ≠ some "noxfer" then
        let _ ← write 2 (Text.ofNat bs.length ++ " bytes copied, 0.0001 s, 1.0 MB/s\n")
    return 0

end Tangle.Shell.Program
