import Tangle.Host.Shell.Program.Source
import Tangle.Host.Number.Extended
import Tangle.Host.Number.Calendar

/-! # Sorting

Lines are put in the order of their keys. A key is a part of the line, from a field to a field, that is
compared as bytes or as what it stands for: a number, a size, a month, a version. Lines whose keys are all
alike are in the order of their bytes, unless the order that they had is to be kept. -/
namespace Tangle.Shell.Program
open Run

def compareBytes : Bytes → Bytes → Ordering
  | [], [] => .eq
  | [], _ => .lt
  | _, [] => .gt
  | a :: s, b :: t => if a < b then .lt else if b < a then .gt else compareBytes s t

def isBlankByte (b : UInt8) : Bool := b = 32 || b = 9 || b = 10

def upperByte (b : UInt8) : UInt8 := if 97 ≤ b && b ≤ 122 then b - 32 else b
def isDigitByte (b : UInt8) : Bool := 48 ≤ b && b ≤ 57
def isLetterByte (b : UInt8) : Bool := let u := upperByte b; 65 ≤ u && u ≤ 90
def isPrintableByte (b : UInt8) : Bool := 32 ≤ b && b < 127

/-! Versions -/

/-- The rank of a byte in a version: the end, a tilde before it, digits, letters, and the rest. -/
def versionRank : Bytes → Int
  | [] => -1
  | b :: _ =>
    if isDigitByte b then 0 else if isLetterByte b then b.toNat else if b = 126 then -2 else b.toNat + 256

/-- Compares what stands before the next digits. -/
def compareSigns : Nat → Bytes → Bytes → Ordering × Bytes × Bytes
  | 0, a, b => (.eq, a, b)
  | n + 1, a, b =>
    if a.head?.any (!isDigitByte ·) || b.head?.any (!isDigitByte ·) then
      match compare (versionRank a) (versionRank b) with
      | .eq => compareSigns n (a.drop 1) (b.drop 1)
      | o => (o, a, b)
    else (.eq, a, b)

/-- Compares two texts of which runs of digits count as numbers. -/
def compareRevisions : Nat → Bytes → Bytes → Ordering
  | 0, _, _ => .eq
  | n + 1, a, b =>
    if a.isEmpty && b.isEmpty then .eq
    else
      match compareSigns (a.length + b.length + 1) a b with
      | (.eq, a, b) =>
        let (x, a) := (a.dropWhile (· = 48)).span isDigitByte
        let (y, b) := (b.dropWhile (· = 48)).span isDigitByte
        match (compare x.length y.length).then (compareBytes x y) with
        | .eq => compareRevisions n a b
        | o => o
      | (o, _, _) => o

/-- The length of a name without the endings, such as `.tar.gz`, behind it. -/
def stemLength (bs : Bytes) : Nat :=
  max (min 1 bs.length) (go bs.length bs.reverse 0 bs.length)
where
  /-- Goes from the end, with the length of the ending so far and that of the stem. -/
  go : Nat → Bytes → Nat → Nat → Nat
    | 0, _, _, stem => stem
    | _, [], _, stem => stem
    | n + 1, b :: rest, size, stem =>
      if isLetterByte b || isDigitByte b || b = 126 then go n rest (size + 1) stem
      else if b = 46 && 0 < size && (bs[rest.length + 1]?).any (fun c => isLetterByte c || c = 126) then
        go n rest 0 rest.length
      else stem

/-- Where names that begin with dots stand: the empty one first, then `.`, `..`, and the others with a dot. -/
def dotRank (bs : Bytes) : Nat :=
  match bs with
  | [] => 0
  | [46] => 1
  | [46, 46] => 2
  | 46 :: _ => 3
  | _ => 4

def compareVersions (a b : Bytes) : Ordering :=
  match compare (dotRank a) (dotRank b) with
  | .eq =>
    let stem (t : Bytes) : Bytes := t.take (stemLength t)
    let run (x y : Bytes) : Ordering := compareRevisions (x.length + y.length + 2) x y
    (run (stem a) (stem b)).then (run a b)
  | o => o

/-! Keys -/

/-- What the bytes of a key stand for. -/
inductive KeyKind where
  | bytes
  | numeric
  | general
  | human
  | month
  | version
  | random
deriving DecidableEq

structure KeyStyle where
  kind : KeyKind := .bytes
  skipsFirstBlanks : Bool := false
  skipsLastBlanks : Bool := false
  dictionary : Bool := false
  printable : Bool := false
  foldsCase : Bool := false
  isReverse : Bool := false
deriving DecidableEq

/-- A key: how many fields and bytes are before it, and the same of what it ends with. Its end is that of the
line if none is given. -/
structure Key where
  fields : Nat := 0
  offset : Nat := 0
  last : Option (Nat × Nat) := none
  style : KeyStyle := {}

/-- A style with what a letter adds. `isFirst` and `isLast` tell to which end of the key it belongs. -/
def KeyStyle.letter? (s : KeyStyle) (isFirst isLast : Bool) (c : Char) : Option KeyStyle :=
  match c with
  | 'b' => some { s with
      skipsFirstBlanks := s.skipsFirstBlanks || isFirst, skipsLastBlanks := s.skipsLastBlanks || isLast }
  | 'd' => some { s with dictionary := true }
  | 'f' => some { s with foldsCase := true }
  | 'g' => some { s with kind := .general }
  | 'h' => some { s with kind := .human }
  | 'i' => some { s with printable := true }
  | 'M' => some { s with kind := .month }
  | 'n' => some { s with kind := .numeric }
  | 'R' => some { s with kind := .random }
  | 'r' => some { s with isReverse := true }
  | 'V' => some { s with kind := .version }
  | _ => none

def KeyStyle.letters? (s : KeyStyle) (isFirst isLast : Bool) (t : Text) : Option KeyStyle :=
  t.foldlM (fun s c => match c with
    | .char c => s.letter? isFirst isLast c
    | _ => none) s

/-- A number, the number behind a point after it, and the letters behind. -/
def keyEnd (t : Text) : Option Nat × Option Nat × Text :=
  let ds := t.takeWhile Symbol.isDigit
  match t.drop ds.length with
  | .char '.' :: r =>
    let os := r.takeWhile Symbol.isDigit
    (natural? ds, natural? os, r.drop os.length)
  | r => (natural? ds, none, r)

/-- Reads a key such as `2.3n,4r`. -/
def keyOf (t : Text) : Except Text Key :=
  let (head, tail) : Text × Option Text := match t.span (!·.is ',') with
    | (h, _ :: r) => (h, some r)
    | (h, []) => (h, none)
  match keyEnd head with
  | (none, _, _) => .error ("invalid number at field start: invalid count at start of " ++ curved t)
  | (some 0, _, _) => .error ("field number is zero: invalid field specification " ++ curved t)
  | (_, some 0, _) => .error ("character offset is zero: invalid field specification " ++ curved t)
  | (some f, o, ls) =>
    match ({} : KeyStyle).letters? true false ls with
    | none => .error ("stray character in field spec: invalid field specification " ++ curved t)
    | some style =>
      let key : Key := { fields := f - 1, offset := o.getD 1 - 1, style }
      match tail with
      | none => .ok key
      | some r =>
        match keyEnd r with
        | (none, _, _) => .error ("invalid number after ',': invalid count at start of " ++ curved r)
        | (some 0, _, _) => .error ("field number is zero: invalid field specification " ++ curved t)
        | (some f, o, ls) =>
          match style.letters? false true ls with
          | none => .error ("stray character in field spec: invalid field specification " ++ curved t)
          | some style => .ok { key with last := some (f - 1, o.getD 0), style }

/-- The bytes behind so many fields. Without a separator a field begins with the blanks before it. -/
def afterFields (separator : Option UInt8) : Nat → Bytes → Bytes
  | 0, bs => bs
  | n + 1, bs =>
    match separator with
    | some s => afterFields separator n ((bs.dropWhile (· ≠ s)).drop 1)
    | none => afterFields separator n ((bs.dropWhile isBlankByte).dropWhile (!isBlankByte ·))

def Key.bytes (separator : Option UInt8) (k : Key) (line : Bytes) : Bytes :=
  let start := afterFields separator k.fields line
  let start := if k.style.skipsFirstBlanks then start.dropWhile isBlankByte else start
  let start := start.drop k.offset
  match k.last with
  | none => start
  | some (fields, offset) =>
    let rest :=
      if offset = 0 then
        match separator with
        | some s => (afterFields separator fields line).dropWhile (· ≠ s)
        | none => afterFields separator (fields + 1) line
      else
        let r := afterFields separator fields line
        (if k.style.skipsLastBlanks then r.dropWhile isBlankByte else r).drop offset
    start.take (start.length - rest.length)

/-! Comparison -/

/-- What a key is compared by. -/
inductive Ranked where
  | bytes (bs : Bytes)
  /-- Units first, then a number and the power of ten to divide it by. -/
  | number (unit : Int) (n : Int) (places : Nat)
  /-- A class, then a fraction. -/
  | general (kind : Nat) (n : Int) (den : Nat)
  | version (bs : Bytes)

def bytesNumber (bs : Bytes) : Nat := bs.foldl (fun n b => n * 10 + (b.toNat - 48)) 0

/-- The number at the beginning of bytes, the places behind its point, and what follows. -/
def leadingBytesNumber (bs : Bytes) : Int × Nat × Bytes :=
  let bs := bs.dropWhile isBlankByte
  let (isNegative, r) : Bool × Bytes := match bs with
    | 45 :: r => (true, r)
    | r => (false, r)
  let whole := r.takeWhile isDigitByte
  let r := r.drop whole.length
  let (fraction, r) : Bytes × Bytes := match r with
    | 46 :: f => let ds := f.takeWhile isDigitByte; (ds, f.drop ds.length)
    | r => ([], r)
  let n : Int := bytesNumber (whole ++ fraction)
  (if isNegative then -n else n, fraction.length, r)

/-- The rank of the letter of a unit. -/
def unitRank (b : Option UInt8) : Int :=
  match b with
  | some 75 => 1
  | some 107 => 1
  | some 77 => 2
  | some 71 => 3
  | some 84 => 4
  | some 80 => 5
  | some 69 => 6
  | some 90 => 7
  | some 89 => 8
  | _ => 0

def monthRank (bs : Bytes) : Int :=
  let t := ((bs.dropWhile isBlankByte).take 3).map upperByte
  let names := Civil.monthNames.map fun (n : String) => Text.encode (((n : Text).take 3).map Symbol.toUpper)
  ((names.idxOf? t).map fun (i : Nat) => (i : Int) + 1).getD 0

/-- A number that bytes are scattered by. -/
def scattered (seed : Nat) (bs : Bytes) : Nat :=
  bs.foldl (fun h b => (h * 6364136223846793005 + b.toNat + 1442695040888963407) % 2 ^ 61) seed % 2305843009213693951

def KeyStyle.rank (seed : Nat) (s : KeyStyle) (bs : Bytes) : Ranked :=
  match s.kind with
  | .bytes =>
    let bs := if s.dictionary then bs.filter fun b => isBlankByte b || isLetterByte b || isDigitByte b else bs
    let bs := if s.printable then bs.filter isPrintableByte else bs
    .bytes (if s.foldsCase then bs.map upperByte else bs)
  | .numeric => let (n, places, _) := leadingBytesNumber bs; .number 0 n places
  | .human =>
    let (n, places, rest) := leadingBytesNumber bs
    let unit := if n = 0 then 0 else unitRank rest.head?
    .number (if n < 0 then -unit else unit) n places
  | .month => .number 0 (monthRank bs) 0
  | .general =>
    match Extended.read? (Text.decode bs) with
    | none => .general 0 0 1
    | some (.undefined _, _) => .general 1 0 1
    | some (.infinite true, _) => .general 2 0 1
    | some (.finite isNegative n d, _) => .general 3 (if isNegative then -(n : Int) else n) d
    | some (.infinite false, _) => .general 4 0 1
  | .version => .version bs
  | .random => .number 0 (scattered seed bs) 0

def Ranked.compare : Ranked → Ranked → Ordering
  | bytes a, bytes b => compareBytes a b
  | number u n p, number v m q =>
    (Ord.compare u v).then (if p = q then Ord.compare n m else Ord.compare (n * 10 ^ q) (m * 10 ^ p))
  | general k n d, general l m e => (Ord.compare k l).then (Ord.compare (n * e) (m * d))
  | version a, version b => compareVersions a b
  | _, _ => .eq

/-- A line with what it is compared by. -/
structure SortLine where
  line : Bytes
  ranks : List Ranked

/-- How lines are compared. -/
structure SortOrder where
  keys : List Key
  separator : Option UInt8 := none
  /-- Whether lines with equal keys are left as they are. -/
  isStable : Bool := false
  isReverse : Bool := false
  seed : Nat := 0

def SortOrder.lineOf (o : SortOrder) (bs : Bytes) : SortLine :=
  ⟨bs, o.keys.map fun k => k.style.rank o.seed (k.bytes o.separator bs)⟩

def compareRanks : List Key → List Ranked → List Ranked → Ordering
  | k :: ks, a :: as, b :: bs =>
    match a.compare b with
    | .eq => compareRanks ks as bs
    | o => if k.style.isReverse then o.swap else o
  | _, _, _ => .eq

def SortOrder.compareKeys (o : SortOrder) (a b : SortLine) : Ordering := compareRanks o.keys a.ranks b.ranks

def SortOrder.compare (o : SortOrder) (a b : SortLine) : Ordering :=
  match o.compareKeys a b with
  | .eq =>
    if o.isStable then .eq
    else if o.isReverse then (compareBytes a.line b.line).swap else compareBytes a.line b.line
  | r => r

/-- The first of every run of elements that are alike. -/
def firstOfEach {α : Type} (same : α → α → Bool) : List α → List α
  | [] => []
  | x :: xs => x :: go x xs
where
  go (before : α) : List α → List α
    | [] => []
    | x :: xs => if same before x then go before xs else x :: go x xs

/-- Two sorted lists as one; elements of the first come before those of the second that they are equal to. -/
def mergedBy {α : Type} (le : α → α → Bool) : List α → List α → List α
  | [], ys => ys
  | xs, [] => xs
  | x :: xs, y :: ys => if le x y then x :: mergedBy le xs (y :: ys) else y :: mergedBy le (x :: xs) ys
termination_by xs ys => xs.length + ys.length

/-- The place of the first line that should not follow the one before it. -/
def disorder? (follows : SortLine → SortLine → Bool) : Nat → List SortLine → Option (Nat × SortLine)
  | n, a :: b :: rest => if follows a b then disorder? follows (n + 1) (b :: rest) else some (n + 1, b)
  | _, _ => none

def sortFlags : List Flag := [
  { key := 'b', name := "ignore-leading-blanks" }, { key := 'd', name := "dictionary-order" },
  { key := 'f', name := "ignore-case" }, { key := 'g', name := "general-numeric-sort" },
  { key := 'i', name := "ignore-nonprinting" }, { key := 'M', name := "month-sort" },
  { key := 'h', name := "human-numeric-sort" }, { key := 'n', name := "numeric-sort" },
  { key := 'R', name := "random-sort" }, { key := 'r', name := "reverse" }, { key := 'V', name := "version-sort" },
  { key := 'W', name := "sort", need := .required, isLetter := false },
  { key := 'B', name := "batch-size", need := .required, isLetter := false },
  { key := 'c' }, { key := 'E', name := "check", need := .optional, isLetter := false }, { key := 'C' },
  { key := 'D', name := "debug", isLetter := false }, { key := 'k', name := "key", need := .required },
  { key := 'm', name := "merge" }, { key := 'o', name := "output", need := .required },
  { key := 's', name := "stable" }, { key := 'S', name := "buffer-size", need := .required },
  { key := 't', name := "field-separator", need := .required },
  { key := 'T', name := "temporary-directory", need := .required },
  { key := 'P', name := "parallel", need := .required, isLetter := false },
  { key := 'u', name := "unique" }, { key := 'z', name := "zero-terminated" },
  { key := 'F', name := "files0-from", need := .required, isLetter := false },
  { key := 'N', name := "random-source", need := .required, isLetter := false },
  { key := 'Z', name := "compress-program", need := .required, isLetter := false }]

/-- The letter that a word for a kind of sorting stands for. -/
def sortWord? (t : Text) : Option Char :=
  match t.toDisplayString with
  | "general-numeric" => some 'g'
  | "human-numeric" => some 'h'
  | "month" => some 'M'
  | "numeric" => some 'n'
  | "random" => some 'R'
  | "version" => some 'V'
  | _ => none

/-- The separator of fields that an argument gives. -/
def separatorOf? (t : Text) : Except Text UInt8 :=
  match t.encode with
  | [] => .error "empty tab"
  | [b] => .ok b
  | [92, 48] => .ok 0
  | _ => .error ("multi-character tab " ++ curved t)

def sort (args : List Text) : Run Nat :=
  withFlags "sort" 2 sortFlags args fun cs paths => do
    let has (c : Char) : Bool := hasOption c cs
    let words ← (optionValues 'W' cs).mapM fun t => do
      match sortWord? t with
      | some c => return c
      | none => misuse "sort" 2 ("invalid argument " ++ curved t ++ " for " ++ curved "--sort")
    let global := (words ++ cs.map (·.1)).foldl (fun s c => (KeyStyle.letter? s true true c).getD s) ({} : KeyStyle)
    let keys ← (optionValues 'k' cs).mapM fun t => do
      match keyOf t with
      | .ok k => return k
      | .error e => die "sort" 2 e
    let isPlain (s : KeyStyle) : Bool := { s with isReverse := false } = {} && !s.isReverse
    let keys := if keys.isEmpty then [{ style := global }]
      else keys.map fun k => if isPlain k.style then { k with style := global } else k
    let separator ← match optionValue? 't' cs with
      | none => pure none
      | some t =>
        match separatorOf? t with
        | .ok b => pure (some b)
        | .error e => die "sort" 2 e
    let o : SortOrder := {
      keys, separator, isStable := has 's' || has 'u', isReverse := global.isReverse, seed := (← world).noise }
    modifyWorld fun w => { w with noise := w.noise + 7919 }
    let mark := lineEnd (has 'z')
    let quiet := has 'C' || (optionValues 'E' cs).any fun t => t = ("quiet" : Text) || t = ("silent" : Text)
    let paths ← match optionValue? 'F' cs with
      | none => pure paths
      | some f =>
        match ← contentOf? "sort" f with
        | some bs => pure (linesIn true bs)
        | none => quit 2
    let sources ← (sourcesOf paths).mapM fun p => do
      match ← openSource p with
      | .ok i => return (recordsOf mark (← keeping i (drain i))).1.map o.lineOf
      | .error .isDirectory => die "sort" 2 ("read failed: " ++ shown p ++ ": Is a directory")
      | .error e => die "sort" 2 ("cannot read: " ++ shown p ++ ": " ++ e.reason)
    if has 'c' || has 'E' || has 'C' then
      let follows (a b : SortLine) : Bool := if has 'u' then o.compare a b == .lt else o.compare a b != .gt
      match disorder? follows 1 (sources.headD []) with
      | none => return 0
      | some (n, l) =>
        if !quiet then
          report "sort" (shown (paths.headD "-") ++ ":" ++ Text.ofNat n ++ ": disorder: " ++ Text.decode l.line)
        return 1
    let le (a b : SortLine) : Bool := o.compare a b != .gt
    let sorted := if has 'm' then sources.foldl (mergedBy le) [] else sources.flatten.mergeSort le
    let kept := if has 'u' then firstOfEach (fun a b => o.compareKeys a b == .eq) sorted else sorted
    let out := kept.flatMap fun l => l.line ++ [mark]
    match optionValue? 'o' cs with
    | none => putBytes "sort" out
    | some path =>
      match ← writeFile path out with
      | .ok () => pure ()
      | .error e => die "sort" 2 ("open failed: " ++ shown path ++ ": " ++ e.reason)
    return 0

end Tangle.Shell.Program
