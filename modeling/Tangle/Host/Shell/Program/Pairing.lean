import Tangle.Host.Shell.Program.Sorting

/-! # Lines side by side

The programs that compare a line with the one before it, or the lines of two sorted files with each other,
and those that put items into an order of their own. -/
namespace Tangle.Shell.Program
open Run

/-! Repeated lines -/

/-- Which lines of a run of equal ones are shown, and what separates the runs. -/
inductive Repeats where
  | first (shown : Nat → Bool)
  | all (onlyRepeated : Bool) (before between after : Bool)

/-- The part of a line that is compared. -/
def comparedPart (fields chars : Nat) (width : Option Nat) (foldsCase : Bool) (line : Bytes) : Bytes :=
  let rest := (List.range fields).foldl (fun r _ => (r.dropWhile isBlankByte).dropWhile (!isBlankByte ·)) line
  let rest := rest.drop chars
  let rest := match width with
    | some w => rest.take w
    | none => rest
  if foldsCase then rest.map upperByte else rest

/-- The runs of lines with equal parts, newest first, each with its lines newest first. -/
def runsBy (part : Bytes → Bytes) (lines : List Bytes) : List (List Bytes) :=
  (lines.foldl (fun (acc : List (List Bytes) × Bytes) l =>
    let p := part l
    match acc.1 with
    | run :: runs => if p = acc.2 then ((l :: run) :: runs, p) else ([l] :: acc.1, p)
    | [] => ([[l]], p)) ([], [])).1

/-- Arguments in which numbers behind `-` and `+` are spelt out. -/
def spelledSkips (args : List Text) : List Text :=
  args.map fun a => match a with
    | .char '-' :: d :: ds => if (d :: ds).all Symbol.isDigit then "-f" ++ d :: ds else a
    | .char '+' :: d :: ds => if (d :: ds).all Symbol.isDigit then "-s" ++ d :: ds else a
    | _ => a

def uniqFlags : List Flag := [
  { key := 'c', name := "count" }, { key := 'd', name := "repeated" }, { key := 'D' },
  { key := 'D', name := "all-repeated", need := .optional, isLetter := false },
  { key := 'f', name := "skip-fields", need := .required },
  { key := 'G', name := "group", need := .optional, isLetter := false }, { key := 'i', name := "ignore-case" },
  { key := 's', name := "skip-chars", need := .required }, { key := 'u', name := "unique" },
  { key := 'w', name := "check-chars", need := .required }, { key := 'z', name := "zero-terminated" }]

def uniq (args : List Text) : Run Nat :=
  withFlags "uniq" 1 uniqFlags (spelledSkips args) fun cs paths => do
    let has (c : Char) : Bool := hasOption c cs
    needOperands "uniq" 0 (some 2) paths
    let count (c : Char) (what : Text) : Run (Option Nat) := do
      match optionValue? c cs with
      | none => return none
      | some t =>
        match natural? t with
        | some n => return some n
        | none => die "uniq" 1 (t ++ ": invalid number of " ++ what)
    let part := comparedPart ((← count 'f' "fields to skip").getD 0) ((← count 's' "bytes to skip").getD 0)
      (← count 'w' "bytes to compare") (has 'i')
    let word (c : Char) : Text := (optionValue? c cs).getD []
    if has 'G' && (has 'c' || has 'd' || has 'D' || has 'u') then
      misuse "uniq" 1 "--group is mutually exclusive with -c/-d/-D/-u"
    if has 'D' && has 'c' then
      misuse "uniq" 1 "printing all duplicated lines and repeat counts is meaningless"
    let repeats : Repeats :=
      if has 'G' then
        let m := (word 'G').toDisplayString
        .all false (m = "prepend" || m = "both") (m ≠ "prepend") (m = "append" || m = "both")
      else if has 'D' then
        let m := (word 'D').toDisplayString
        .all true (m = "prepend") (m = "separate") false
      else .first fun n => (!has 'd' || 1 < n) && (!has 'u' || n = 1)
    match ← contentOf? "uniq" (paths.headD "-") with
    | none => return 1
    | some bs =>
      let mark := lineEnd (has 'z')
      let runs := (runsBy part (recordsOf mark bs).1).reverse.map List.reverse
      let out : Bytes := match repeats with
        | .first isShown => runs.flatMap fun run =>
          let head : Text := if has 'c' then padLeft 7 (Text.ofNat run.length) ++ " " else []
          if isShown run.length then head.encode ++ run.headD [] ++ [mark] else []
        | .all onlyRepeated before between after =>
          let shown := if onlyRepeated then runs.filter fun r => 1 < r.length else runs
          shown.zipIdx.flatMap fun (run, i) =>
            let isLast : Bool := i + 1 = shown.length
            (if before || (between && 0 < i) then [mark] else []) ++ run.flatMap (· ++ [mark]) ++
              (if after && isLast then [mark] else [])
      match paths[1]? with
      | none => putBytes "uniq" out
      | some path =>
        match ← writeFile path out with
        | .ok () => pure ()
        | .error e => die "uniq" 1 (shown path ++ ": " ++ e.reason)
      return 0

/-! Common lines -/

/-- The lines of two lists in order, each with the list that it is in, or 3 for both. -/
def sides : List Bytes → List Bytes → List (Nat × Bytes)
  | [], ys => ys.map (2, ·)
  | xs, [] => xs.map (1, ·)
  | x :: xs, y :: ys =>
    match compareBytes x y with
    | .lt => (1, x) :: sides xs (y :: ys)
    | .gt => (2, y) :: sides (x :: xs) ys
    | .eq => (3, x) :: sides xs ys
termination_by xs ys => xs.length + ys.length

def isSortedBytes (ls : List Bytes) : Bool := (ls.zip (ls.drop 1)).all fun (a, b) => compareBytes a b != .gt

def comm (args : List Text) : Run Nat := do
  let fs := letters "123z" ++ [
    { key := 'k', name := "check-order", isLetter := false }, { key := 'n', name := "nocheck-order", isLetter := false },
    { key := 'o', name := "output-delimiter", need := .required, isLetter := false },
    { key := 't', name := "total", isLetter := false }, { key := 'z', name := "zero-terminated", isLetter := false }]
  withFlags "comm" 1 fs args fun cs paths => do
    needOperands "comm" 2 (some 2) paths
    let has (c : Char) : Bool := hasOption c cs
    let mark := lineEnd (has 'z')
    let lines (i : Nat) : Run (List Bytes) := do
      match ← contentOf? "comm" (paths.getD i []) with
      | some bs => return (recordsOf mark bs).1
      | none => quit 1
    let xs ← lines 0
    let ys ← lines 1
    let delimiter : Text := match optionValue? 'o' cs with
      | some t => if t.isEmpty then [Symbol.nul] else t
      | none => "\t"
    let all := sides xs ys
    let shown (n : Nat) : Bool := !has (if n = 1 then '1' else if n = 2 then '2' else '3')
    let lead (n : Nat) : Text :=
      ((if 1 < n && shown 1 then delimiter else []) ++ (if 2 < n && shown 2 then delimiter else []) : Text)
    putBytes "comm" (all.flatMap fun (n, l) => if shown n then (lead n).encode ++ l ++ [mark] else [])
    if has 't' then
      let total (n : Nat) : Text := Text.ofNat (all.countP (·.1 = n))
      put "comm" (total 1 ++ delimiter ++ total 2 ++ delimiter ++ total 3 ++ delimiter ++ "total" ++ endMark (has 'z') true)
    let unpaired := all.any (·.1 ≠ 3)
    if has 'n' || !(unpaired || has 'k') then return 0
    let bad := [(1, xs), (2, ys)].filter fun (_, ls) => !isSortedBytes ls
    for (n, _) in bad do report "comm" ("file " ++ Text.ofNat n ++ " is not in sorted order")
    if bad.isEmpty then return 0
    if !has 'k' then report "comm" "input is not in sorted order"
    return 1

/-! Joined lines -/

/-- A part of a joined line: the key, or a field of one of the files. -/
inductive JoinField where
  | key
  | field (file index : Nat)

structure Joinery where
  keys : Nat × Nat := (0, 0)
  separator : Option UInt8 := none
  foldsCase : Bool := false
  filler : Bytes := []
  fields : List JoinField := []
  showsPairs : Bool := true
  /-- Whether the lines of each file that find no partner are shown. -/
  showsFirst : Bool := false
  showsSecond : Bool := false

def splitFields (separator : Option UInt8) (line : Bytes) : List Bytes :=
  match separator with
  | some s =>
    let (fs, last) := splitRecords s line
    fs ++ [last]
  | none =>
    let (fs, last) := splitRecords 32 (line.map fun b => if isBlankByte b then 32 else b)
    (fs ++ [last]).filter (!·.isEmpty)

def Joinery.keyOf (j : Joinery) (file : Nat) (fs : List Bytes) : Bytes :=
  let k := fs.getD (if file = 1 then j.keys.1 else j.keys.2) []
  if j.foldsCase then k.map upperByte else k

/-- The text of a pair of lines, one of which may be missing. -/
def Joinery.line (j : Joinery) (a b : Option (List Bytes)) : Bytes :=
  let filled (f : Option Bytes) : Bytes := match f with
    | some bs => if bs.isEmpty then j.filler else bs
    | none => j.filler
  let key := match a, b with
    | some fs, _ => fs[j.keys.1]?
    | none, some fs => fs[j.keys.2]?
    | none, none => none
  let parts : List Bytes :=
    if j.fields.isEmpty then
      filled key :: ((a.map fun fs => (fs.eraseIdx j.keys.1).map fun f => filled (some f)).getD [] ++
        (b.map fun fs => (fs.eraseIdx j.keys.2).map fun f => filled (some f)).getD [])
    else j.fields.map fun
      | .key => filled key
      | .field 1 i => filled (a.bind (·[i]?))
      | .field _ i => filled (b.bind (·[i]?))
  List.intercalate [j.separator.getD 32] parts

/-- The lines that come from two lists of lines in the order of their keys. -/
def Joinery.run (j : Joinery) : Nat → List (List Bytes) → List (List Bytes) → List Bytes
  | 0, _, _ => []
  | n + 1, xs, ys =>
    let alone1 (fs : List Bytes) : List Bytes := if j.showsFirst then [j.line (some fs) none] else []
    let alone2 (fs : List Bytes) : List Bytes := if j.showsSecond then [j.line none (some fs)] else []
    match xs, ys with
    | [], ys => ys.flatMap alone2
    | xs, [] => xs.flatMap alone1
    | x :: xs', y :: ys' =>
      let k := j.keyOf 1 x
      match compareBytes k (j.keyOf 2 y) with
      | .lt => alone1 x ++ j.run n xs' (y :: ys')
      | .gt => alone2 y ++ j.run n (x :: xs') ys'
      | .eq =>
        let (same1, rest1) := (x :: xs').span fun fs => j.keyOf 1 fs = k
        let (same2, rest2) := (y :: ys').span fun fs => j.keyOf 2 fs = k
        (if j.showsPairs then same1.flatMap fun a => same2.map fun b => j.line (some a) (some b) else []) ++
          j.run n rest1 rest2

/-- Reads the list of fields of a joined line. -/
def joinFields? (t : Text) : Option (List JoinField) :=
  ((Text.piecesBy (fun s => s.isAnyOf ", \t") t).filter (!·.isEmpty)).mapM fun p =>
    match p with
    | [.char '0'] => some .key
    | .char '1' :: .char '.' :: ds => (natural? ds).map fun n => .field 1 (n - 1)
    | .char '2' :: .char '.' :: ds => (natural? ds).map fun n => .field 2 (n - 1)
    | _ => none

def join (args : List Text) : Run Nat := do
  let fs := letters "aevjto12" .required ++ letters "iz" ++ [
    { key := 'i', name := "ignore-case", isLetter := false },
    { key := 'k', name := "check-order", isLetter := false }, { key := 'n', name := "nocheck-order", isLetter := false },
    { key := 'H', name := "header", isLetter := false }, { key := 'z', name := "zero-terminated", isLetter := false }]
  withFlags "join" 1 fs args fun cs paths => do
    needOperands "join" 2 (some 2) paths
    let field (c : Char) : Run (Option Nat) := do
      match optionValue? c cs with
      | none => return none
      | some t =>
        match natural? t with
        | some n => if n = 0 then die "join" 1 ("invalid field number: " ++ curved t) else return some (n - 1)
        | none => die "join" 1 ("invalid field number: " ++ curved t)
    let both ← field 'j'
    let separator ← match optionValue? 't' cs with
      | none => pure none
      | some [] => pure (some 10)
      | some t =>
        match separatorOf? t with
        | .ok b => pure (some b)
        | .error e => die "join" 1 e
    let showsFile (c : Char) (n : Text) : Bool := (optionValues c cs).contains n
    let isAutomatic := optionValue? 'o' cs = some "auto"
    let fields ← match optionValue? 'o' cs with
      | none => pure []
      | some t =>
        if isAutomatic then pure [] else
        match joinFields? t with
        | some fs => pure fs
        | none => die "join" 1 ("invalid field specifier: " ++ curved t)
    let mark := lineEnd (hasOption 'z' cs)
    let lines (i : Nat) : Run (List (List Bytes)) := do
      match ← contentOf? "join" (paths.getD i []) with
      | some bs => return (recordsOf mark bs).1.map (splitFields separator)
      | none => quit 1
    let xs ← lines 0
    let ys ← lines 1
    let keys := ((← field '1').getD (both.getD 0), (← field '2').getD (both.getD 0))
    let automatic : List JoinField := .key ::
      (((List.range ((xs.headD []).length)).filter (· ≠ keys.1)).map (.field 1 ·) ++
        ((List.range ((ys.headD []).length)).filter (· ≠ keys.2)).map (.field 2 ·))
    let j : Joinery := {
      keys, separator, foldsCase := hasOption 'i' cs, filler := ((optionValue? 'e' cs).getD []).encode
      fields := if isAutomatic then automatic else fields, showsPairs := (optionValues 'v' cs).isEmpty
      showsFirst := showsFile 'a' "1" || showsFile 'v' "1", showsSecond := showsFile 'a' "2" || showsFile 'v' "2" }
    let (header, xs, ys) : List Bytes × List (List Bytes) × List (List Bytes) :=
      if hasOption 'H' cs && (!xs.isEmpty || !ys.isEmpty) then ([j.line xs.head? ys.head?], xs.drop 1, ys.drop 1)
      else ([], xs, ys)
    putBytes "join" ((header ++ j.run (xs.length + ys.length + 1) xs ys).flatMap (· ++ [mark]))
    let isSorted (file : Nat) (ls : List (List Bytes)) : Bool := isSortedBytes (ls.map (j.keyOf file))
    if hasOption 'n' cs || (isSorted 1 xs && isSorted 2 ys) then return 0
    if !isSorted 1 xs then report "join" (paths.getD 0 [] ++ ": is not sorted")
    if !isSorted 2 ys then report "join" (paths.getD 1 [] ++ ": is not sorted")
    report "join" "input is not in sorted order"
    return 1

/-! Orders that are given by pairs -/

/-- An item with the number of those that have to come before it, and those that come after it, newest first. -/
structure Ranking where
  name : Bytes
  before : Nat := 0
  after : List Nat := []
  isOut : Bool := false
  link : Option Nat := none

abbrev Rankings := Array Ranking

def Rankings.change (rs : Rankings) (i : Nat) (f : Ranking → Ranking) : Rankings :=
  match rs[i]? with
  | some r => rs.setIfInBounds i (f r)
  | none => rs

/-- The items of pairs, in the order of their names, with what the pairs say. -/
def rankingsOf (pairs : List (Bytes × Bytes)) : Rankings :=
  let names := firstOfEach (· == ·) ((pairs.flatMap fun (a, b) => [a, b]).mergeSort fun a b => compareBytes a b != .gt)
  let rs : Rankings := (names.map fun n => { name := n }).toArray
  pairs.foldl (fun rs (a, b) =>
    if a = b then rs
    else
      match names.idxOf? a, names.idxOf? b with
      | some i, some k =>
        (rs.change k fun r => { r with before := r.before + 1 }).change i fun r => { r with after := k :: r.after }
      | _, _ => rs) rs

/-- Takes items off the front of a queue, each of which sets others free. -/
def unwind : Nat → Rankings → (queue : List Nat) → (done : List Bytes) → Rankings × List Bytes
  | 0, rs, _, done => (rs, done)
  | _, rs, [], done => (rs, done)
  | n + 1, rs, i :: queue, done =>
    match rs[i]? with
    | none => unwind n rs queue done
    | some r =>
      let rs := rs.change i fun r => { r with isOut := true }
      let (rs, freed) := r.after.foldl (fun (acc : Rankings × List Nat) k =>
        let rs := acc.1.change k fun s => { s with before := s.before - 1 }
        if (rs[k]?).any (·.before = 0) then (rs, k :: acc.2) else (rs, acc.2)) (rs, [])
      unwind n rs (queue ++ freed.reverse) (r.name :: done)

/-- A search for a loop: its current end, and, once it has been found, the names in it. -/
structure LoopSearch where
  items : Rankings
  head : Option Nat := none
  found : Option (List Bytes) := none

/-- Follows the links back from the end of a loop to an item, and undoes all links. -/
def LoopSearch.names (rs : Rankings) (goal : Nat) : Nat → Nat → List Bytes
  | 0, _ => []
  | n + 1, i =>
    match rs[i]? with
    | none => []
    | some r =>
      if i = goal then [r.name]
      else match r.link with
        | some k => r.name :: names rs goal n k
        | none => [r.name]

/-- Looks at an item: it begins a loop, is put before the loop so far, or closes it. -/
def LoopSearch.visit (s : LoopSearch) (i : Nat) : LoopSearch :=
  if s.found.isSome then s
  else match s.items[i]?, s.head with
    | some r, none => if 0 < r.before then { s with head := some i } else s
    | some r, some h =>
      if r.before = 0 || !r.after.contains h then s
      else if r.link.isSome then
        let names := names s.items i (s.items.size + 1) h
        let items := (s.items.change h fun t => { t with before := t.before - 1 }).change i fun t =>
          { t with after := t.after.erase h }
        { items := items.map fun t => { t with link := none }, head := none, found := some names }
      else { s with items := s.items.change i fun t => { t with link := some h }, head := some i }
    | none, _ => s

def findLoop : Nat → LoopSearch → LoopSearch
  | 0, s => s
  | n + 1, s =>
    let s := (List.range s.items.size).foldl LoopSearch.visit s
    if s.found.isSome || s.head.isNone then s else findLoop n s

/-- All items in an order that the pairs allow, with the loops that had to be broken for it. -/
def orderItems : Nat → Rankings → (done : List Bytes) → (loops : List (List Bytes)) → List Bytes × List (List Bytes)
  | 0, _, done, loops => (done.reverse, loops.reverse)
  | n + 1, rs, done, loops =>
    let free := (List.range rs.size).filter fun i => (rs[i]?).any fun r => !r.isOut && r.before = 0
    let (rs, done) := unwind (rs.size + 1) rs free done
    if rs.all (·.isOut) then (done.reverse, loops.reverse)
    else
      let s := findLoop (rs.size + 2) { items := rs.map fun r => { r with link := none } }
      orderItems n s.items done (s.found.toList ++ loops)

def tsort (args : List Text) : Run Nat :=
  withFlags "tsort" 1 [] args fun _ paths => do
    needOperands "tsort" 0 (some 1) paths
    let source := paths.headD "-"
    match ← contentOf? "tsort" source with
    | none => return 1
    | some bs =>
      let tokens := splitFields none bs
      if tokens.length % 2 = 1 then die "tsort" 1 (shown source ++ ": input contains an odd number of tokens")
      let pairs := (grouped2 tokens)
      let rs := rankingsOf pairs
      let (items, loops) := orderItems (pairs.length + 2) rs [] []
      for l in loops do
        report "tsort" (shown source ++ ": input contains a loop:")
        for name in l do report "tsort" (Text.decode name)
      putBytes "tsort" (items.flatMap (· ++ [10]))
      return statusOf loops.isEmpty
where
  grouped2 : List Bytes → List (Bytes × Bytes)
    | a :: b :: rest => (a, b) :: grouped2 rest
    | _ => []

/-! Random orders -/

/-- A random number below a bound. -/
def randomBelow (bound : Nat) : Run Nat := do
  let bs ← noise 4
  return (bs.foldl (fun n b => n * 256 + b.toNat) 0) % max 1 bound

/-- So many elements of a list in a random order. -/
def drawn {α : Type} : Nat → List α → Run (List α)
  | 0, _ => return []
  | n + 1, xs => do
    let i ← randomBelow xs.length
    match xs[i]? with
    | some x => return x :: (← drawn n (xs.eraseIdx i))
    | none => return []

def shuf (args : List Text) : Run Nat := do
  let fs : List Flag := [
    { key := 'e', name := "echo" }, { key := 'i', name := "input-range", need := .required },
    { key := 'n', name := "head-count", need := .required }, { key := 'o', name := "output", need := .required },
    { key := 'R', name := "random-source", need := .required, isLetter := false },
    { key := 'r', name := "repeat" }, { key := 'z', name := "zero-terminated" }]
  withFlags "shuf" 1 fs args fun cs operands => do
    let mark := lineEnd (hasOption 'z' cs)
    let items : List Bytes ← match optionValue? 'i' cs with
      | some t =>
        match (Text.pieces (.char '-') t).mapM natural? with
        | some [a, b] =>
          if b + 1 < a then die "shuf" 1 ("invalid input range: " ++ curved t)
          pure ((List.range (b + 1 - a)).map fun k => (Text.ofNat (a + k)).encode)
        | _ => die "shuf" 1 ("invalid input range: " ++ curved t)
      | none =>
        if hasOption 'e' cs then pure (operands.map Text.encode)
        else
          needOperands "shuf" 0 (some 1) operands
          match ← contentOf? "shuf" (operands.headD "-") with
          | some bs => pure (recordsOf mark bs).1
          | none => quit 1
    let counts ← (optionValues 'n' cs).mapM fun t => do
      match natural? t with
      | some n => return n
      | none => die "shuf" 1 ("invalid line count: " ++ curved t)
    let limit := counts.foldl (fun m n => some (m.elim n (min n))) (none : Option Nat)
    let out ← if hasOption 'r' cs then
        if items.isEmpty then die "shuf" 1 "no lines to repeat"
        (List.range (limit.getD 1000)).mapM fun _ => do return items.getD (← randomBelow items.length) []
      else drawn (limit.getD items.length) items
    let bs := out.flatMap (· ++ [mark])
    match optionValue? 'o' cs with
    | none => putBytes "shuf" bs
    | some path =>
      match ← writeFile path bs with
      | .ok () => pure ()
      | .error e => die "shuf" 1 (shown path ++ ": " ++ e.reason)
    return 0

end Tangle.Shell.Program
