import Tangle.Host.Shell.Program.Making

/-! # Comparing files

The program that finds the first byte in which two files differ, and the one that tells by which changes of
lines one file becomes another. The changes leave as many lines as possible as they are. -/
namespace Tangle.Shell.Program
open Run

/-! Bytes -/

/-- Where two files first differ, counted in bytes from one on. -/
def firstDifference (a b : Bytes) : Option (Nat × UInt8 × UInt8) :=
  ((a.zip b).zipIdx.find? fun ((x, y), _) => x != y).map fun ((x, y), i) => (i + 1, x, y)

def lineOfByte (bs : Bytes) (n : Nat) : Nat := ((bs.take (n - 1)).filter (· = 10)).length + 1

/-- A byte as it is shown beside its number. -/
def caretByte (b : UInt8) : Text :=
  let n := b.toNat
  let low (n : Nat) : Text := if n < 32 then "^" ++ ([.char (Char.ofNat (n + 64))] : Text) else if n = 127 then "^?"
    else [.char (Char.ofNat n)]
  if n < 128 then low n else "M-" ++ low (n - 128)

def octalPadded (b : UInt8) : Text := padLeft 3 (Text.ofChars (Nat.toDigits 8 b.toNat))

/-- Bytes to be passed over: one number for both files, or one for each. -/
def skipsOf (t : Text) : Option (Nat × Nat) :=
  match t.span (!·.is ':') with
  | (a, []) => (sized? a).map fun n => (n, n)
  | (a, _ :: b) => match sized? a, sized? b with
    | some m, some n => some (m, n)
    | _, _ => none

/-- The message about a file that is the shorter one. -/
def endMessage (listsAll : Bool) (name : Text) (bs : Bytes) : Text :=
  if bs.isEmpty then "EOF on " ++ curved name ++ " which is empty"
  else
    let n := bs.length
    "EOF on " ++ curved name ++ " after byte " ++ Text.ofNat n ++
      (if listsAll then ("" : Text)
       else if bs.getLast? = some 10 then ", line " ++ Text.ofNat (lineOfByte bs (n + 1) - 1)
       else ", in line " ++ Text.ofNat (lineOfByte bs (n + 1)))

def cmp (args : List Text) : Run Nat := do
  let fs : List Flag := [
    { key := 's', name := "quiet" }, { key := 's', name := "silent", isLetter := false }, { key := 'l', name := "verbose" },
    { key := 'b', name := "print-bytes" }, { key := 'n', name := "bytes", need := .required },
    { key := 'i', name := "ignore-initial", need := .required }]
  withFlags "cmp" 2 fs args fun cs operands => do
    if operands.isEmpty then misuse "cmp" 2 "missing operand after 'cmp'"
    match operands[4]? with
    | some t => misuse "cmp" 2 ("extra operand '" ++ t ++ "'")
    | none => pure ()
    let first := operands.headD []
    let second := operands.getD 1 "-"
    let limit := (optionValue? 'n' cs).bind sized?
    let skips := ((optionValue? 'i' cs).bind skipsOf).getD (0, 0)
    let skip (i : Nat) (standard : Nat) : Nat := ((operands[i]?).bind sized?).getD standard
    let cut (n : Nat) (bs : Bytes) : Bytes := match limit with
      | some l => (bs.drop n).take l
      | none => bs.drop n
    match ← contentOf? "cmp" first with
    | none => return 2
    | some a =>
      match ← contentOf? "cmp" second with
      | none => return 2
      | some b =>
        let a := cut (skip 2 skips.1) a
        let b := cut (skip 3 skips.2) b
        if a = b then return 0
        if hasOption 's' cs then return 1
        if hasOption 'l' cs then
          let width := (Text.ofNat (min a.length b.length)).length
          let different := (a.zip b).zipIdx.filter fun ((x, y), _) => x != y
          putLines "cmp" (different.map fun ((x, y), i) =>
            padLeft width (Text.ofNat (i + 1)) ++ " " ++ octalPadded x ++ " " ++
              (if hasOption 'b' cs then Text.padEnd 4 (caretByte x) ++ " " ++ octalPadded y ++ " " ++ caretByte y
               else octalPadded y))
        else
          match firstDifference a b with
          | some (n, x, y) =>
            put "cmp" (first ++ " " ++ second ++ " differ: byte " ++ Text.ofNat n ++ ", line " ++
              Text.ofNat (lineOfByte a n) ++ (if hasOption 'b' cs then " is " ++ octalPadded x ++ " " ++ caretByte x ++
                " " ++ octalPadded y ++ " " ++ caretByte y else "") ++ "\n")
            return 1
          | none => pure ()
        if a.length < b.length then report "cmp" (endMessage (hasOption 'l' cs) first a)
        else if b.length < a.length then report "cmp" (endMessage (hasOption 'l' cs) second b)
        return 1

/-! Lines -/

/-- Lines that are left as they are, taken away, or put in. -/
inductive Change where
  | keep
  | drop
  | add
deriving DecidableEq, Repr

/-- The lengths of the longest common parts of a list with the ends of another, given those for the list without its
first line. -/
def commonRow (same : Nat → Bool) (below : Array Nat) : Nat → Array Nat
  | 0 => #[0]
  | n + 1 =>
    let m := below.size - 1
    let row := commonRow same below n
    /- The rows are kept from their ends on. -/
    let j := m - (n + 1)
    row.push (if same j then below.getD n 0 + 1 else max (row.getD n 0) (below.getD (n + 1) 0))

/-- The rows for all ends of a list, the whole of it first. -/
def commonRows (same : Text → Text → Bool) (bs : Array Text) : List Text → List (Array Nat)
  | [] => [Array.replicate (bs.size + 1) 0]
  | a :: as_ =>
    let rows := commonRows same bs as_
    commonRow (fun j => same a (bs.getD j [])) (rows.headD #[]) bs.size :: rows

/-- The changes that make one list of lines another. -/
def changesBetween (same : Text → Text → Bool) : List (Array Nat) → List Text → List Text → List Change
  | _, [], bs => bs.map fun _ => .add
  | rows, a :: as_, bs => go rows a as_ bs (changesBetween same (rows.drop 1) as_)
where
  go (rows : List (Array Nat)) (a : Text) (as_ : List Text) : List Text → (List Text → List Change) → List Change
    | [], rest => .drop :: rest []
    | b :: bs, rest =>
      if same a b then .keep :: rest bs
      else if (rows.headD #[]).getD bs.length 0 ≤ ((rows.drop 1).headD #[]).getD (bs.length + 1) 0 then
        .drop :: rest (b :: bs)
      else .add :: go rows a as_ bs rest

def changes (same : Text → Text → Bool) (as_ bs : List Text) : List Change :=
  changesBetween same (commonRows same bs.toArray as_) as_ bs

/-- Changes that stand together: how many lines of each file come before them, and the lines themselves. -/
structure Hunk where
  first : Nat
  second : Nat
  dropped : List Text
  added : List Text
deriving Repr

/-- The hunks of changes. -/
def hunksOf : List Change → List Text → List Text → (i j : Nat) → Option Hunk → List Hunk
  | [], _, _, _, _, current => current.toList
  | .keep :: cs, as_, bs, i, j, current => current.toList ++ hunksOf cs (as_.drop 1) (bs.drop 1) (i + 1) (j + 1) none
  | .drop :: cs, as_, bs, i, j, current =>
    let h := current.getD ⟨i, j, [], []⟩
    hunksOf cs (as_.drop 1) bs (i + 1) j (some { h with dropped := h.dropped ++ as_.take 1 })
  | .add :: cs, as_, bs, i, j, current =>
    let h := current.getD ⟨i, j, [], []⟩
    hunksOf cs as_ (bs.drop 1) i (j + 1) (some { h with added := h.added ++ bs.take 1 })

/-- A line with a mark before it; a line that is not ended is told of. -/
def markedLine (mark line : Text) : Text :=
  if line.endsInNewline then mark ++ line else mark ++ line ++ "\n\\ No newline at end of file\n"

def spanText (before count : Nat) : Text :=
  if count = 0 then Text.ofNat before
  else if count = 1 then Text.ofNat (before + 1)
  else Text.ofNat (before + 1) ++ "," ++ Text.ofNat (before + count)

def Hunk.text (h : Hunk) : Text :=
  let letter : Text := if h.dropped.isEmpty then "a" else if h.added.isEmpty then "d" else "c"
  let rule : Text := if h.dropped.isEmpty || h.added.isEmpty then "" else "---\n"
  spanText h.first h.dropped.length ++ letter ++ spanText h.second h.added.length ++ ("\n" : Text) ++
    h.dropped.flatMap (markedLine "< ") ++ rule ++ h.added.flatMap (markedLine "> ")

/-- Hunks that are so near one another that their surroundings meet. -/
def groupedHunks (around : Nat) : List Hunk → List (List Hunk)
  | [] => []
  | h :: hs =>
    match groupedHunks around hs with
    | (g :: gs) :: rest =>
      if g.first ≤ h.first + h.dropped.length + 2 * around then (h :: g :: gs) :: rest else [h] :: (g :: gs) :: rest
    | rest => [h] :: rest

def unifiedSpan (before count : Nat) : Text :=
  if count = 1 then Text.ofNat (before + 1)
  else (if count = 0 then Text.ofNat before else Text.ofNat (before + 1)) ++ "," ++ Text.ofNat count

/-- Hunks with the lines around them. -/
def unifiedText (around : Nat) (as_ : List Text) (group : List Hunk) : Text :=
  match group.head?, group.getLast? with
  | some first, some last =>
    let start := first.first - around
    let lead := first.first - start
    let lastEnd := last.first + last.dropped.length
    let stop := min as_.length (lastEnd + around)
    let (body, at_) := group.foldl (fun (acc : Text × Nat) h =>
      (acc.1 ++ ((as_.drop acc.2).take (h.first - acc.2)).flatMap (markedLine " ") ++
        h.dropped.flatMap (markedLine "-") ++ h.added.flatMap (markedLine "+"), h.first + h.dropped.length)) (([] : Text), start)
    let body := body ++ ((as_.drop at_).take (stop - at_)).flatMap (markedLine " ")
    let secondStart := first.second - lead
    let secondStop := last.second + last.added.length + (stop - lastEnd)
    "@@ -" ++ unifiedSpan start (stop - start) ++ " +" ++ unifiedSpan secondStart (secondStop - secondStart) ++ " @@\n" ++ body
  | _, _ => []

/-- What is left out of lines before they are compared. -/
def normalized (cs : Chosen) (line : Text) : Text :=
  let t := if hasOption 'i' cs then line.map Symbol.toLower else line
  let isBlank (s : Symbol) : Bool := Extended.isSpacing s
  if hasOption 'w' cs then t.filter (!isBlank ·)
  else if hasOption 'b' cs then
    Text.trimEndBy isBlank (t.foldr (fun s (u : Text) => if isBlank s then
      .char ' ' :: u.dropWhile isBlank else s :: u) [])
  else if hasOption 'Z' cs then Text.trimEndBy isBlank t
  else t

/-- A file as a header tells of it. -/
def headerLine (mark : Text) (label : Option Text) (path : Text) : Run Text := do
  match label with
  | some l => return mark ++ " " ++ l ++ "\n"
  | none =>
    let moment : Int ← if isDash path then pure ((← world).clock : Int) else
      match ← entryAt true path with
      | .ok e => pure (e.changed : Int)
      | .error _ => pure 0
    let w := Civil.Shown.ofSeconds (moment.fdiv 1000000) ((moment % 1000000).toNat * 1000) (← zone)
    return mark ++ " " ++ path ++ "\t" ++ formatMoment w "%Y-%m-%d %H:%M:%S.%N %z" ++ "\n"

/-- Tells how two files differ. -/
def tellDifference (cs : Chosen) (head : Text) (first second : Text) : Run Nat := do
  match ← contentOf? "diff" first with
  | none => return 2
  | some a =>
    match ← contentOf? "diff" second with
    | none => return 2
    | some b =>
      let as_ := Text.lines (Text.decode a)
      let bs := Text.lines (Text.decode b)
      let same (x y : Text) : Bool := normalized cs x = normalized cs y
      let hunks := hunksOf (changes same as_ bs) as_ bs 0 0 none
      let hunks := if hasOption 'B' cs then
          hunks.filter fun h => !(h.dropped ++ h.added).all fun l => l = ("\n" : Text)
        else hunks
      if hunks.isEmpty then
        if hasOption 's' cs then put "diff" ("Files " ++ first ++ " and " ++ second ++ " are identical\n")
        return 0
      if hasOption 'q' cs then
        put "diff" ("Files " ++ first ++ " and " ++ second ++ " differ\n")
        return 1
      if (a.contains 0 || b.contains 0) && !hasOption 'a' cs then
        put "diff" ("Binary files " ++ first ++ " and " ++ second ++ " differ\n")
        return 1
      put "diff" head
      let around? : Option Nat := match optionValue? 'U' cs with
        | some t => natural? t
        | none => if hasOption 'u' cs then some 3 else none
      match around? with
      | some around =>
        let labels := optionValues '\x02' cs
        put "diff" ((← headerLine "---" labels[0]? first) ++ (← headerLine "+++" labels[1]? second))
        put "diff" ((groupedHunks around hunks).flatMap (unifiedText around as_))
      | none => put "diff" (hunks.flatMap Hunk.text)
      return 1

/-- Compares two files, or what two directories hold. -/
def compareTrees (cs : Chosen) (head : Text) : Nat → (isTop : Bool) → (first second : Text) → Run Nat
  | 0, _, _, _ => return 2
  | n + 1, isTop, first, second => do
    let nodeOf (path : Text) : Run (Option (Place × Node)) := do
      if isDash path then return none else return (← lookup path).toOption
    let a ← nodeOf first
    let b ← nodeOf second
    let isTree (x : Option (Place × Node)) : Bool := x.any (·.2.isDirectory)
    let inside (path name : Text) : Text := Text.trimEndBy (·.is '/') path ++ "/" ++ name
    let base (path : Text) : Text := ((Text.trimEndBy (·.is '/') path).reverse.takeWhile (!·.is '/')).reverse
    match a, b with
    | some (p, .directory _), some (q, .directory _) =>
      let namesAt (place : Place) : Run (List Text) := do return ((← tree).children place).map (·.1)
      let xs ← namesAt p
      let ys ← namesAt q
      let all := sortedNames (xs ++ ys.filter (!xs.contains ·))
      let statuses ← all.mapM fun name => do
        if !ys.contains name then
          if hasOption 'N' cs then return 1
          put "diff" ("Only in " ++ Text.trimEndBy (·.is '/') first ++ ": " ++ name ++ "\n")
          return 1
        else if !xs.contains name then
          put "diff" ("Only in " ++ Text.trimEndBy (·.is '/') second ++ ": " ++ name ++ "\n")
          return 1
        else
          let x := inside first name
          let y := inside second name
          let areTrees := isTree (← nodeOf x) && isTree (← nodeOf y)
          if areTrees && !hasOption 'r' cs then
            put "diff" ("Common subdirectories: " ++ x ++ " and " ++ y ++ "\n")
            return 0
          else compareTrees cs (head ++ " " ++ x ++ " " ++ y ++ "\n") n false x y
      return statuses.foldl max 0
    | _, _ =>
      if isTop && isTree a then tellDifference cs [] (inside first (base second)) second
      else if isTop && isTree b then tellDifference cs [] first (inside second (base first))
      else tellDifference cs (if isTop then [] else head) first second

def diff (args : List Text) : Run Nat := do
  let fs : List Flag := [
    { key := 'q', name := "brief" }, { key := 's', name := "report-identical-files" },
    { key := 'u', name := "unified" }, { key := 'U', need := .required }, { key := 'i', name := "ignore-case" },
    { key := 'b', name := "ignore-space-change" }, { key := 'w', name := "ignore-all-space" },
    { key := 'Z', name := "ignore-trailing-space" }, { key := 'B', name := "ignore-blank-lines" },
    { key := 'a', name := "text" }, { key := 'r', name := "recursive" }, { key := 'N', name := "new-file" },
    { key := 'd', name := "minimal" }, { key := '\x02', name := "label", need := .required, isLetter := false },
    { key := '\x03', name := "normal", isLetter := false }]
  withFlags "diff" 2 fs args fun cs operands => do
    match operands with
    | [] => misuse "diff" 2 "missing operand after 'diff'"
    | [a] => misuse "diff" 2 ("missing operand after '" ++ a ++ "'")
    | [a, b] =>
      let shownFlags : List Text := args.filter fun t => t.startsWith "-" && 1 < t.length
      compareTrees cs (("diff" : Text) ++ shownFlags.flatMap fun t => (" " ++ t : Text)) 100 true a b
    | _ :: _ :: c :: _ => misuse "diff" 2 ("extra operand '" ++ c ++ "'")

end Tangle.Shell.Program
