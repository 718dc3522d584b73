import Tangle.Host.Shell.Program.Source
import Tangle.Host.Shell.Regex.Reading

/-! # Copying

The programs that write what they read as it is, in reverse, with numbers, or to several places at once. -/
namespace Tangle.Shell.Program
open Run

/-! Joining files -/

/-- How the bytes of files are shown when they are joined. -/
structure Joining where
  numbersAll : Bool := false
  numbersFilled : Bool := false
  showsEnds : Bool := false
  showsTabs : Bool := false
  showsControls : Bool := false
  squeezes : Bool := false

/-- Where the joining has come to. -/
structure Joined where
  number : Nat := 1
  isAtStart : Bool := true
  /-- The number of empty lines just before. -/
  empties : Nat := 0
  /-- Whether a carriage return is still to be written. -/
  hasReturn : Bool := false

/-- A byte with control characters made visible. -/
def visibleByte (b : UInt8) : Bytes :=
  let low (c : UInt8) : Bytes := if c < 32 then [94, c + 64] else if c = 127 then [94, 63] else [c]
  if b < 128 then low b else [77, 45] ++ low (b - 128)

def Joining.byte (j : Joining) (b : UInt8) : Bytes :=
  if b = 9 then if j.showsTabs then [94, 73] else [9]
  else if j.showsControls then visibleByte b
  else [b]

def Joining.step (j : Joining) (s : Joined) (b : UInt8) : Joined × Bytes :=
  let pending : Bytes := if !s.hasReturn then [] else if b = 10 then [94, 77] else j.byte 13
  let isEmpty := b = 10 && s.isAtStart && !s.hasReturn
  if isEmpty && j.squeezes && 0 < s.empties then (s, [])
  else
    let isNumbered := s.isAtStart && (if j.numbersFilled then !isEmpty else j.numbersAll)
    let head : Bytes := if isNumbered then (padLeft 6 (Text.ofNat s.number) ++ "\t").encode else []
    let number := if isNumbered then s.number + 1 else s.number
    if b = 10 then
      ({ number, isAtStart := true, empties := if isEmpty then s.empties + 1 else 0 },
        pending ++ head ++ (if j.showsEnds then [36, 10] else [10]))
    else if b = 13 && j.showsEnds then ({ number, isAtStart := false, hasReturn := true }, pending ++ head)
    else ({ number, isAtStart := false }, pending ++ head ++ j.byte b)

def Joining.isPlain (j : Joining) : Bool :=
  !(j.numbersAll || j.numbersFilled || j.showsEnds || j.showsTabs || j.showsControls || j.squeezes)

/-- Whether a stream is at bytes of the file that is written to. -/
def isOwnOutput (i : Nat) : Run Bool := do
  match ← descriptor? 1 with
  | none => return false
  | some o =>
    match ← stream i, ← stream o with
    | .file p offset _, .file q _ _ =>
      match (← tree).node? p with
      | some (.file content _) => return p = q && offset < content.length
      | _ => return false
    | _, _ => return false

def cat (args : List Text) : Run Nat := do
  let fs : List Flag := [
    { key := 'A', name := "show-all" }, { key := 'b', name := "number-nonblank" }, { key := 'e' },
    { key := 'E', name := "show-ends" }, { key := 'n', name := "number" }, { key := 's', name := "squeeze-blank" },
    { key := 't' }, { key := 'T', name := "show-tabs" }, { key := 'u' }, { key := 'v', name := "show-nonprinting" }]
  withFlags "cat" 1 fs args fun cs paths => do
    let has (set : String) : Bool := cs.any fun c => set.contains c.1
    let j : Joining := {
      numbersAll := has "n", numbersFilled := has "b", showsEnds := has "AeE", showsTabs := has "AtT"
      showsControls := has "Aetv", squeezes := has "s" }
    let (s, ok) ← join j (sourcesOf paths) ({}, true)
    if s.hasReturn then putBytes "cat" (j.byte 13)
    return statusOf ok
where
  join (j : Joining) : List Text → Joined × Bool → Run (Joined × Bool)
    | [], s => return s
    | path :: rest, (s, ok) => do
      match ← openSource path with
      | .error e =>
        reportSource "cat" path e
        join j rest (s, false)
      | .ok i =>
        if ← isOwnOutput i then
          report "cat" (shown path ++ ": input file is output file")
          join j rest (s, false)
        else
          let s ← feedAll i (fun s bs => do
            if j.isPlain then
              putBytes "cat" bs
              return s
            else
              let (s, out) := bs.foldl (fun (acc : Joined × List Bytes) b =>
                let (s, bs) := j.step acc.1 b
                (s, bs :: acc.2)) (s, [])
              putBytes "cat" out.reverse.flatten
              return s) s
          join j rest (s, ok)

/-! Backwards -/

/-- The pieces of bytes, each with the mark that ends it, or that it begins with. -/
def markedPieces (mark : Bytes) (isBefore : Bool) (bs : Bytes) : List Bytes :=
  go (bs.length + 1) bs [] []
where
  go : Nat → Bytes → (piece : List UInt8) → List Bytes → List Bytes
    | 0, _, _, done => done.reverse
    | _, [], piece, done => (if piece.isEmpty then done else piece.reverse :: done).reverse
    | n + 1, b :: bs, piece, done =>
      if !mark.isEmpty && mark.isPrefixOf (b :: bs) then
        let rest := (b :: bs).drop mark.length
        if isBefore then go n rest mark.reverse (if piece.isEmpty then done else piece.reverse :: done)
        else go n rest [] ((piece.reverse ++ mark) :: done)
      else go n bs (b :: piece) done

def tac (args : List Text) : Run Nat := do
  let fs : List Flag := [
    { key := 'b', name := "before" }, { key := 'r', name := "regex" },
    { key := 's', name := "separator", need := .required }]
  withFlags "tac" 1 fs args fun cs paths => do
    let mark : Bytes := match optionValue? 's' cs with
      | some t => if t.isEmpty then [0] else t.encode
      | none => [10]
    let (all, ok) ← contents "tac" paths
    for (_, bs) in all do
      putBytes "tac" (markedPieces mark (hasOption 'b' cs) bs).reverse.flatten
    return statusOf ok

/-- Writes every line backwards. -/
def rev (args : List Text) : Run Nat :=
  withFlags "rev" 1 [{ key := '0', name := "zero" }] args fun cs paths => do
    let isZero := hasOption '0' cs
    let ((), ok) ← filterLines "rev" isZero paths
      (fun _ line isEnded => ((), line.reverse ++ endMark isZero isEnded)) ()
    return statusOf ok

/-! To several places -/

def tee (args : List Text) : Run Nat := do
  let fs : List Flag := [
    { key := 'a', name := "append" }, { key := 'i', name := "ignore-interrupts" }, { key := 'p' },
    { key := 'O', name := "output-error", need := .optional, isLetter := false }]
  withFlags "tee" 1 fs args fun cs paths => do
    let how : Opening := if hasOption 'a' cs then .append else .truncate
    let opened ← paths.mapM fun p => do
      match ← openOutput p how true with
      | .ok i => return some i
      | .error e =>
        reportSource "tee" p e
        return none
    let targets := opened.filterMap id
    match ← descriptor? 0 with
    | none => return 1
    | some input =>
      targets.foldr keeping (feedAll input (fun _ bs => do
        let _ ← writeBytes 1 bs
        for i in targets do let _ ← writeStream i bs) ())
      return statusOf (opened.all (·.isSome))

/-! Numbered lines -/

/-- Which lines of a section are numbered. -/
inductive Numbered where
  | all
  | filled
  | none
  | matching (r : Regex)

inductive Justified where
  | left
  | right
  | zeros

/-- How lines are numbered: those of the head, the body and the foot of each page. -/
structure Numbering where
  head : Numbered := .none
  body : Numbered := .filled
  foot : Numbered := .none
  mark : Text := "\\:"
  increment : Int := 1
  joined : Nat := 1
  justified : Justified := .right
  restarts : Bool := true
  separator : Text := "\t"
  start : Int := 1
  width : Nat := 6

/-- The kind of lines that come next, their number, and how many empty lines have come one after another. -/
structure NumberingState where
  current : Numbered
  number : Int
  empties : Nat := 0

def Numbering.numberText (n : Numbering) (k : Int) : Text :=
  let t := Text.ofInt k
  match n.justified with
  | .left => Text.padEnd n.width t
  | .right => padLeft n.width t
  | .zeros =>
    let digits := Text.ofNat k.natAbs
    let sign : Text := if k < 0 then "-" else ""
    sign ++ List.replicate (n.width - sign.length - digits.length) (.char '0') ++ digits

def Numbering.step (n : Numbering) (s : NumberingState) (line : Text) (_ : Bool) : NumberingState × Text :=
  let marks (k : Nat) : Text := (List.replicate k n.mark).flatten
  let restarted (c : Numbered) : NumberingState :=
    { current := c, number := if n.restarts then n.start else s.number, empties := s.empties }
  let plain (s : NumberingState) : NumberingState × Text :=
    (s, Text.spaces (n.width + n.separator.length) ++ line ++ "\n")
  let counted (s : NumberingState) : NumberingState × Text :=
    ({ s with number := s.number + n.increment }, n.numberText s.number ++ n.separator ++ line ++ "\n")
  if !n.mark.isEmpty && line = marks 3 then (restarted n.head, "\n")
  else if !n.mark.isEmpty && line = marks 2 then (restarted n.body, "\n")
  else if !n.mark.isEmpty && line = marks 1 then (restarted n.foot, "\n")
  else match s.current with
    | .none => plain s
    | .filled => if line.isEmpty then plain s else counted s
    | .all =>
      if n.joined ≤ 1 then counted s
      else if !line.isEmpty || s.empties + 1 = n.joined then counted { s with empties := 0 }
      else plain { s with empties := s.empties + 1 }
    | .matching r => if Regex.isFound r {} line then counted s else plain s

def nl (args : List Text) : Run Nat := do
  let fs : List Flag := [
    { key := 'b', name := "body-numbering", need := .required },
    { key := 'd', name := "section-delimiter", need := .required },
    { key := 'f', name := "footer-numbering", need := .required },
    { key := 'h', name := "header-numbering", need := .required },
    { key := 'i', name := "line-increment", need := .required },
    { key := 'l', name := "join-blank-lines", need := .required },
    { key := 'n', name := "number-format", need := .required }, { key := 'p', name := "no-renumber" },
    { key := 's', name := "number-separator", need := .required },
    { key := 'v', name := "starting-line-number", need := .required },
    { key := 'w', name := "number-width", need := .required }]
  withFlags "nl" 1 fs args fun cs paths => do
    let style (c : Char) (what : Text) (standard : Numbered) : Run Numbered := do
      match optionValue? c cs with
      | none => return standard
      | some [.char 'a'] => return .all
      | some [.char 't'] => return .filled
      | some [.char 'n'] => return .none
      | some t =>
        match t with
        | .char 'p' :: re =>
          match Regex.read .basic (Glyph.ofText false re) with
          | .ok r => return .matching r
          | .error e => die "nl" 1 e.message
        | _ => misuse "nl" 1 ("invalid " ++ what ++ " numbering style: " ++ curved t)
    let integer (c : Char) (what : Text) (standard : Int) (least : Option Int) : Run Int := do
      match optionValue? c cs with
      | none => return standard
      | some t =>
        match integerOf? t with
        | some k => if least.all (· ≤ k) then return k else die "nl" 1 ("invalid " ++ what ++ ": " ++ curved t)
        | none => die "nl" 1 ("invalid " ++ what ++ ": " ++ curved t)
    let justified ← match optionValue? 'n' cs with
      | none => pure Justified.right
      | some t =>
        match t.toDisplayString with
        | "ln" => pure Justified.left
        | "rn" => pure Justified.right
        | "rz" => pure Justified.zeros
        | _ => misuse "nl" 1 ("invalid line number format: " ++ curved t)
    let mark : Text := match optionValue? 'd' cs with
      | none => "\\:"
      | some [s] => [s, .char ':']
      | some t => t
    let start ← integer 'v' "starting line number" 1 none
    let n : Numbering := {
      head := ← style 'h' "header" .none, body := ← style 'b' "body" .filled, foot := ← style 'f' "footer" .none
      mark, justified, start, restarts := !hasOption 'p' cs
      increment := ← integer 'i' "line number increment" 1 none
      joined := (← integer 'l' "line number of blank lines" 1 (some 1)).toNat
      separator := (optionValue? 's' cs).getD "\t"
      width := (← integer 'w' "line number field width" 6 (some 1)).toNat }
    let (_, ok) ← filterLines "nl" false paths n.step { current := n.body, number := start }
    return statusOf ok

end Tangle.Shell.Program
