import Tangle.Host.Shell.Program.Columns

/-! # Filling paragraphs

A paragraph is broken into lines so that the sum of the costs of all breaks is least. A line costs the more the
farther its length is from the goal and from that of the next line; a break is cheaper behind a sentence or a
punctuation mark, and dearer where it would part a word from its sentence. -/
namespace Tangle.Shell.Program
open Run

/-- A word of a paragraph with the number of blanks behind it. -/
structure FillWord where
  text : Bytes
  space : Nat := 1
  opensParen : Bool := false
  endsInMark : Bool := false
  endsInPeriod : Bool := false
  endsSentence : Bool := false

namespace FillWord

def isOpening (b : UInt8) : Bool := [40, 91, 39, 96, 34].contains b
def isClosing (b : UInt8) : Bool := [41, 93, 39, 34].contains b
def isPeriod (b : UInt8) : Bool := [46, 63, 33].contains b

/-- What the bytes of a word say about it. -/
def ofBytes (bs : Bytes) : FillWord :=
  let core := bs.reverse
  let inner := match core with
    | [] => []
    | _ => let trimmed := core.dropWhile isClosing; if trimmed.isEmpty then bs.take 1 else trimmed
  { text := bs
    opensParen := bs.head?.any isOpening
    endsInMark := core.head?.any fun b => isPrintableByte b && b ≠ 32 && !isLetterByte b && !isDigitByte b
    endsInPeriod := inner.head?.any isPeriod }

def length (w : FillWord) : Nat := w.text.length

end FillWord

/-- The widths that a paragraph is filled to. -/
structure Fill where
  width : Nat := 75
  goal : Nat := 70
  first : Nat := 0
  other : Nat := 0

def square (n : Int) : Int := n * n

/-- The best way to break the words from one on: its cost, where the next line begins, and the length of this
line. -/
structure FillBreak where
  cost : Int := 0
  next : Nat := 0
  length : Int := 0

/-- The cost of a line that begins with a word, whatever its length. -/
def beginningCost (ws : Array FillWord) (i : Nat) : Int :=
  let base : Int := 4900
  let word? (k : Nat) : Option FillWord := ws[k]?
  let cost := if i = 0 then base
    else match word? (i - 1) with
      | none => base
      | some before =>
        if before.endsInPeriod then (if before.endsSentence then base - 2500 else base + 360000)
        else if before.endsInMark then base - 1600
        else if 1 < i && (word? (i - 2)).any (·.endsSentence) then base + 40000 / (max 1 before.length : Nat)
        else base
  match word? i with
  | none => cost
  | some w =>
    if w.opensParen then cost - 1600
    else if w.endsSentence then cost + 22500 / (max 1 w.length : Nat)
    else cost

/-- The cost of a line of a length, before a next one. -/
def Fill.lineCost (f : Fill) (count : Nat) (breaks : Nat → FillBreak) (next : Nat) (length : Int) : Int :=
  if next = count then 0
  else
    let cost := square (((f.goal : Int) - length) * 10)
    let b := breaks next
    if b.next = count then cost else cost + square ((length - b.length) * 10) / 2

/-- The breaks from each word on, computed from the last word to the first. -/
def Fill.breaks (f : Fill) (ws : Array FillWord) : Array FillBreak :=
  let count := ws.size
  let start : Array FillBreak := Array.replicate (count + 1) {}
  (List.range count).reverse.foldl (fun (bs : Array FillBreak) i =>
    let at_ (k : Nat) : FillBreak := (bs[k]?).getD {}
    let indent := if i = 0 then f.first else f.other
    let wordLength (k : Nat) : Nat := ((ws[k]?).map FillWord.length).getD f.width
    let space (k : Nat) : Nat := ((ws[k]?).map (·.space)).getD 1
    let rec widen : Nat → Nat → Nat → Option FillBreak → Option FillBreak
      | 0, _, _, best => best
      | n + 1, k, length, best =>
        /- The line holds the words before `k`. -/
        let cost := f.lineCost count at_ k length + (at_ k).cost
        let better := match best with
          | none => true
          | some b => cost < b.cost
        let best := if better then some { cost, next := k, length } else best
        if k = count then best
        else
          let length := length + space (k - 1) + wordLength k
          if length < f.width then widen n (k + 1) length best else best
    match widen (count + 1) (i + 1) (indent + wordLength i) none with
    | some b => bs.setIfInBounds i { b with cost := b.cost + beginningCost ws i }
    | none => bs) start

/-- Blanks up to a column, written as tabs where the text had tabs. -/
def blanksTo (usesTabs : Bool) (column target : Nat) : Bytes :=
  let tabbed := target / 8 * 8
  if usesTabs && column + 1 < tabbed then
    List.replicate ((tabbed - column + 7) / 8) 9 ++ List.replicate (target - tabbed) 32
  else List.replicate (target - column) 32

/-- The lines of a filled paragraph. -/
def Fill.lines (f : Fill) (usesTabs : Bool) (ws : Array FillWord) : List Bytes :=
  go (ws.size + 1) (f.breaks ws) 0
where
  go : Nat → Array FillBreak → Nat → List Bytes
    | 0, _, _ => []
    | n + 1, bs, i =>
      if ws.size ≤ i then []
      else
        let next := max (i + 1) ((bs[i]?).map (·.next) |>.getD ws.size)
        let words := (List.range (next - i)).filterMap fun k => ws[i + k]?
        let line := (words.zipIdx.map fun (w, k) =>
          w.text ++ (if k + 1 = words.length then [] else List.replicate w.space 32)).flatten
        (blanksTo usesTabs 0 (if i = 0 then f.first else f.other) ++ line) :: go n bs next

/-! Paragraphs -/

/-- A line of the input: the column of its first word, and its words. -/
structure FillLine where
  indent : Nat
  words : List FillWord

/-- Splits a line at its blanks. The end of the line is taken for one blank, or two behind a sentence. -/
def fillWords (isUniform : Bool) : Nat → Bytes → Nat → List FillWord
  | 0, _, _ => []
  | n + 1, bs, column =>
    let text := bs.takeWhile fun b => !isBlankByte b
    if text.isEmpty then []
    else
      let rest := bs.drop text.length
      let blanks := rest.takeWhile isBlankByte
      let start := column + text.length
      let finish := blanks.foldl (fun c b => if b = 9 then c + 8 - c % 8 else c + 1) start
      let after := rest.drop blanks.length
      let w := FillWord.ofBytes text
      let endsSentence := w.endsInPeriod && (after.isEmpty || 1 < finish - start)
      let space := if after.isEmpty || isUniform then (if endsSentence then 2 else 1) else finish - start
      { w with space, endsSentence } :: fillWords isUniform n after finish

def fillLine (isUniform : Bool) (bs : Bytes) : FillLine :=
  let blanks := bs.takeWhile isBlankByte
  let indent := blanks.foldl (fun c b => if b = 9 then c + 8 - c % 8 else c + 1) 0
  ⟨indent, fillWords isUniform (bs.length + 1) (bs.drop blanks.length) indent⟩

/-- How lines are gathered into paragraphs. -/
inductive Gathering where
  | plain
  | crown
  | tagged
  | apart
deriving DecidableEq

structure Filler where
  width : Nat
  goal : Nat
  gathering : Gathering
  isUniform : Bool
  usesTabs : Bool

/-- Makes the last word of a paragraph the end of a sentence. -/
def withEnd (ws : List FillWord) : Array FillWord :=
  match ws.getLast? with
  | some w => (ws.dropLast ++ [{ w with endsInPeriod := true, endsSentence := true }]).toArray
  | none => #[]

/-- Fills the paragraphs of lines, each of which begins with its own indentation. -/
def Filler.paragraphs (f : Filler) : Nat → (tagIndent : Nat) → List FillLine → List Bytes
  | 0, _, _ => []
  | _, _, [] => []
  | n + 1, tagIndent, l :: rest =>
    if l.words.isEmpty then [] :: f.paragraphs n tagIndent rest
    else
      let first := l.indent
      let next := rest.head?.filter fun r => !r.words.isEmpty
      let other := match f.gathering with
        | .apart => first
        | .plain => first
        | .crown => (next.map (·.indent)).getD first
        | .tagged =>
          match next with
          | some r => if r.indent ≠ first then r.indent else if tagIndent = first then (if first = 0 then 3 else 0) else tagIndent
          | none => if tagIndent = first then (if first = 0 then 3 else 0) else tagIndent
      let joins : Bool := match f.gathering with
        | .apart => false
        | .plain => true
        | .crown => next.isSome
        | .tagged => next.any (·.indent ≠ first)
      let more := if joins then rest.takeWhile fun r => !r.words.isEmpty && r.indent = other else []
      let words := withEnd (l.words ++ more.flatMap (·.words))
      let fill : Fill := { width := f.width, goal := f.goal, first, other }
      fill.lines f.usesTabs words ++ f.paragraphs n other (rest.drop more.length)

def fmt (args : List Text) : Run Nat := do
  let fs : List Flag := [
    { key := 'c', name := "crown-margin" }, { key := 'g', name := "goal", need := .required },
    { key := 'p', name := "prefix", need := .required }, { key := 's', name := "split-only" },
    { key := 't', name := "tagged-paragraph" }, { key := 'u', name := "uniform-spacing" },
    { key := 'w', name := "width", need := .required }]
  let args := match args with
    | (.char '-' :: d :: ds) :: rest => if (d :: ds).all Symbol.isDigit then ("-w" ++ d :: ds) :: rest else args
    | _ => args
  withFlags "fmt" 1 fs args fun cs paths => do
    let number (c : Char) : Run (Option Nat) := do
      match optionValue? c cs with
      | none => return none
      | some t =>
        match natural? t with
        | some n => if 2500 < n then die "fmt" 1 ("invalid width: " ++ curved t ++ ": Numerical result out of range") else return some n
        | none => die "fmt" 1 ("invalid width: " ++ curved t)
    let goal ← number 'g'
    let width := match ← number 'w', goal with
      | some w, _ => w
      | none, some g => g + 10
      | none, none => 75
    let goal := goal.getD (width * 187 / 200)
    let gathering : Gathering := match (cs.reverse.find? fun c => "cst".contains c.1).map (·.1) with
      | some 'c' => .crown
      | some 's' => .apart
      | some _ => .tagged
      | none => .plain
    let isUniform := hasOption 'u' cs
    let (all, ok) ← contents "fmt" paths
    for (_, bs) in all do
      let lines := (recordsOf 10 bs).1
      let usesTabs := lines.any fun l => (l.takeWhile isBlankByte).contains 9
      let f : Filler := { width, goal, gathering, isUniform, usesTabs }
      let out := f.paragraphs (lines.length + 1) 0 (lines.map (fillLine isUniform))
      putBytes "fmt" (out.flatMap (· ++ [10]))
    return statusOf ok

end Tangle.Shell.Program
