import Tangle.Host.Shell.Program.Script
import Tangle.Host.Shell.Program.Copying

/-! # Editing

The program that carries out a script of edits on every line that it reads. It reads one line ahead, so that
it knows which is the last. -/
namespace Tangle.Shell.Program
open Run Script

/-! What is read -/

structure Record where
  text : Text
  isEnded : Bool
  /-- The name of the file that it is from. -/
  source : Text

/-- The files that are still to be read, the one that is open, and what has been read of it. -/
structure Feed where
  paths : List Text
  source : Option (Text × Nat) := none
  ready : List Record := []
  remainder : Bytes := []
  mark : UInt8 := 10
  hasFailed : Bool := false

def holdStream (i : Nat) : Run Unit := modifyProcess fun p => { p with aside := i :: p.aside }
def releaseStream (i : Nat) : Run Unit := modifyProcess fun p => { p with aside := p.aside.erase i }

/-- Reads on until a record is there, or nothing is left. -/
def Feed.fill : Nat → Feed → Run Feed
  | 0, _ => throw .exhausted
  | n + 1, f => do
    if !f.ready.isEmpty then return f
    match f.source with
    | some (name, i) =>
      let bs := (← chunkOf i).take 4096
      if bs.isEmpty then
        releaseStream i
        let f := { f with source := none }
        if f.remainder.isEmpty then Feed.fill n f
        else return { f with ready := [⟨Text.decode f.remainder, false, name⟩], remainder := [] }
      else
        advanceStream i bs.length
        let (records, remainder) := splitRecords f.mark (if f.remainder.isEmpty then bs else f.remainder ++ bs)
        Feed.fill n { f with ready := records.map fun r => ⟨Text.decode r, true, name⟩, remainder }
    | none =>
      match f.paths with
      | [] => return f
      | p :: rest =>
        match ← openSource p with
        | .ok i =>
          holdStream i
          Feed.fill n { f with source := some (p, i), paths := rest }
        | .error .isDirectory =>
          report "sed" ("couldn't edit " ++ p ++ ": not a regular file")
          Feed.fill n { f with paths := rest, hasFailed := true }
        | .error e =>
          report "sed" ("can't read " ++ p ++ ": " ++ e.reason)
          Feed.fill n { f with paths := rest, hasFailed := true }

/-- Leaves a file that is being read where the lines begin that have not been used. -/
def Feed.putBack (f : Feed) : Run Unit := do
  match f.source with
  | some (_, i) =>
    let lengths := f.ready.map fun r => r.text.encode.length + (if r.isEnded then 1 else 0)
    unread i (lengths.foldl (· + ·) 0 + f.remainder.length)
  | none => pure ()

/-! The state of an editor -/

/-- What follows the line at hand. -/
inductive Addition where
  | text (t : Text)
  | file (path : Text)

/-- Where a range of lines stands: it may go on up to a line, or to a match. -/
inductive RangeState where
  | inactive
  | active (last : Option Nat)
  | closed

/-- A file that lines are written to. -/
structure Outlet where
  path : Text
  stream : Nat
  owesEnd : Bool := false

structure Editor where
  feed : Feed
  space : Text := []
  isEnded : Bool := true
  held : Text := []
  number : Nat := 0
  source : Text := "-"
  /-- What follows the line at hand, newest first. -/
  additions : List Addition := []
  ranges : List (Nat × RangeState) := []
  isReplaced : Bool := false
  lastUsed : Option Script.Expression := none
  /-- What has been written and not passed on, newest first. -/
  out : List Bytes := []
  owesEnd : Bool := false
  outlets : List Outlet := []
  readers : List (Text × List Record) := []

/-- What holds for a whole run. -/
structure Manner where
  steps : Array Step
  ends : List (Nat × Nat)
  labels : List (Text × Nat)
  isQuiet : Bool := false
  isZero : Bool := false
  /-- The width at which lines are folded that are shown unambiguously. -/
  width : Nat := 70
  /-- Whether what is written is to be the content of a file in the end. -/
  keepsOutput : Bool := false
  /-- Runs a command, and gives what it writes. -/
  evaluate : Text → Run Bytes

abbrev Edit := StateT Editor Run

def Manner.mark (m : Manner) : Text := if m.isZero then [Symbol.nul] else [Symbol.newline]

/-- Writes to the output, where an end of line may still be owed. -/
def emit (m : Manner) (bs : Bytes) : Edit Unit := modify fun e =>
  { e with out := bs :: (if e.owesEnd then m.mark.encode :: e.out else e.out), owesEnd := false }

def emitLine (m : Manner) (t : Text) (isEnded : Bool) : Edit Unit := do
  emit m (Text.encode (t ++ (if isEnded then m.mark else [])))
  modify fun e => { e with owesEnd := !isEnded }

/-- Writes a line to a file. -/
def emitTo (m : Manner) (path t : Text) (isEnded : Bool) : Edit Unit := do
  if path = ("/dev/stdout" : Text) then emitLine m t isEnded
  else
    match (← get).outlets.find? (·.path = path) with
    | none => pure ()
    | some o =>
      let head := if o.owesEnd then m.mark else []
      let _ ← (writeStream o.stream (Text.encode (head ++ t ++ (if isEnded then m.mark else []))) : Run Bool)
      modify fun e => { e with
        outlets := e.outlets.map fun p => if p.path = path then { p with owesEnd := !isEnded } else p }

/-- Passes on what has been written. -/
def flush : Edit Unit := do
  let out := (← get).out
  if !out.isEmpty then
    modify fun e => { e with out := [] }
    (putBytes "sed" out.reverse.flatten : Run Unit)

/-- Writes what follows the line at hand. -/
def flushAdditions (m : Manner) : Edit Unit := do
  for a in (← get).additions.reverse do
    match a with
    | .text t => emit m t.encode
    | .file path =>
      match ← (openSource (if path = ("/dev/stdin" : Text) then "-" else path) : Run _) with
      | .ok i =>
        let bs ← (keeping i (drain i) : Run Bytes)
        if !bs.isEmpty then emit m bs
      | .error _ => pure ()
  modify fun e => { e with additions := [] }

def fillFeed : Edit Unit := do
  let f ← ((← get).feed.fill greatestPieces : Run Feed)
  modify fun e => { e with feed := f }

/-- Whether the line at hand is the last. -/
def isAtLast : Edit Bool := do
  fillFeed
  return (← get).feed.ready.isEmpty

/-- The next line. -/
def takeRecord? : Edit (Option Record) := do
  fillFeed
  let e ← get
  match e.feed.ready with
  | [] => return none
  | r :: rest =>
    set { e with feed := { e.feed with ready := rest }, number := e.number + 1, isEnded := r.isEnded, source := r.source }
    return some r

/-! Which lines a step applies to -/

/-- The expression that is meant, which is the last one from now on. -/
def used (x : Script.Expression) : Edit (Regex × Regex.Rules) := do
  let x ← match x.regex? with
    | some _ => do
      modify fun e => { e with lastUsed := some x }
      pure x
    | none => do
      match (← get).lastUsed with
      | some y => pure y
      | none => (die "sed" 1 "no previous regular expression" : Run _)
  return (x.regex?.getD (.group none []), x.rules)

def holdsHere (a : Address) : Edit Bool := do
  let n := (← get).number
  match a with
  | .line k => return n = k
  | .last => isAtLast
  | .every first step => return first ≤ n && (n - first) % step = 0
  | .matching x =>
    let (r, rules) ← used x
    return Regex.isFound r rules (← get).space
  | .further _ => return true
  | .multiple k => return k = 0 || n % k = 0

def setRange (i : Nat) (r : RangeState) : Edit Unit :=
  modify fun e => { e with ranges := (i, r) :: e.ranges.filter (·.1 ≠ i) }

/-- The line at which a range ends that begins here, if that is known. -/
def rangeEnd? (n : Nat) : Address → Option Nat
  | .line k => some k
  | .further k => some (n + k)
  | .multiple k => some (if k = 0 then n else (n + k - 1) / k * k)
  | _ => none

/-- Whether a range that begins with a line, rather than a match, is over for good. -/
def endsForGood : Address → Bool
  | .line _ => true
  | _ => false

/-- Whether a step applies to the line at hand. -/
def selects (i : Nat) (s : Step) : Edit Bool := do
  match s.first, s.second with
  | none, _ => return true
  | some a, none => holdsHere a
  | some a, some b =>
    let n := (← get).number
    let start : Edit Bool := do
      if !(← holdsHere a) then return false
      match rangeEnd? n b with
      | some last =>
        if last ≤ n then setRange i (if endsForGood a then .closed else .inactive) else setRange i (.active (some last))
      | none => setRange i (.active none)
      return true
    let stop : RangeState := if endsForGood a then .closed else .inactive
    match ((← get).ranges.lookup i).getD (match a with
      | .line 0 => .active none
      | _ => .inactive) with
    | .closed => return false
    | .inactive => start
    | .active (some last) =>
      if n < last then return true
      setRange i stop
      if n = last then return true else start
    | .active none =>
      if ← holdsHere b then setRange i stop
      return true

/-- Whether the range of a step goes on behind the line at hand. -/
def isInRange (i : Nat) : Edit Bool := do
  match (← get).ranges.lookup i with
  | some (.active _) => return true
  | _ => return false

/-! Substitution -/

/-- Letter cases that a replacement asks for. -/
structure Recasing where
  next : Option Bool := none
  all : Option Bool := none

def Recasing.changed (r : Recasing) (c : Recase) : Recasing :=
  match c with
  | .upper => { r with all := some true }
  | .lower => { r with all := some false }
  | .off => {}
  | .nextUpper => { r with next := some true }
  | .nextLower => { r with next := some false }

def recased (r : Recasing) (t : Text) : Text :=
  let change (isUpper : Bool) (s : Symbol) : Symbol := if isUpper then s.toUpper else s.toLower
  let whole (s : Symbol) : Symbol := match r.all with
    | some isUpper => change isUpper s
    | none => s
  match t with
  | [] => []
  | s :: rest =>
    (match r.next with
      | some isUpper => change isUpper s
      | none => whole s) :: rest.map whole

/-- A replacement filled in with what has matched. -/
def filledIn (m : Regex.Match) (whole : Text) : Recasing → List Script.Part → Text
  | _, [] => []
  | r, .recase c :: ps => filledIn m whole (r.changed c) ps
  | r, .literal s :: ps => recased r [s] ++ filledIn m whole { r with next := none } ps
  | r, .group k :: ps =>
    let t := (m.group? whole k).getD []
    recased r t ++ filledIn m whole (if t.isEmpty then r else { r with next := none }) ps

/-- A text with matches replaced, if there are any that are to be. An empty match right behind another match
does not count. -/
def substituted (s : Substitution) (r : Regex) (rules : Regex.Rules) (whole : Text) : Option Text :=
  go (2 * whole.length + 3) 0 1 none [] false
where
  go : Nat → (from_ count : Nat) → (lastEnd : Option Nat) → (done : List Text) → (isChanged : Bool) → Option Text
    | 0, from_, _, _, done, isChanged => finish from_ done isChanged
    | n + 1, from_, count, lastEnd, done, isChanged =>
      match Regex.find r rules whole from_ with
      | none => finish from_ done isChanged
      | some m =>
        let before := (whole.drop from_).take (m.first - from_)
        let here := (whole.drop m.last).take 1
        if m.first = m.last && lastEnd = some m.first then
          if whole.length ≤ m.first then finish from_ done isChanged
          else go n (m.last + 1) count none (here :: before :: done) isChanged
        else
          let isDue := if s.isGlobal then s.number ≤ count else count = s.number
          let shown := if isDue then filledIn m whole {} s.parts else m.text whole
          let done := shown :: before :: done
          let isChanged := isChanged || isDue
          if isDue && !s.isGlobal then finish m.last done isChanged
          else if m.first ≠ m.last then go n m.last (count + 1) (some m.last) done isChanged
          else if whole.length ≤ m.last then finish m.last done isChanged
          else go n (m.last + 1) (count + 1) none (here :: done) isChanged
  finish (from_ : Nat) (done : List Text) (isChanged : Bool) : Option Text :=
    if isChanged then some (((whole.drop from_) :: done).reverse.flatten) else none

/-! What is done -/

/-- A text in an unambiguous form, folded at a width. -/
def unambiguous (width : Nat) (t : Text) : Text :=
  let show_ (b : UInt8) : Text :=
    let n := b.toNat
    if n = 92 then ("\\\\" : Text)
    else if n = 7 then "\\a" else if n = 8 then "\\b" else if n = 12 then "\\f" else if n = 10 then "\\n"
    else if n = 13 then "\\r" else if n = 9 then "\\t" else if n = 11 then "\\v"
    else if 32 ≤ n && n < 127 then ([.char (Char.ofNat n)] : Text)
    else
      let ds := Text.ofChars (Nat.toDigits 8 n)
      ("\\" : Text) ++ List.replicate (3 - ds.length) (.char '0') ++ ds
  let limit := width - 1
  let (out, _) := t.encode.foldl (fun (acc : List Text × Nat) b =>
    let s := show_ b
    if 1 < width && limit < acc.2 + s.length then (s :: "\\\n" :: acc.1, s.length)
    else (s :: acc.1, acc.2 + s.length)) ([], 0)
  out.reverse.flatten ++ "$"

/-- How the steps for a line have ended. -/
inductive Outcome where
  | done
  | dropped
  /-- The steps are done again with what is left. -/
  | again
  | stopped (status : Nat) (isQuiet : Bool)

/-- Without a newline at its end. -/
def withoutEndMark (t : Text) : Text := if t.endsInNewline then t.dropLast else t

/-- Carries out an edit. Gives the number of the step to go on with, or the end of the steps. -/
def perform (m : Manner) (i : Nat) (s : Step) : Edit (Nat ⊕ Outcome) := do
  let onward : Nat ⊕ Outcome := .inl (i + 1)
  let e ← get
  let firstLine : Text := e.space.takeWhile (· ≠ Symbol.newline)
  match s.action with
  | .nothing => return onward
  | .openBlock => return onward
  | .closeBlock => return onward
  | .label _ => return onward
  | .jump j t =>
    let isTaken := match j with
      | .always => true
      | .ifReplaced => e.isReplaced
      | .unlessReplaced => !e.isReplaced
    if j ≠ .always then modify fun e => { e with isReplaced := false }
    if !isTaken then return onward
    return .inl (if t.isEmpty then m.steps.size else (m.labels.lookup t).getD m.steps.size)
  | .substitute sub =>
    let (r, rules) ← used sub.expression
    match substituted sub r rules e.space with
    | none => return onward
    | some t =>
      modify fun e => { e with space := t, isReplaced := true }
      if sub.evaluates then
        let bs ← (m.evaluate t : Run Bytes)
        modify fun e => { e with space := withoutEndMark (Text.decode bs) }
      let t := (← get).space
      if sub.prints then emitLine m t e.isEnded
      match sub.file with
      | some path => emitTo m path t e.isEnded
      | none => pure ()
      return onward
  | .transliterate a b =>
    modify fun e => { e with space := e.space.map fun s => ((a.zip b).lookup s).getD s }
    return onward
  | .append t =>
    modify fun e => { e with additions := .text t :: e.additions }
    return onward
  | .insert t =>
    emit m t.encode
    return onward
  | .change t =>
    if s.isNegated || !(← isInRange i) then emit m t.encode
    return .inr .dropped
  | .delete => return .inr .dropped
  | .deleteFirst =>
    if firstLine.length < e.space.length then
      set { e with space := e.space.drop (firstLine.length + 1) }
      return .inr .again
    return .inr .dropped
  | .evaluate command =>
    if command.isEmpty then
      let bs ← (m.evaluate e.space : Run Bytes)
      modify fun e => { e with space := withoutEndMark (Text.decode bs) }
    else
      let bs ← (m.evaluate command : Run Bytes)
      if !bs.isEmpty then emit m bs
    return onward
  | .fileName =>
    emitLine m e.source true
    return onward
  | .fetch appends =>
    set { e with space := if appends then e.space ++ m.mark ++ e.held else e.held }
    return onward
  | .hold appends =>
    set { e with held := if appends then e.held ++ m.mark ++ e.space else e.space }
    return onward
  | .exchange =>
    set { e with space := e.held, held := e.space }
    return onward
  | .list width =>
    emitLine m (unambiguous (width.getD m.width) e.space) true
    return onward
  | .lineNumber =>
    emit m ((Text.ofNat e.number ++ "\n").encode)
    return onward
  | .next =>
    if ← isAtLast then return .inr .done
    if !m.isQuiet then emitLine m e.space e.isEnded
    flushAdditions m
    match ← takeRecord? with
    | some r =>
      modify fun e => { e with space := r.text }
      return onward
    | none => return .inr .done
  | .nextAppended =>
    if ← isAtLast then return .inr .done
    flushAdditions m
    match ← takeRecord? with
    | some r =>
      modify fun f => { f with space := e.space ++ m.mark ++ r.text }
      return onward
    | none => return .inr .done
  | .print =>
    emitLine m e.space e.isEnded
    return onward
  | .printFirst =>
    emitLine m firstLine (firstLine.length < e.space.length || e.isEnded)
    return onward
  | .quit status isQuiet => return .inr (.stopped status isQuiet)
  | .readFile path =>
    modify fun e => { e with additions := .file path :: e.additions }
    return onward
  | .readLine path =>
    let records ← match e.readers.lookup path with
      | some rs => pure rs
      | none => do
        match ← (openSource (if path = ("/dev/stdin" : Text) then "-" else path) : Run _) with
        | .error _ => pure []
        | .ok i =>
          let (records, isEnded) := recordsOf e.feed.mark (← (keeping i (drain i) : Run Bytes))
          pure (records.zipIdx.map fun (r, k) => ⟨Text.decode r, isEnded || k + 1 < records.length, path⟩)
    modify fun e => { e with
      readers := (path, records.drop 1) :: e.readers.filter (·.1 ≠ path)
      additions := match records with
        | r :: _ => .text (r.text ++ (if r.isEnded then m.mark else [])) :: e.additions
        | [] => e.additions }
    return onward
  | .writeSpace path =>
    emitTo m path e.space e.isEnded
    return onward
  | .writeFirst path =>
    emitTo m path firstLine (firstLine.length < e.space.length || e.isEnded)
    return onward
  | .clear =>
    set { e with space := [] }
    return onward

/-- The number of steps that are taken for one line. -/
def greatestSteps : Nat := 100000000

/-- Carries out the steps from one on. -/
def performFrom (m : Manner) : Nat → (i : Nat) → Edit Outcome
  | 0, _ => (throw .exhausted : Run _)
  | n + 1, i => do
    match m.steps[i]? with
    | none => return .done
    | some s =>
      if (← selects i s) = s.isNegated then
        match s.action with
        | .openBlock => performFrom m n ((m.ends.lookup i).getD m.steps.size)
        | _ => performFrom m n (i + 1)
      else
        match ← perform m i s with
        | .inl k => performFrom m n k
        | .inr o => return o

/-- Edits line after line; gives the status to end with if that is asked for. -/
def editLines (m : Manner) : Nat → (keepsSpace : Bool) → Edit (Option Nat)
  | 0, _ => (throw .exhausted : Run _)
  | n + 1, keepsSpace => do
    if !keepsSpace then
      match ← takeRecord? with
      | none => return none
      | some r => modify fun e => { e with space := r.text, isReplaced := false }
    let finish (isShown : Bool) : Edit Unit := do
      let e ← get
      if isShown && !m.isQuiet then emitLine m e.space e.isEnded
      flushAdditions m
      if !m.keepsOutput then flush
    match ← performFrom m greatestSteps 0 with
    | .done =>
      finish true
      editLines m n false
    | .dropped =>
      finish false
      editLines m n false
    | .again =>
      finish false
      editLines m n true
    | .stopped status isQuiet =>
      if !isQuiet then finish true
      return some status

end Tangle.Shell.Program
