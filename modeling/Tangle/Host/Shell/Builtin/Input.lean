import Tangle.Host.Shell.Builtin.Usage
import Tangle.Host.Shell.Field
import Tangle.Host.Shell.Subshell

/-! # Reading input

The commands `read` and `mapfile`. They take no more of their input than they use. -/
namespace Tangle.Shell.Builtin
open Run

/-- How much is read at once, and what is done about backslashes. -/
structure Intake where
  /-- The byte that ends what is read. -/
  delimiter : Option UInt8 := some 10
  isRaw : Bool := false
  limit : Option Nat := none
  /-- The moment at which waiting for input is given up. -/
  until? : Option Nat := none

/-- What has been read: runs of bytes, newest first, which a backslash stood before or not. -/
structure Taken where
  runs : List (Bool × List UInt8) := []
  /-- The number of characters. -/
  count : Nat := 0
  /-- The number of bytes that a character still lacks. -/
  lacking : Nat := 0
  isEscaped : Bool := false
  isEnded : Bool := false

namespace Taken

/-- The number of bytes that follow the first one of a character. -/
def followers (b : UInt8) : Nat :=
  if 0xC2 ≤ b && b ≤ 0xDF then 1 else if 0xE0 ≤ b && b ≤ 0xEF then 2 else if 0xF0 ≤ b && b ≤ 0xF4 then 3 else 0

def put (isQuoted : Bool) (b : UInt8) : List (Bool × List UInt8) → List (Bool × List UInt8)
  | (q, bs) :: runs => if q = isQuoted then (q, b :: bs) :: runs else (isQuoted, [b]) :: (q, bs) :: runs
  | [] => [(isQuoted, [b])]

/-- Takes a byte. -/
def add (i : Intake) (t : Taken) (b : UInt8) : Taken :=
  let lacking := if 0 < t.lacking && 0x80 ≤ b && b < 0xC0 then t.lacking - 1 else followers b
  let isTail := 0 < t.lacking && 0x80 ≤ b && b < 0xC0
  let isQuoted := if isTail then t.runs.head?.any (·.1) else t.isEscaped
  let count := if isTail then t.count else t.count + 1
  { runs := put isQuoted b t.runs, count, lacking
    isEnded := lacking = 0 && i.limit.any (· ≤ count) }

def step (i : Intake) (t : Taken) (b : UInt8) : Taken :=
  if t.isEscaped then if b = 10 then { t with isEscaped := false } else add i t b
  else if b = 0x5C && !i.isRaw then { t with isEscaped := true }
  else if some b = i.delimiter then { t with isEnded := true }
  else if b = 0 then t
  else add i t b

/-- Takes bytes up to the end of what is asked for, and counts them. -/
def steps (i : Intake) : Taken → Nat → Bytes → Taken × Nat
  | t, n, [] => (t, n)
  | t, n, b :: bs => if t.isEnded then (t, n) else steps i (step i t b) (n + 1) bs

def glyphs (t : Taken) : List Glyph :=
  t.runs.reverse.flatMap fun (q, bs) => Glyph.ofText q (Text.decode bs.reverse)

def text (t : Taken) : Text := Text.decode (t.runs.reverse.flatMap fun r => r.2.reverse)

end Taken

/-- Whether a moment has come. -/
def isPast (until? : Option Nat) : Run Bool := do
  let now := (← world).clock
  return until?.any (· ≤ now)

/-- Takes input from a stream. -/
def takeFrom (stream : Nat) (i : Intake) : Nat → Taken → Run Taken
  | 0, _ => throw .exhausted
  | n + 1, t => do
    awaitInput stream i.until?
    let bs ← contentOf stream
    if bs.isEmpty then return t
    let (t, count) := Taken.steps i t 0 bs
    advanceStream stream count
    if t.isEnded then return t else takeFrom stream i n t

def isSeparator (separators : Text) (g : Glyph) : Bool := !g.isQuoted && separators.contains g.symbol
def isBlankSeparator (separators : Text) (g : Glyph) : Bool := isSeparator separators g && g.symbol.isAnyOf " \t\n"

/-- The first word of a line, and what is left behind the separator after it. -/
def firstWord (separators : Text) (gs : List Glyph) : List Glyph × List Glyph :=
  let gs := gs.dropWhile (isBlankSeparator separators)
  let (word, rest) := gs.span (!isSeparator separators ·)
  let rest := rest.dropWhile (isBlankSeparator separators)
  match rest with
  | g :: r =>
    if isSeparator separators g then (word, r.dropWhile (isBlankSeparator separators)) else (word, rest)
  | [] => (word, [])

/-- The texts for a number of names: a word for each but the last, which gets all that is left. -/
def shares (separators : Text) : Nat → List Glyph → List Text
  | 0, _ => []
  | 1, gs =>
    let gs := gs.dropWhile (isBlankSeparator separators)
    let (word, rest) := firstWord separators gs
    if rest.isEmpty then [Glyph.text word]
    else [Glyph.text (gs.reverse.dropWhile (isBlankSeparator separators)).reverse]
  | n + 2, gs =>
    let (word, rest) := firstWord separators gs
    Glyph.text word :: shares separators (n + 1) rest

/-- All the words of a line. -/
def allWords (separators : Text) : Nat → List Glyph → List Text
  | 0, _ => []
  | n + 1, gs =>
    let gs := gs.dropWhile (isBlankSeparator separators)
    if gs.isEmpty then []
    else
      let (word, rest) := firstWord separators gs
      Glyph.text word :: allWords separators n rest

def separatorsOf : Run Text := do
  match (← binding? "IFS").bind Variable.plain? with
  | some t => return t
  | none => return " \t\n"

/-- Whether a stream can be read without waiting. -/
def isReady (i : Nat) : Run Bool := do
  match ← stream i with
  | .source pipe =>
    let w ← world
    return (w.pipe? pipe).all fun p => 0 < p.size || !w.hasWriter p
  | _ => return true

/-- A number of seconds, in microseconds. -/
def microseconds? (t : Text) : Option Nat :=
  let whole := t.takeWhile Symbol.isDigit
  let (part, isSound) : Text × Bool := match t.drop whole.length with
    | [] => ([], !whole.isEmpty)
    | .char '.' :: ds => (ds, ds.all Symbol.isDigit)
    | _ => ([], false)
  let part : Text := (part ++ "000000").take 6
  if isSound then some (naturalOf whole * 1000000 + naturalOf part) else none

def badNumber (t : Text) (what : Text) : Run Nat := fault "read" (t ++ ": " ++ what)

/-- Gives texts to names, one each. -/
def giveAll (names : List Text) (texts : List Text) : Run Nat := do
  for (name, i) in names.zipIdx do
    if !isName (splitIndex name).1 then
      return ← fault "read" ("\x60" ++ name ++ "': not a valid identifier")
    if !(← assignTo name (texts.getD i [])) then return 1
  return 0

/-- Gives what was read to the names, or to the list, that it is for. -/
def giveTaken (os : Chosen) (names : List Text) (t : Taken) : Run Nat := do
  let separators ← separatorsOf
  match optionValue? 'a' os with
  | some name =>
    let ws := allWords separators (t.glyphs.length + 1) t.glyphs
    let old := (← binding? name).getD {}
    if old.isReadonly then return ← fault "read" (name ++ ": readonly variable")
    if old.isTable then return ← fault "read" (name ++ ": not an indexed array")
    putVariable name { old with value := .list (ws.zipIdx.map fun (t, i) => (i, t)), isList := true }
    return 0
  | none =>
    if names.isEmpty then
      setText "REPLY" t.text
      return 0
    giveAll names (if hasOption 'N' os then [t.text] else shares separators names.length t.glyphs)

def signalOfAlarm : Nat := 142

def read (args : List Text) : Run Nat := withOptions "read" "rse" "adinNptu" args fun os names => do
  let fd ← match optionValue? 'u' os with
    | none => pure (some 0)
    | some t => pure ((integerOf? t).map Int.toNat)
  let count? (c : Char) : Option (Text × Option Int) := (optionValue? c os).map fun t => (t, integerOf? t)
  match count? 'n', count? 'N', (optionValue? 't' os).map fun t => (t, microseconds? t) with
  | some (t, none), _, _ => badNumber t "invalid number"
  | _, some (t, none), _ => badNumber t "invalid number"
  | _, _, some (t, none) => badNumber t "invalid timeout specification"
  | n, exact, timeout =>
    match fd with
    | none => badNumber ((optionValue? 'u' os).getD []) "invalid file descriptor specification"
    | some fd =>
      match ← descriptor? fd with
      | none => badNumber (Text.ofNat fd) "invalid file descriptor: Bad file descriptor"
      | some stream =>
        if let some name := names.head? then
          if !isName (splitIndex name).1 then
            return ← fault "read" ("\x60" ++ name ++ "': not a valid identifier")
        if timeout.any (·.2 = some 0) then return if ← isReady stream then 0 else 1
        let limit := ((exact.or n).bind (·.2)).map Int.toNat
        if limit = some 0 then return 0
        let delimiter : Option UInt8 := if exact.isSome then none
          else match optionValue? 'd' os with
            | some t => some (t.encode.headD 0)
            | none => some 10
        let now := (← world).clock
        let intake : Intake := {
          delimiter, isRaw := hasOption 'r' os, limit
          until? := (timeout.bind (·.2)).map (now + ·) }
        let t ← takeFrom stream intake greatestPieces {}
        let status ← giveTaken os names t
        if status ≠ 0 then return status
        if t.isEnded then return 0
        else return if ← isPast intake.until? then signalOfAlarm else 1

/-! Lists of lines -/

/-- Reads one line with the byte that ends it, if there is one. -/
def rawLine (stream : Nat) (delimiter : UInt8) : Nat → List Bytes → Run Bytes
  | 0, _ => throw .exhausted
  | n + 1, before => do
    awaitInput stream none
    let bs ← contentOf stream
    let line := bs.takeWhile (· ≠ delimiter)
    if line.length < bs.length then
      advanceStream stream (line.length + 1)
      return ((line ++ [delimiter]) :: before).reverse.flatten
    else
      advanceStream stream bs.length
      if bs.isEmpty then return before.reverse.flatten else rawLine stream delimiter n (bs :: before)

/-- What a call of `mapfile` asks for. -/
structure Mapping where
  name : Text
  delimiter : UInt8
  trims : Bool
  most : Nat
  skipped : Nat
  quantum : Nat
  callback : Option Text

section
variable (run : Command → Run Unit)

/-- Reads lines into a list, from an index on. -/
def mapLines (stream : Nat) (m : Mapping) : Nat → (index count : Nat) → Run Nat
  | 0, _, _ => throw .exhausted
  | n + 1, index, count => do
    if m.most ≠ 0 && m.most < count then return 0
    let line ← rawLine stream m.delimiter greatestPieces []
    if line.isEmpty then return 0
    let kept := line.takeWhile (· ≠ 0)
    let kept := if m.trims && kept.getLast? = some m.delimiter then kept.dropLast else kept
    let t := Text.decode kept
    match m.callback with
    | some c =>
      if count % m.quantum = 0 then runText run "mapfile" (c ++ " " ++ Text.ofNat index ++ " " ++ apostrophed t)
    | none => pure ()
    let old := (← binding? m.name).getD {}
    if old.isReadonly then return 1
    putVariable m.name (old.setElement index (old.recased t))
    mapLines stream m n (index + 1) (count + 1)

def mapfile (command : Text) (args : List Text) : Run Nat :=
  withOptions command "t" "cCdnOsu" args fun os names => do
    let number (c : Char) (default : Nat) : Except Text Nat :=
      match optionValue? c os with
      | none => .ok default
      | some t =>
        match integerOf? t with
        | some n => if n < 0 || (n = 0 && c = 'c') then .error t else .ok n.toNat
        | none => .error t
    let name := names.headD "MAPFILE"
    match number 'u' 0, number 'n' 0, number 's' 0, number 'O' 0, number 'c' 5000 with
    | .error t, _, _, _, _ => fault command (t ++ ": invalid file descriptor specification")
    | _, .error t, _, _, _ => fault command (t ++ ": invalid line count")
    | _, _, .error t, _, _ => fault command (t ++ ": invalid line count")
    | _, _, _, .error t, _ => fault command (t ++ ": invalid array origin")
    | _, _, _, _, .error t => fault command (t ++ ": invalid callback quantum")
    | .ok fd, .ok most, .ok skipped, .ok origin, .ok quantum =>
      if !isName name then return ← fault command ("\x60" ++ name ++ "': not a valid identifier")
      match ← descriptor? fd with
      | none => fault command (Text.ofNat fd ++ ": invalid file descriptor: Bad file descriptor")
      | some stream =>
        let name ← resolved name
        let old := (← binding? name).getD {}
        if old.isReadonly then return ← fault command (name ++ ": readonly variable")
        if old.isTable then return ← fault command (name ++ ": not an indexed array")
        let start := if hasOption 'O' os then old.listElements else []
        putVariable name { old with value := .list start, isList := true }
        let delimiter : UInt8 := match optionValue? 'd' os with
          | some t => t.encode.headD 0
          | none => 10
        for _ in List.range skipped do let _ ← rawLine stream delimiter greatestPieces []
        mapLines run stream {
          name, delimiter, trims := hasOption 't' os, most, skipped, quantum
          callback := optionValue? 'C' os } greatestPieces origin 1

end

end Tangle.Shell.Builtin
