import Tangle.Host.Shell.Program.Source
import Tangle.Host.Shell.Pattern

/-! # Translating bytes

A program that maps the bytes of one set to those of another, or takes them away, or keeps only one of several
equal ones that follow each other. -/
namespace Tangle.Shell.Program
open Run

/-- A part of a set: bytes in order, or one byte so often, or as often as there is room. -/
inductive SetPart where
  | bytes (bs : Bytes)
  | named (name : Text) (bs : Bytes)
  | repeated (b : UInt8) (count : Nat)
  | filling (b : UInt8)

/-- The bytes of a set with a mark on those that a backslash stood before. -/
def markedBytes (t : Text) : List (UInt8 × Bool) :=
  go (t.length + 1) t
where
  go : Nat → Text → List (UInt8 × Bool)
    | 0, _ => []
    | _, [] => []
    | n + 1, .char '\\' :: s :: t =>
      let one (b : UInt8) (t : Text) : List (UInt8 × Bool) := (b, true) :: go n t
      match s with
      | .char 'a' => one 7 t
      | .char 'b' => one 8 t
      | .char 'f' => one 12 t
      | .char 'n' => one 10 t
      | .char 'r' => one 13 t
      | .char 't' => one 9 t
      | .char 'v' => one 11 t
      | .char '\\' => one 92 t
      | .char c =>
        if '0' ≤ c && c ≤ '7' then
          let ds := ((s :: t).take 3).takeWhile fun d => d.isDigit && !d.isAnyOf "89"
          let value := ds.foldl (fun n d => n * 8 + (Escape.digitValue d).getD 0) 0
          if value < 256 then one value.toUInt8 ((s :: t).drop ds.length)
          else one (value / 8).toUInt8 ((s :: t).drop (ds.length - 1))
        else (s.encode.map fun b => (b, true)) ++ go n t
      | .byte b => one b t
      | .lone _ => go n t
    | n + 1, s :: t => (s.encode.map fun b => (b, false)) ++ go n t

def byteClass (name : Text) : Bytes :=
  ((List.range 128).map Nat.toUInt8).filter fun b => SetItem.classOf name (Char.ofNat b.toNat)

def classNames : List String := [
  "alnum", "alpha", "blank", "cntrl", "digit", "graph", "lower", "print", "punct", "space", "upper", "xdigit"]

/-- The bytes up to a closing mark of two. -/
def upToMark (mark : UInt8) : List (UInt8 × Bool) → Option (Bytes × List (UInt8 × Bool))
  | (a, false) :: (b, false) :: rest =>
    if a = mark && b = 93 then some ([], rest) else (upToMark mark ((b, false) :: rest)).map fun (x, r) => (a :: x, r)
  | (a, _) :: rest => (upToMark mark rest).map fun (x, r) => (a :: x, r)
  | [] => none

/-- The count of a repetition, which is octal behind a zero. -/
def repeatCount? (bs : Bytes) : Option (Option Nat) :=
  let t := Text.decode bs
  if t.isEmpty then some none
  else match t with
    | .char '0' :: ds =>
      if ds.all fun d => d.isDigit && !d.isAnyOf "89" then
        let n := ds.foldl (fun n d => n * 8 + (Escape.digitValue d).getD 0) 0
        some (if n = 0 then none else some n)
      else none
    | ds => (natural? ds).map fun n => if n = 0 then none else some n

def byteText (b : UInt8) : Text := if isPrintableSymbol (.char (Char.ofNat b.toNat)) && b < 128 then
  [.char (Char.ofNat b.toNat)] else octalByte b

def setParts : Nat → List (UInt8 × Bool) → Except Text (List SetPart)
  | 0, _ => .ok []
  | _, [] => .ok []
  | n + 1, (a, q) :: rest => do
    let single : Except Text (List SetPart) :=
      match rest with
      | (45, false) :: (b, _) :: more => do
        if b < a then
          .error ("range-endpoints of '" ++ byteText a ++ "-" ++ byteText b ++ "' are in reverse collating sequence order")
        else
          let range := (List.range (b.toNat + 1 - a.toNat)).map fun i => (a.toNat + i).toUInt8
          return .bytes range :: (← setParts n more)
      | _ => do return .bytes [a] :: (← setParts n rest)
    if a = 91 && !q then
      match rest with
      | (58, false) :: more =>
        match upToMark 58 more with
        | some (name, r) =>
          let name := Text.decode name
          if classNames.any fun c => name = (c : Text) then
            return .named name (byteClass name) :: (← setParts n r)
          else .error ("invalid character class " ++ curved name)
        | none => single
      | (61, false) :: more =>
        match upToMark 61 more with
        | some ([b], r) => return .bytes [b] :: (← setParts n r)
        | some (bs, _) => .error (Text.decode bs ++ ": equivalence class operand must be a single character")
        | none => single
      | (b, _) :: (42, false) :: more =>
        let digits := (more.takeWhile fun d => isDigitByte d.1).map (·.1)
        match more.drop digits.length with
        | (93, false) :: r =>
          match repeatCount? digits with
          | some none => return .filling b :: (← setParts n r)
          | some (some k) => return .repeated b k :: (← setParts n r)
          | none => .error ("invalid repeat count " ++ curved (Text.decode digits) ++ " in [c*n] construct")
        | _ => single
      | _ => single
    else single
where
  isDigitByte (b : UInt8) : Bool := 48 ≤ b && b ≤ 57

def SetPart.size : SetPart → Nat
  | bytes bs => bs.length
  | named _ bs => bs.length
  | repeated _ n => n
  | filling _ => 0

/-- The bytes of a set that has so much room. -/
def expandedSet (room : Nat) (ps : List SetPart) : Bytes :=
  let used := ps.foldl (fun n p => n + p.size) 0
  ps.flatMap fun
    | .bytes bs => bs
    | .named _ bs => bs
    | .repeated b n => List.replicate n b
    | .filling b => List.replicate (room - used) b

/-- Which bytes are taken away, what the others become, and which of them are not kept twice. -/
structure ByteMap where
  drops : Array Bool
  images : Array UInt8
  squeezes : Array Bool

def byteFlags (bs : Bytes) : Array Bool :=
  bs.foldl (fun (a : Array Bool) b => a.setIfInBounds b.toNat true) (Array.replicate 256 false)

def ByteMap.step (m : ByteMap) (before : Option UInt8) (b : UInt8) : Option UInt8 × Bytes :=
  if (m.drops[b.toNat]?).getD false then (before, [])
  else
    let c := (m.images[b.toNat]?).getD b
    if before = some c && (m.squeezes[c.toNat]?).getD false then (before, []) else (some c, [c])

def tr (args : List Text) : Run Nat := do
  let fs : List Flag := [
    { key := 'c', name := "complement" }, { key := 'C' }, { key := 'd', name := "delete" },
    { key := 's', name := "squeeze-repeats" }, { key := 't', name := "truncate-set1" }]
  withFlagsFirst "tr" 1 fs args fun cs sets => do
    let has (c : Char) : Bool := hasOption c cs
    let isComplement := has 'c' || has 'C'
    let isTranslating := !has 'd' && !(has 's' && sets.length = 1)
    match sets.getLast? with
    | none => misuse "tr" 1 "missing operand"
    | some t =>
      if sets.length < 2 && (isTranslating || (has 'd' && has 's')) then
        report "tr" ("missing operand after " ++ curved t)
        let _ ← write 2 ((if has 'd' then ("Two strings must be given when both deleting and squeezing repeats.\n" : Text)
          else ("Two strings must be given when translating.\n" : Text)) ++ "Try 'tr --help' for more information.\n")
        quit 1
    let most := if has 'd' && !has 's' then 1 else 2
    match sets[most]? with
    | none => pure ()
    | some t =>
      report "tr" ("extra operand " ++ curved t)
      let _ ← write 2 ((if most = 1 && sets.length = 2 then
        ("Only one string may be given when deleting without squeezing repeats.\n" : Text) else []) ++
        "Try 'tr --help' for more information.\n")
      quit 1
    let parts (i : Nat) : Run (List SetPart) := do
      let bs := markedBytes (sets.getD i [])
      match setParts (bs.length + 1) bs with
      | .ok ps => return ps
      | .error e => die "tr" 1 e
    let firstParts ← parts 0
    let secondParts ← parts 1
    let isFill : SetPart → Bool := fun p => match p with
      | .filling _ => true
      | _ => false
    if firstParts.any isFill then die "tr" 1 "the [c*] repeat construct may not appear in string1"
    if 1 < secondParts.countP isFill then die "tr" 1 "only one [c*] repeat construct may appear in string2"
    let first := expandedSet 0 firstParts
    let first := if isComplement then
        let flags := byteFlags first
        ((List.range 256).filter fun i => !(flags[i]?).getD false).map Nat.toUInt8
      else first
    let second := expandedSet first.length secondParts
    let isCase : SetPart → Bool := fun p => match p with
      | .named n _ => n = ("upper" : Text) || n = ("lower" : Text)
      | _ => true
    if isTranslating then
      if !secondParts.all isCase then
        die "tr" 1 "when translating, the only character classes that may appear in\nstring2 are 'upper' and 'lower'"
      if second.isEmpty && !has 't' && !first.isEmpty then
        die "tr" 1 "when not truncating set1, string2 must be non-empty"
    let last := second.getLastD 0
    let pairs := first.zipIdx.filterMap fun (b, i) =>
      match second[i]? with
      | some c => some (b, c)
      | none => if has 't' then none else some (b, last)
    let identity : Array UInt8 := ((List.range 256).map Nat.toUInt8).toArray
    let images := if isTranslating then
        pairs.foldl (fun (a : Array UInt8) (p : UInt8 × UInt8) => a.setIfInBounds p.1.toNat p.2) identity
      else identity
    let squeezed := if !has 's' then [] else if sets.length = 1 then first else second
    let m : ByteMap := { drops := byteFlags (if has 'd' then first else []), images, squeezes := byteFlags squeezed }
    match ← descriptor? 0 with
    | none => die "tr" 1 "read error: Bad file descriptor"
    | some i =>
      let _ ← feedAll i (fun before bs => do
        let (before, out) := bs.foldl (fun (acc : Option UInt8 × List Bytes) b =>
          let (before, bs) := m.step acc.1 b
          (before, bs :: acc.2)) (before, [])
        putBytes "tr" out.reverse.flatten
        return before) none
      return 0

end Tangle.Shell.Program
