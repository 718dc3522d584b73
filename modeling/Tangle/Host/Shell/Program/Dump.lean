import Tangle.Host.Shell.Program.Encoding

/-! # Dumps

The program that shows bytes as numbers or characters, a block of them in each line behind its address. -/
namespace Tangle.Shell.Program
open Run

/-- How the bytes of a datum are shown. -/
inductive Showing where
  | name
  | character
  | signed
  | unsigned
  | octal
  | hexadecimal
deriving DecidableEq

structure Datum where
  showing : Showing
  size : Nat
  /-- Whether the characters are shown behind each block. -/
  hasTrailer : Bool := false

/-- The number of digits that numbers of so many bytes have in a base. -/
def digitsFor (base bytes : Nat) : Nat := (Nat.toDigits base (256 ^ bytes - 1)).length

def Datum.width (d : Datum) : Nat :=
  match d.showing with
  | .name => 3
  | .character => 3
  | .signed => (Nat.toDigits 10 (256 ^ d.size / 2)).length + 1
  | .unsigned => digitsFor 10 d.size
  | .octal => digitsFor 8 d.size
  | .hexadecimal => 2 * d.size

def controlNames : List String := [
  "nul", "soh", "stx", "etx", "eot", "enq", "ack", "bel", "bs", "ht", "nl", "vt", "ff", "cr", "so", "si", "dle",
  "dc1", "dc2", "dc3", "dc4", "nak", "syn", "etb", "can", "em", "sub", "esc", "fs", "gs", "rs", "us", "sp"]

/-- A number with zeros before it. -/
def digitsIn (base width n : Nat) : Text :=
  let ds := Nat.toDigits base n
  Text.ofChars (List.replicate (width - ds.length) '0' ++ ds)

def Datum.text (d : Datum) (bs : Bytes) : Text :=
  let n := bs.foldr (fun b n => n * 256 + b.toNat) 0
  match d.showing with
  | .name =>
    let k := n % 128
    if k = 127 then "del" else if k ≤ 32 then controlNames.getD k "" else ([.char (Char.ofNat k)] : Text)
  | .character =>
    if n = 0 then "\\0" else if n = 7 then "\\a" else if n = 8 then "\\b" else if n = 12 then "\\f"
    else if n = 10 then "\\n" else if n = 13 then "\\r" else if n = 9 then "\\t" else if n = 11 then "\\v"
    else if 32 ≤ n && n < 127 then ([.char (Char.ofNat n)] : Text) else digitsIn 8 3 n
  | .signed =>
    let half := 256 ^ d.size / 2
    Text.ofInt (if n < half then (n : Int) else (n : Int) - 256 ^ d.size)
  | .unsigned => Text.ofNat n
  | .octal => digitsIn 8 d.width n
  | .hexadecimal => digitsIn 16 d.width n

structure DumpForm where
  data : List Datum
  /-- The base of addresses. -/
  addressBase : Option Nat := some 8
  block : Nat := 16
  isVerbose : Bool := false
  isBigEndian : Bool := false

def DumpForm.address (f : DumpForm) (n : Nat) : Text :=
  match f.addressBase with
  | none => []
  | some base => digitsIn base (if base = 16 then 6 else 7) n

/-- The width that a block takes in the widest form. -/
def DumpForm.blockWidth (f : DumpForm) : Nat :=
  (f.data.map fun d => (d.width + 1) * (f.block / d.size)).foldl max 0

/-- A block in one form. What is missing of the last datum is taken as zero. -/
def DumpForm.fields (f : DumpForm) (d : Datum) (bs : Bytes) : Text :=
  let count := f.block / d.size
  let pad := f.blockWidth - d.width * count
  let blank := (f.block - bs.length) / d.size
  let shown := (List.range (count - blank)).flatMap fun k =>
    let i := count - k
    let data := (bs.drop (k * d.size)).take d.size
    let data := data ++ List.replicate (d.size - data.length) 0
    let data := if f.isBigEndian then data.reverse else data
    padLeft (pad * i / count - pad * (i - 1) / count + d.width) (d.text data)
  if !d.hasTrailer then shown
  else
    let cs := bs.map fun b => if 32 ≤ b && b < 127 then Char.ofNat b.toNat else '.'
    shown ++ Text.spaces (blank * d.width + pad * blank / count) ++ "  >" ++ Text.ofChars cs ++ "<"

def DumpForm.lines (f : DumpForm) (offset : Nat) (bs : Bytes) : Text :=
  f.data.zipIdx.flatMap fun (d, i) =>
    (if i = 0 then f.address offset else Text.spaces (f.address 0).length) ++ f.fields d bs ++ "\n"

/-- The blocks of bytes in lines. A block that is equal to the one before is left out, with a mark for the first
of them. -/
def DumpForm.dump (f : DumpForm) (offset : Nat) (bs : Bytes) : Text :=
  let blocks := piecesOf f.block (bs.length + 1) bs
  let (out, _) := blocks.foldl (fun (acc : List Text × Nat × Bytes × Bool) b =>
    let (out, at_, before, isMarked) := acc
    if !f.isVerbose && b = before && b.length = f.block then
      (if isMarked then out else "*\n" :: out, at_ + b.length, before, true)
    else (f.lines at_ b :: out, at_ + b.length, b, false)) ([], offset, [], false)
  let last : Text := match f.addressBase with
    | none => []
    | some _ => f.address (offset + bs.length) ++ "\n"
  out.reverse.flatten ++ last

/-! Arguments -/

/-- The forms that a text such as `x1z` or `o2c` tells. -/
def dataOf : Nat → Text → Option (List Datum)
  | 0, _ => none
  | _, [] => some []
  | n + 1, s :: t =>
    let trailer (t : Text) : Bool × Text := match t with
      | .char 'z' :: r => (true, r)
      | r => (false, r)
    let single (showing : Showing) : Option (List Datum) :=
      let (hasTrailer, r) := trailer t
      (dataOf n r).map ({ showing, size := 1, hasTrailer } :: ·)
    let sized (showing : Showing) : Option (List Datum) :=
      let ds := t.takeWhile Symbol.isDigit
      let (size, r) : Nat × Text := match t with
        | .char 'C' :: r => (1, r)
        | .char 'S' :: r => (2, r)
        | .char 'I' :: r => (4, r)
        | .char 'L' :: r => (8, r)
        | r => if ds.isEmpty then (4, r) else (naturalOf ds, r.drop ds.length)
      let (hasTrailer, r) := trailer r
      if [1, 2, 4, 8].contains size then (dataOf n r).map ({ showing, size, hasTrailer } :: ·) else none
    match s with
    | .char 'a' => single .name
    | .char 'c' => single .character
    | .char 'd' => sized .signed
    | .char 'u' => sized .unsigned
    | .char 'o' => sized .octal
    | .char 'x' => sized .hexadecimal
    | _ => none

/-- The forms that letters of their own stand for. -/
def shortForms : List (Char × String) := [
  ('a', "a"), ('b', "o1"), ('c', "c"), ('d', "u2"), ('D', "u4"), ('h', "x2"), ('H', "x4"), ('i', "dI"), ('I', "dL"),
  ('l', "dL"), ('L', "dL"), ('o', "o2"), ('O', "o4"), ('s', "d2"), ('x', "x2"), ('X', "x4"), ('B', "o2")]

/-- A number of bytes, which may be written in base 8 or 16. -/
def byteCount? (t : Text) : Option Nat :=
  match t with
  | .char '0' :: .char 'x' :: ds =>
    if !ds.isEmpty && ds.all (fun s => (Escape.digitValue s).isSome) then
      some (ds.foldl (fun n s => n * 16 + (Escape.digitValue s).getD 0) 0)
    else none
  | .char '0' :: ds =>
    if ds.all (·.isAnyOf "01234567") then some (ds.foldl (fun n s => n * 8 + (Escape.digitValue s).getD 0) 0)
    else sized? t
  | t => sized? t

def leastCommon (ns : List Nat) : Nat := ns.foldl Nat.lcm 1

def od (args : List Text) : Run Nat := do
  let fs : List Flag := [
    { key := 'A', name := "address-radix", need := .required },
    { key := 'j', name := "skip-bytes", need := .required }, { key := 'N', name := "read-bytes", need := .required },
    { key := 't', name := "format", need := .required }, { key := 'v', name := "output-duplicates" },
    { key := 'w', name := "width", need := .optional },
    { key := '\x02', name := "endian", need := .required, isLetter := false },
    { key := '\x03', name := "traditional", isLetter := false }] ++ shortForms.map fun f => { key := f.1 }
  withFlags "od" 1 fs args fun cs paths => do
    let addressBase ← match optionValue? 'A' cs with
      | none => pure (some 8)
      | some t =>
        match t with
        | .char 'd' :: _ => pure (some 10)
        | .char 'o' :: _ => pure (some 8)
        | .char 'x' :: _ => pure (some 16)
        | .char 'n' :: _ => pure none
        | _ =>
          die "od" 1 ("invalid output address radix '" ++ t.take 1 ++ "'; it must be one character from [doxn]")
    let count (c : Char) (name : Text) : Run (Option Nat) := do
      match optionValue? c cs with
      | none => return none
      | some t =>
        match byteCount? t with
        | some n => return some n
        | none => die "od" 1 ("invalid " ++ name ++ " argument " ++ quoted t)
    let offset := (← count 'j' "-j").getD 0
    let most ← count 'N' "-N"
    let mut data : List Datum := []
    for (c, t) in cs do
      let form : Option Text := if c = 't' then some t else (shortForms.lookup c).map Text.ofString
      match form with
      | none => pure ()
      | some t =>
        match dataOf (t.length + 1) t with
        | some ds => data := data ++ ds
        | none => die "od" 1 ("invalid type string " ++ curved t)
    if data.isEmpty then data := [{ showing := .octal, size := 2 }]
    let least := leastCommon (data.map (·.size))
    let block ← match cs.reverse.find? (·.1 = 'w') with
      | none => pure (if 16 % least = 0 then 16 else least)
      | some (_, t) =>
        match if t.isEmpty then some 32 else byteCount? t with
        | some n =>
          if 0 < n && n % least = 0 then pure n
          else do
            report "od" ("warning: invalid width " ++ Text.ofNat n ++ "; using " ++ Text.ofNat least ++ " instead")
            pure least
        | none => die "od" 1 ("invalid -w argument " ++ quoted t)
    let (bs, ok) ← if most.isSome && paths.isEmpty then do
        let wanted := offset + most.getD 0
        match ← descriptor? 0 with
        | none => pure (([] : Bytes), false)
        | some i =>
          let bs ← feed i (fun bs c => do
            let bs := bs ++ c
            if wanted ≤ bs.length then unread i (bs.length - wanted)
            return (bs, bs.length < wanted)) greatestPieces []
          pure (bs, true)
      else allBytes "od" paths
    if bs.length < offset then die "od" 1 "cannot skip past end of combined input"
    let bs := bs.drop offset
    let bs := match most with
      | some n => bs.take n
      | none => bs
    let f : DumpForm := {
      data, addressBase, block, isVerbose := hasOption 'v' cs
      isBigEndian := optionValue? '\x02' cs = some "big" }
    put "od" (f.dump offset bs)
    return statusOf ok

end Tangle.Shell.Program
