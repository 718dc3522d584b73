import Tangle.Host.Shell.Program.Source

/-! # Encodings of bytes as text

Bytes are taken together in groups of bits, and every group is written as a symbol of an alphabet. A group of
bytes that is not complete is filled up with marks. -/
namespace Tangle.Shell.Program
open Run

structure Alphabet where
  /-- The symbols for the values of a group of bits. -/
  symbols : String
  /-- The number of bits that a symbol stands for. -/
  bits : Nat
  /-- The number of symbols that are written together, the last of them perhaps marks. -/
  group : Nat
  isPadded : Bool := true
  /-- Whether the lowest bit of a byte comes first. -/
  isTurned : Bool := false

namespace Alphabet

def upper : String := "ABCDEFGHIJKLMNOPQRSTUVWXYZ"

def base64 : Alphabet := ⟨upper ++ "abcdefghijklmnopqrstuvwxyz0123456789+/", 6, 4, true, false⟩
def base64url : Alphabet := ⟨upper ++ "abcdefghijklmnopqrstuvwxyz0123456789-_", 6, 4, true, false⟩
def base32 : Alphabet := ⟨upper ++ "234567", 5, 8, true, false⟩
def base32hex : Alphabet := ⟨"0123456789ABCDEFGHIJKLMNOPQRSTUV", 5, 8, true, false⟩
def base16 : Alphabet := ⟨"0123456789ABCDEF", 4, 2, false, false⟩
def base2high : Alphabet := ⟨"01", 1, 8, false, false⟩
def base2low : Alphabet := ⟨"01", 1, 8, false, true⟩

def value? (a : Alphabet) (c : Char) : Option Nat := a.symbols.toList.findIdx? (· = c)

/-- The number of bytes that a full group of symbols stands for. -/
def groupBytes (a : Alphabet) : Nat := a.bits * a.group / 8

def turnedByte (b : UInt8) : UInt8 :=
  (List.range 8).foldl (fun (r : UInt8) (i : Nat) => r * 2 + (b >>> i.toUInt8) % 2) 0

/-- The symbols for a group of bytes. -/
def encodeGroup (a : Alphabet) (bs : Bytes) : List Char :=
  let bs := if a.isTurned then bs.map turnedByte else bs
  let total := bs.foldl (fun n b => n * 256 + b.toNat) 0
  let count := (bs.length * 8 + a.bits - 1) / a.bits
  let aligned := total * 2 ^ (count * a.bits - bs.length * 8)
  let cs := (List.range count).map fun i =>
    a.symbols.toList.getD (aligned / 2 ^ ((count - 1 - i) * a.bits) % 2 ^ a.bits) 'A'
  cs ++ List.replicate (if a.isPadded then a.group - count else 0) '='

def encode (a : Alphabet) : Nat → Bytes → List Char
  | 0, _ => []
  | n + 1, bs => if bs.isEmpty then [] else encodeGroup a (bs.take a.groupBytes) ++ encode a n (bs.drop a.groupBytes)

/-- The bytes that a group of symbols stands for, and whether the group is in order. -/
def decodeGroup (a : Alphabet) (cs : List Char) : Bytes × Bool :=
  let data := cs.takeWhile fun c => (a.value? c).isSome
  let rest := cs.drop data.length
  let total := data.foldl (fun n c => n * 2 ^ a.bits + (a.value? c).getD 0) 0
  let count := data.length * a.bits / 8
  let spare := data.length * a.bits - count * 8
  let whole := total / 2 ^ spare
  let bs : Bytes := (List.range count).map fun i => (whole / 256 ^ (count - 1 - i)).toUInt8
  let bs := if a.isTurned then bs.map turnedByte else bs
  let fits := (count * 8 + a.bits - 1) / a.bits = data.length
  (bs, fits && data.length + rest.length = a.group && rest.all (· = '=') && (rest.isEmpty || (a.isPadded && 0 < count)))

/-- The bytes that symbols stand for, up to the first group that is not in order. -/
def decode (a : Alphabet) : Nat → List Char → List Bytes → Bytes × Bool
  | 0, _, done => (done.reverse.flatten, true)
  | n + 1, cs, done =>
    if cs.isEmpty then (done.reverse.flatten, true)
    else
      let (bs, isGood) := decodeGroup a (cs.take a.group)
      if isGood then decode a n (cs.drop a.group) (bs :: done) else ((bs :: done).reverse.flatten, false)

end Alphabet

/-- A list cut into pieces of a length. -/
def piecesOf {α : Type} (size : Nat) : Nat → List α → List (List α)
  | 0, _ => []
  | n + 1, xs => if xs.isEmpty then [] else xs.take size :: piecesOf size n (xs.drop size)

/-- Symbols in lines of a width, each ended; in one line that is not ended if there is no width. -/
def wrapped (width : Nat) (cs : List Char) : Text :=
  if width = 0 then Text.ofChars cs
  else (piecesOf width (cs.length + 1) cs).flatMap fun l => Text.ofChars l ++ "\n"

def encodingFlags : List Flag := [
  { key := 'd', name := "decode" }, { key := 'i', name := "ignore-garbage" },
  { key := 'w', name := "wrap", need := .required }]

/-- Encodes or decodes one source. -/
def encoding (program : Text) (a : Alphabet) (cs : Chosen) (paths : List Text) : Run Nat := do
  let width ← match optionValue? 'w' cs with
    | none => pure 76
    | some t =>
      match natural? t with
      | some n => pure n
      | none => die program 1 ("invalid wrap size: " ++ curved t)
  match paths[1]? with
  | some t => misuse program 1 ("extra operand " ++ quoted t)
  | none => pure ()
  match ← contentOf? program (paths.headD "-") with
  | none => return 1
  | some bs =>
    if hasOption 'd' cs then
      let cs' := (bs.map fun b => Char.ofNat b.toNat).filter (· ≠ '\n')
      let cs' := if hasOption 'i' cs then cs'.filter fun c => (a.value? c).isSome || (a.isPadded && c = '=') else cs'
      let (out, isGood) := a.decode (cs'.length + 1) cs' []
      putBytes program out
      if isGood then return 0
      die program 1 "invalid input"
    else
      put program (wrapped width (a.encode (bs.length + 1) bs))
      return 0

def base64 (args : List Text) : Run Nat := withFlags "base64" 1 encodingFlags args (encoding "base64" .base64)

def base32 (args : List Text) : Run Nat := withFlags "base32" 1 encodingFlags args (encoding "base32" .base32)

/-- The alphabets by their flags. -/
def alphabets : List (Char × String × Alphabet) := [
  ('\x02', "base64", .base64), ('\x03', "base64url", .base64url), ('\x04', "base32", .base32),
  ('\x05', "base32hex", .base32hex), ('\x06', "base16", .base16), ('\x07', "base2msbf", .base2high),
  ('\x08', "base2lsbf", .base2low)]

def basenc (args : List Text) : Run Nat := do
  let fs := encodingFlags ++ alphabets.map fun a => { key := a.1, name := a.2.1, isLetter := false }
  withFlags "basenc" 1 fs args fun cs paths => do
    match (cs.reverse.findSome? fun c => (alphabets.find? (·.1 = c.1)).map (·.2.2)) with
    | some a => encoding "basenc" a cs paths
    | none => misuse "basenc" 1 "missing encoding type"

end Tangle.Shell.Program
