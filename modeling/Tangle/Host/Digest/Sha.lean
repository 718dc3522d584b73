import Tangle.Host.Digest.Block

/-! # The secure hash algorithms

SHA-1 and the family SHA-2. The constants of the latter are the fractions of the square and cube roots of the
first primes. -/
namespace Tangle.Digest

/-! SHA-1 -/

structure Five where
  a : UInt32
  b : UInt32
  c : UInt32
  d : UInt32
  e : UInt32

/-- Sixteen words extended to eighty. -/
def extended1 (ws : Array UInt32) : Array UInt32 :=
  (List.range 64).foldl (fun (ws : Array UInt32) i =>
    let w (k : Nat) : UInt32 := ws.getD k 0
    ws.push (rotateLeft32 (w (i + 13) ^^^ w (i + 8) ^^^ w (i + 2) ^^^ w i) 1)) ws

def Five.step (ws : Array UInt32) (s : Five) (i : Nat) : Five :=
  let (f, k) : UInt32 × UInt32 :=
    if i < 20 then ((s.b &&& s.c) ||| (~~~s.b &&& s.d), 0x5a827999)
    else if i < 40 then (s.b ^^^ s.c ^^^ s.d, 0x6ed9eba1)
    else if i < 60 then ((s.b &&& s.c) ||| (s.b &&& s.d) ||| (s.c &&& s.d), 0x8f1bbcdc)
    else (s.b ^^^ s.c ^^^ s.d, 0xca62c1d6)
  ⟨rotateLeft32 s.a 5 + f + s.e + k + ws.getD i 0, s.a, rotateLeft32 s.b 30, s.c, s.d⟩

def Five.block (s : Five) (block : Bytes) : Five :=
  let r := (List.range 80).foldl (Five.step (extended1 (words32 ofBigEndian block))) s
  ⟨s.a + r.a, s.b + r.b, s.c + r.c, s.d + r.d, s.e + r.e⟩

def sha1 (message : Bytes) : Bytes :=
  let all := padded 64 8 bigEndian message
  let r := (blocks 64 (all.length + 1) all).foldl Five.block
    ⟨0x67452301, 0xefcdab89, 0x98badcfe, 0x10325476, 0xc3d2e1f0⟩
  [r.a, r.b, r.c, r.d, r.e].flatMap fun w => bigEndian 4 w.toNat

/-! Constants -/

def primes : List Nat := (List.range 420).filter fun n =>
  2 ≤ n && (List.range 21).all fun k => k < 2 || n ≤ k || n % k ≠ 0

/-- The greatest number whose power is not greater than `n`, found bit by bit. -/
def root (power n : Nat) : (bits : Nat) → (soFar : Nat) → Nat
  | 0, r => r
  | b + 1, r => if (r + 2 ^ b) ^ power ≤ n then root power n b (r + 2 ^ b) else root power n b r

/-- The first bits of the fraction of a root of a number. -/
def rootFraction (power bits n : Nat) : Nat := root power (n * 2 ^ (power * bits)) (bits + 8) 0 % 2 ^ bits

def cubes32 : Array UInt32 := ((primes.take 64).map fun p => (rootFraction 3 32 p).toUInt32).toArray
def cubes64 : Array UInt64 := ((primes.take 80).map fun p => (rootFraction 3 64 p).toUInt64).toArray

/-! Words of 32 bits -/

def extended256 (ws : Array UInt32) : Array UInt32 :=
  (List.range 48).foldl (fun (ws : Array UInt32) i =>
    let w (k : Nat) : UInt32 := ws.getD k 0
    let x := w (i + 1)
    let y := w (i + 14)
    let s := rotateRight32 x 7 ^^^ rotateRight32 x 18 ^^^ (x >>> 3)
    let t := rotateRight32 y 17 ^^^ rotateRight32 y 19 ^^^ (y >>> 10)
    ws.push (w i + s + w (i + 9) + t)) ws

/-- The eight words of a state. -/
structure Eight (α : Type) where
  a : α
  b : α
  c : α
  d : α
  e : α
  f : α
  g : α
  h : α

namespace Eight
variable {α : Type}

def plus [Add α] (s t : Eight α) : Eight α :=
  ⟨s.a + t.a, s.b + t.b, s.c + t.c, s.d + t.d, s.e + t.e, s.f + t.f, s.g + t.g, s.h + t.h⟩

def toList (s : Eight α) : List α := [s.a, s.b, s.c, s.d, s.e, s.f, s.g, s.h]

/-- A state from a rule for each of its places. -/
def ofFn (f : Nat → α) : Eight α := ⟨f 0, f 1, f 2, f 3, f 4, f 5, f 6, f 7⟩

def step256 (ws : Array UInt32) (s : Eight UInt32) (i : Nat) : Eight UInt32 :=
  let x := rotateRight32 s.e 6 ^^^ rotateRight32 s.e 11 ^^^ rotateRight32 s.e 25
  let choice := (s.e &&& s.f) ^^^ (~~~s.e &&& s.g)
  let t := s.h + x + choice + cubes32.getD i 0 + ws.getD i 0
  let y := rotateRight32 s.a 2 ^^^ rotateRight32 s.a 13 ^^^ rotateRight32 s.a 22
  let majority := (s.a &&& s.b) ^^^ (s.a &&& s.c) ^^^ (s.b &&& s.c)
  ⟨t + y + majority, s.a, s.b, s.c, s.d + t, s.e, s.f, s.g⟩

def block256 (s : Eight UInt32) (block : Bytes) : Eight UInt32 :=
  s.plus ((List.range 64).foldl (step256 (extended256 (words32 ofBigEndian block))) s)

end Eight

def hash32 (start : Eight UInt32) (message : Bytes) : Bytes :=
  let all := padded 64 8 bigEndian message
  let r := (blocks 64 (all.length + 1) all).foldl Eight.block256 start
  r.toList.flatMap fun w => bigEndian 4 w.toNat

def sha256 (message : Bytes) : Bytes :=
  hash32 (.ofFn fun i => (rootFraction 2 32 (primes.getD i 0)).toUInt32) message

def sha224 (message : Bytes) : Bytes :=
  (hash32 (.ofFn fun i => (rootFraction 2 64 (primes.getD (i + 8) 0)).toUInt32) message).take 28

/-! Words of 64 bits -/

def extended512 (ws : Array UInt64) : Array UInt64 :=
  (List.range 64).foldl (fun (ws : Array UInt64) i =>
    let w (k : Nat) : UInt64 := ws.getD k 0
    let x := w (i + 1)
    let y := w (i + 14)
    let s := rotateRight64 x 1 ^^^ rotateRight64 x 8 ^^^ (x >>> 7)
    let t := rotateRight64 y 19 ^^^ rotateRight64 y 61 ^^^ (y >>> 6)
    ws.push (w i + s + w (i + 9) + t)) ws

namespace Eight

def step512 (ws : Array UInt64) (s : Eight UInt64) (i : Nat) : Eight UInt64 :=
  let x := rotateRight64 s.e 14 ^^^ rotateRight64 s.e 18 ^^^ rotateRight64 s.e 41
  let choice := (s.e &&& s.f) ^^^ (~~~s.e &&& s.g)
  let t := s.h + x + choice + cubes64.getD i 0 + ws.getD i 0
  let y := rotateRight64 s.a 28 ^^^ rotateRight64 s.a 34 ^^^ rotateRight64 s.a 39
  let majority := (s.a &&& s.b) ^^^ (s.a &&& s.c) ^^^ (s.b &&& s.c)
  ⟨t + y + majority, s.a, s.b, s.c, s.d + t, s.e, s.f, s.g⟩

def block512 (s : Eight UInt64) (block : Bytes) : Eight UInt64 :=
  s.plus ((List.range 80).foldl (step512 (extended512 (words64 ofBigEndian block))) s)

end Eight

def hash64 (start : Eight UInt64) (message : Bytes) : Bytes :=
  let all := padded 128 16 bigEndian message
  let r := (blocks 128 (all.length + 1) all).foldl Eight.block512 start
  r.toList.flatMap fun w => bigEndian 8 w.toNat

/-- The fractions of the square roots of eight primes. -/
def squares64 (first : Nat) : Eight UInt64 := .ofFn fun i => (rootFraction 2 64 (primes.getD (i + first) 0)).toUInt64

def sha512 (message : Bytes) : Bytes := hash64 (squares64 0) message
def sha384 (message : Bytes) : Bytes := (hash64 (squares64 8) message).take 48

end Tangle.Digest
