import Tangle.Host.Digest.Block

/-! # Checksums

The cyclic redundancy check of a file with its length, and two simple sums. -/
namespace Tangle.Digest

/-- One byte of the check, bit by bit from the highest. -/
def crcEntry (n : Nat) : UInt32 :=
  (List.range 8).foldl (fun (c : UInt32) _ =>
    if c &&& 0x80000000 ≠ 0 then (c <<< 1) ^^^ 0x04c11db7 else c <<< 1) (n.toUInt32 <<< 24)

def crcTable : Array UInt32 := ((List.range 256).map crcEntry).toArray

def crcByte (c : UInt32) (b : UInt8) : UInt32 :=
  (c <<< 8) ^^^ crcTable.getD (((c >>> 24) ^^^ b.toUInt32) &&& 0xff).toNat 0

/-- The bytes of a length, as many as it needs. -/
def lengthBytes : Nat → Nat → Bytes
  | 0, _ => []
  | k + 1, n => if n = 0 then [] else n.toUInt8 :: lengthBytes k (n / 256)

def crc (message : Bytes) : Nat :=
  (~~~((message ++ lengthBytes 16 message.length).foldl crcByte 0)).toNat

/-- A sum of 16 bits that is turned right by one before each byte. -/
def turnedSum (message : Bytes) : Nat :=
  message.foldl (fun s b => (s / 2 + s % 2 * 32768 + b.toNat) % 65536) 0

/-- A sum of bytes folded into 16 bits. -/
def foldedSum (message : Bytes) : Nat :=
  let s := message.foldl (fun s b => s + b.toNat) 0
  let r := s % 65536 + s % 2 ^ 32 / 65536
  r % 65536 + r / 65536

end Tangle.Digest
