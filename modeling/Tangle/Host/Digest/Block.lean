import Tangle.Text.Basic

/-! # Blocks of a message

A digest is computed block by block. Before that the message is filled up to whole blocks: a bit that is set,
zeros, and at the end the number of its bits. -/
namespace Tangle.Digest

/-- Lists of so many bytes each; the last one may be shorter. -/
def blocks (size : Nat) : Nat → Bytes → List Bytes
  | 0, _ => []
  | n + 1, bs => if bs.isEmpty then [] else bs.take size :: blocks size n (bs.drop size)

/-- A number in so many bytes, the lowest one first. -/
def littleEndian : (width : Nat) → Nat → Bytes
  | 0, _ => []
  | w + 1, n => n.toUInt8 :: littleEndian w (n / 256)

def bigEndian (width n : Nat) : Bytes := (littleEndian width n).reverse

def ofLittleEndian (bs : Bytes) : Nat := bs.foldr (fun b n => n * 256 + b.toNat) 0
def ofBigEndian (bs : Bytes) : Nat := bs.foldl (fun n b => n * 256 + b.toNat) 0

@[simp] theorem length_littleEndian (w n : Nat) : (littleEndian w n).length = w := by
  induction w generalizing n with
  | zero => rfl
  | succ w ih => simp [littleEndian, ih]

/-- A message filled up to blocks, with its length in the last bytes. -/
def padded (block width : Nat) (encode : Nat → Nat → Bytes) (message : Bytes) : Bytes :=
  let rest := (message.length + 1 + width) % block
  message ++ 0x80 :: List.replicate (if rest = 0 then 0 else block - rest) 0 ++ encode width (8 * message.length)

/-- The words of a block. -/
def words32 (decode : Bytes → Nat) (block : Bytes) : Array UInt32 :=
  ((blocks 4 (block.length + 1) block).map fun w => (decode w).toUInt32).toArray

def words64 (decode : Bytes → Nat) (block : Bytes) : Array UInt64 :=
  ((blocks 8 (block.length + 1) block).map fun w => (decode w).toUInt64).toArray

def rotateLeft32 (x : UInt32) (n : UInt32) : UInt32 := (x <<< n) ||| (x >>> (32 - n))
def rotateRight32 (x : UInt32) (n : UInt32) : UInt32 := (x >>> n) ||| (x <<< (32 - n))
def rotateRight64 (x : UInt64) (n : UInt64) : UInt64 := (x >>> n) ||| (x <<< (64 - n))

/-- Bytes as two hexadecimal digits each. -/
def hexText (bs : Bytes) : Text :=
  let digit (n : Nat) : Symbol := .char ("0123456789abcdef".toList.getD n '0')
  bs.flatMap fun b => [digit (b.toNat / 16), digit (b.toNat % 16)]

end Tangle.Digest
