import Tangle.Host.Digest.Sha

/-! # BLAKE2b

Twelve rounds of mixing for each block, in each of which the words of the block come in another order. -/
namespace Tangle.Digest

def orders2b : Array (List Nat) := #[
  [0, 1, 2, 3, 4, 5, 6, 7, 8, 9, 10, 11, 12, 13, 14, 15],
  [14, 10, 4, 8, 9, 15, 13, 6, 1, 12, 0, 2, 11, 7, 5, 3],
  [11, 8, 12, 0, 5, 2, 15, 13, 10, 14, 3, 6, 7, 1, 9, 4],
  [7, 9, 3, 1, 13, 12, 11, 14, 2, 6, 5, 10, 4, 0, 15, 8],
  [9, 0, 5, 7, 2, 4, 10, 15, 14, 1, 11, 12, 6, 8, 3, 13],
  [2, 12, 6, 10, 0, 11, 8, 3, 4, 13, 7, 5, 15, 14, 1, 9],
  [12, 5, 1, 15, 14, 13, 4, 10, 0, 7, 6, 3, 9, 2, 8, 11],
  [13, 11, 7, 14, 12, 1, 3, 9, 5, 0, 15, 4, 8, 6, 2, 10],
  [6, 15, 14, 9, 11, 3, 0, 8, 12, 2, 13, 7, 1, 4, 10, 5],
  [10, 2, 8, 4, 7, 6, 1, 5, 15, 11, 9, 14, 3, 12, 13, 0]]

/-- The places of the words that are mixed with each other in a round. -/
def mixed2b : List (Nat × Nat × Nat × Nat) := [
  (0, 4, 8, 12), (1, 5, 9, 13), (2, 6, 10, 14), (3, 7, 11, 15),
  (0, 5, 10, 15), (1, 6, 11, 12), (2, 7, 8, 13), (3, 4, 9, 14)]

def mix2b (v : Array UInt64) (p : Nat × Nat × Nat × Nat) (x y : UInt64) : Array UInt64 :=
  let (i, j, k, l) := p
  let a := v.getD i 0 + v.getD j 0 + x
  let d := rotateRight64 (v.getD l 0 ^^^ a) 32
  let c := v.getD k 0 + d
  let b := rotateRight64 (v.getD j 0 ^^^ c) 24
  let a := a + b + y
  let d := rotateRight64 (d ^^^ a) 16
  let c := c + d
  let b := rotateRight64 (b ^^^ c) 63
  (((v.setIfInBounds i a).setIfInBounds j b).setIfInBounds k c).setIfInBounds l d

/-- Takes a block, up to the end of which so many bytes have come. -/
def block2b (h : List UInt64) (block : Bytes) (count : Nat) (isLast : Bool) : List UInt64 :=
  let ws := words64 ofLittleEndian (block ++ List.replicate (128 - block.length) 0)
  let start := (squares64 0).toList
  let low : List UInt64 := start.zipIdx.map fun (w, i) =>
    if i = 4 then w ^^^ count.toUInt64
    else if i = 5 then w ^^^ (count / 2 ^ 64).toUInt64
    else if i = 6 && isLast then ~~~w
    else w
  let v := (List.range 12).foldl (fun (v : Array UInt64) r =>
    let order := orders2b.getD (r % 10) []
    mixed2b.zipIdx.foldl (fun (v : Array UInt64) (p, i) =>
      mix2b v p (ws.getD (order.getD (2 * i) 0) 0) (ws.getD (order.getD (2 * i + 1) 0) 0)) v) (h ++ low).toArray
  h.zipIdx.map fun (w, i) => w ^^^ v.getD i 0 ^^^ v.getD (i + 8) 0

/-- The digest of so many bytes. -/
def blake2b (size : Nat) (message : Bytes) : Bytes :=
  let h : List UInt64 := (squares64 0).toList.zipIdx.map fun (w, i) =>
    if i = 0 then w ^^^ 0x01010000 ^^^ size.toUInt64 else w
  let bs := if message.isEmpty then [[]] else blocks 128 (message.length + 1) message
  let r := bs.zipIdx.foldl (fun h (b, i) =>
    let isLast : Bool := i + 1 = bs.length
    block2b h b (if isLast then message.length else 128 * (i + 1)) isLast) h
  (r.flatMap fun w => littleEndian 8 w.toNat).take size

end Tangle.Digest
