import Tangle.Host.Digest.Block

/-! # MD5

Four rounds of sixteen steps for each block, with additive constants from the sine of the number of the
step. -/
namespace Tangle.Digest

/-- The integer parts of the sines of 1, 2, …, 64 in units of two to the power of minus 32. -/
def sines : Array UInt32 := #[
  0xd76aa478, 0xe8c7b756, 0x242070db, 0xc1bdceee, 0xf57c0faf, 0x4787c62a, 0xa8304613, 0xfd469501,
  0x698098d8, 0x8b44f7af, 0xffff5bb1, 0x895cd7be, 0x6b901122, 0xfd987193, 0xa679438e, 0x49b40821,
  0xf61e2562, 0xc040b340, 0x265e5a51, 0xe9b6c7aa, 0xd62f105d, 0x02441453, 0xd8a1e681, 0xe7d3fbc8,
  0x21e1cde6, 0xc33707d6, 0xf4d50d87, 0x455a14ed, 0xa9e3e905, 0xfcefa3f8, 0x676f02d9, 0x8d2a4c8a,
  0xfffa3942, 0x8771f681, 0x6d9d6122, 0xfde5380c, 0xa4beea44, 0x4bdecfa9, 0xf6bb4b60, 0xbebfbc70,
  0x289b7ec6, 0xeaa127fa, 0xd4ef3085, 0x04881d05, 0xd9d4d039, 0xe6db99e5, 0x1fa27cf8, 0xc4ac5665,
  0xf4292244, 0x432aff97, 0xab9423a7, 0xfc93a039, 0x655b59c3, 0x8f0ccc92, 0xffeff47d, 0x85845dd1,
  0x6fa87e4f, 0xfe2ce6e0, 0xa3014314, 0x4e0811a1, 0xf7537e82, 0xbd3af235, 0x2ad7d2bb, 0xeb86d391]

def turns5 : Array UInt32 := #[7, 12, 17, 22, 5, 9, 14, 20, 4, 11, 16, 23, 6, 10, 15, 21]

structure Four where
  a : UInt32
  b : UInt32
  c : UInt32
  d : UInt32

namespace Four

def step5 (ws : Array UInt32) (s : Four) (i : Nat) : Four :=
  let round := i / 16
  let (f, k) : UInt32 × Nat :=
    if round = 0 then ((s.b &&& s.c) ||| (~~~s.b &&& s.d), i)
    else if round = 1 then ((s.d &&& s.b) ||| (~~~s.d &&& s.c), (5 * i + 1) % 16)
    else if round = 2 then (s.b ^^^ s.c ^^^ s.d, (3 * i + 5) % 16)
    else (s.c ^^^ (s.b ||| ~~~s.d), 7 * i % 16)
  let sum := s.a + f + sines.getD i 0 + ws.getD k 0
  ⟨s.d, s.b + rotateLeft32 sum (turns5.getD (4 * round + i % 4) 0), s.b, s.c⟩

def block5 (s : Four) (block : Bytes) : Four :=
  let r := (List.range 64).foldl (step5 (words32 ofLittleEndian block)) s
  ⟨s.a + r.a, s.b + r.b, s.c + r.c, s.d + r.d⟩

end Four

def md5 (message : Bytes) : Bytes :=
  let all := padded 64 8 littleEndian message
  let r := (blocks 64 (all.length + 1) all).foldl Four.block5 ⟨0x67452301, 0xefcdab89, 0x98badcfe, 0x10325476⟩
  [r.a, r.b, r.c, r.d].flatMap fun w => littleEndian 4 w.toNat

end Tangle.Digest
