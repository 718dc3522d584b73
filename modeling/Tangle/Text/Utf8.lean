import Tangle.Text.Basic

/-! # Texts and bytes

Decoding reads the well-formed sequences of the UTF-8 table and keeps every other byte as a symbol
of its own, so that encoding gives back the bytes. -/
namespace Tangle

namespace Utf8

def isTail (b : UInt8) : Bool := 0x80 ≤ b && b ≤ 0xBF

def isPair (a b : UInt8) : Bool := 0xC2 ≤ a && a ≤ 0xDF && isTail b

def isTriple (a b c : UInt8) : Bool :=
  isTail c &&
  ((a == 0xE0 && 0xA0 ≤ b && b ≤ 0xBF) ||
   (a == 0xED && 0x80 ≤ b && b ≤ 0x9F) ||
   (0xE1 ≤ a && a ≤ 0xEF && a != 0xED && isTail b))

def isQuadruple (a b c d : UInt8) : Bool :=
  isTail c && isTail d &&
  ((a == 0xF0 && 0x90 ≤ b && b ≤ 0xBF) ||
   (a == 0xF4 && 0x80 ≤ b && b ≤ 0x8F) ||
   (0xF1 ≤ a && a ≤ 0xF3 && isTail b))

def tail (b : UInt8) : Nat := b.toNat - 0x80

def pair (a b : UInt8) : Symbol := .char (.ofNat ((a.toNat - 0xC0) * 64 + tail b))

def triple (a b c : UInt8) : Symbol :=
  .char (.ofNat ((a.toNat - 0xE0) * 4096 + tail b * 64 + tail c))

def quadruple (a b c d : UInt8) : Symbol :=
  .char (.ofNat ((a.toNat - 0xF0) * 262144 + tail b * 4096 + tail c * 64 + tail d))

def encodeNat (n : Nat) : Bytes :=
  if n < 0x80 then [n.toUInt8]
  else if n < 0x800 then [(0xC0 + n / 64).toUInt8, (0x80 + n % 64).toUInt8]
  else if n < 0x10000 then
    [(0xE0 + n / 4096).toUInt8, (0x80 + n / 64 % 64).toUInt8, (0x80 + n % 64).toUInt8]
  else
    [(0xF0 + n / 262144).toUInt8, (0x80 + n / 4096 % 64).toUInt8, (0x80 + n / 64 % 64).toUInt8,
      (0x80 + n % 64).toUInt8]

end Utf8

open Utf8

/-- The bytes of a symbol. A surrogate has none, and is spelt as its code point would be; texts that hold one
are not written (`Text.encoded`). -/
def Symbol.encode : Symbol → Bytes
  | .char c => encodeNat c.toNat
  | .byte b => if 0x80 ≤ b then [b] else encodeNat (Symbol.byte b).rank
  | .lone s => encodeNat s.codePoint

/-- The fault of a text that cannot be written as bytes. -/
structure EncodeFault where
  text : Text
deriving DecidableEq, Repr

namespace Text

def encode (t : Text) : Bytes := t.flatMap Symbol.encode

/-- The bytes that a text is written as, if it can be. -/
def encoded (t : Text) : Except EncodeFault Bytes := if t.isEncodable then .ok t.encode else .error ⟨t⟩

def decode : Bytes → Text
  | [] => []
  | a :: s =>
    if a < 0x80 then .char (.ofNat a.toNat) :: decode s else
    match s with
    | [] => [.byte a]
    | b :: s₂ =>
      if isPair a b then pair a b :: decode s₂ else
      match s₂ with
      | [] => .byte a :: decode [b]
      | c :: s₃ =>
        if isTriple a b c then triple a b c :: decode s₃ else
        match s₃ with
        | [] => .byte a :: decode [b, c]
        | d :: s₄ =>
          if isQuadruple a b c d then quadruple a b c d :: decode s₄
          else .byte a :: decode (b :: c :: d :: s₄)

@[simp] theorem encode_nil : encode [] = [] := rfl

@[simp] theorem encode_cons (s : Symbol) (t : Text) : encode (s :: t) = s.encode ++ encode t := rfl

@[simp] theorem encode_append (t u : Text) : encode (t ++ u) = encode t ++ encode u := by
  simp [encode]

/-- The text that is read back once `t` has been written: adjacent bytes that spell a character
become that character. -/
def normal (t : Text) : Text := if t.all (fun | .char _ => true | _ => false) then t
  else decode (encode t)

end Text
end Tangle
