import Tangle.Text.Utf8
import Mathlib.Tactic.Common

/-! # Decoding keeps the bytes

Decoding and then encoding gives back the bytes, well-formed or not. The symbols that decoding keeps
as bytes lie outside of ASCII, and the encoding of a character holds an ASCII byte only if it is that
byte. -/
namespace Tangle

theorem toNat_ofNat {n : Nat} (h : n < 0xD800 ∨ 0xDFFF < n ∧ n < 0x110000) :
    (Char.ofNat n).toNat = n := by
  rw [Char.ofNat, dif_pos h]
  rfl

namespace Utf8

theorem isTail_iff {b : UInt8} : isTail b = true ↔ 0x80 ≤ b.toNat ∧ b.toNat ≤ 0xBF := by
  simp [isTail, UInt8.le_iff_toNat_le]

/-! A character whose code is spelt by the bits of some bytes is encoded by these bytes. -/

theorem encode_one {n : Nat} {a : UInt8} (h : n < 0x80) (ha : n = a.toNat) :
    (Symbol.char (.ofNat n)).encode = [a] := by
  rw [Symbol.encode, toNat_ofNat (.inl (by omega)), encodeNat, if_pos h, ha]
  simp

theorem encode_two {n : Nat} {a b : UInt8} (hn : 0x80 ≤ n) (hn' : n < 0x800)
    (ha : 0xC0 + n / 64 = a.toNat) (hb : 0x80 + n % 64 = b.toNat) :
    (Symbol.char (.ofNat n)).encode = [a, b] := by
  rw [Symbol.encode, toNat_ofNat (.inl (by omega)), encodeNat, if_neg (by omega), if_pos hn', ha, hb]
  simp

theorem encode_three {n : Nat} {a b c : UInt8} (hn : 0x800 ≤ n) (hn' : n < 0x10000)
    (hv : n < 0xD800 ∨ 0xDFFF < n) (ha : 0xE0 + n / 4096 = a.toNat)
    (hb : 0x80 + n / 64 % 64 = b.toNat) (hc : 0x80 + n % 64 = c.toNat) :
    (Symbol.char (.ofNat n)).encode = [a, b, c] := by
  rw [Symbol.encode, toNat_ofNat (by omega), encodeNat, if_neg (by omega), if_neg (by omega),
    if_pos hn', ha, hb, hc]
  simp

theorem encode_four {n : Nat} {a b c d : UInt8} (hn : 0x10000 ≤ n) (hn' : n < 0x110000)
    (ha : 0xF0 + n / 262144 = a.toNat) (hb : 0x80 + n / 4096 % 64 = b.toNat)
    (hc : 0x80 + n / 64 % 64 = c.toNat) (hd : 0x80 + n % 64 = d.toNat) :
    (Symbol.char (.ofNat n)).encode = [a, b, c, d] := by
  rw [Symbol.encode, toNat_ofNat (by omega), encodeNat, if_neg (by omega), if_neg (by omega),
    if_neg (by omega), ha, hb, hc, hd]
  simp

theorem encode_ascii {a : UInt8} (h : a < 0x80) : (Symbol.char (.ofNat a.toNat)).encode = [a] :=
  encode_one (by simpa [UInt8.lt_iff_toNat_lt] using h) rfl

theorem encode_pair {a b : UInt8} (h : isPair a b = true) : (pair a b).encode = [a, b] := by
  simp only [isPair, Bool.and_eq_true, decide_eq_true_eq, UInt8.le_iff_toNat_le, isTail_iff,
    UInt8.reduceToNat] at h
  unfold pair tail
  apply encode_two <;> omega

theorem encode_triple {a b c : UInt8} (h : isTriple a b c = true) :
    (triple a b c).encode = [a, b, c] := by
  simp only [isTriple, Bool.and_eq_true, Bool.or_eq_true, decide_eq_true_eq, beq_iff_eq, bne_iff_ne,
    ne_eq, UInt8.le_iff_toNat_le, ← UInt8.toNat_inj, isTail_iff, UInt8.reduceToNat] at h
  unfold triple tail
  apply encode_three <;> omega

theorem encode_quadruple {a b c d : UInt8} (h : isQuadruple a b c d = true) :
    (quadruple a b c d).encode = [a, b, c, d] := by
  simp only [isQuadruple, Bool.and_eq_true, Bool.or_eq_true, decide_eq_true_eq, beq_iff_eq,
    UInt8.le_iff_toNat_le, ← UInt8.toNat_inj, isTail_iff, UInt8.reduceToNat] at h
  unfold quadruple tail
  apply encode_four <;> omega

theorem encodeNat_ascii {n : Nat} (h : n < 0x80) : encodeNat n = [n.toUInt8] := by
  rw [encodeNat, if_pos h]

/-- The bytes of a character outside of ASCII are outside of ASCII. -/
theorem le_of_mem_encodeNat {n : Nat} {x : UInt8} (hn : 0x80 ≤ n) (hn' : n < 0x110000)
    (hx : x ∈ encodeNat n) : 0x80 ≤ x := by
  have hlow : ∀ m, 0x80 ≤ m → m < 0x100 → (0x80 : UInt8) ≤ m.toUInt8 := by
    intro m hm hm'
    rw [UInt8.le_iff_toNat_le, Nat.toUInt8, UInt8.toNat_ofNat']
    simp only [UInt8.reduceToNat]
    omega
  rw [encodeNat, if_neg (by omega)] at hx
  split at hx
  · simp only [List.mem_cons, List.not_mem_nil, or_false] at hx
    rcases hx with rfl | rfl <;> exact hlow _ (by omega) (by omega)
  split at hx
  · simp only [List.mem_cons, List.not_mem_nil, or_false] at hx
    rcases hx with rfl | rfl | rfl <;> exact hlow _ (by omega) (by omega)
  · simp only [List.mem_cons, List.not_mem_nil, or_false] at hx
    rcases hx with rfl | rfl | rfl | rfl <;> exact hlow _ (by omega) (by omega)

end Utf8

open Utf8

theorem char_toNat_lt (c : Char) : c.toNat < 0x110000 := by
  rcases c.valid with h | ⟨-, h⟩
  · exact Nat.lt_trans h (by decide)
  · exact h

theorem Symbol.encode_byte {b : UInt8} (h : 0x80 ≤ b) : (Symbol.byte b).encode = [b] := if_pos h

theorem Symbol.encode_char_ascii {c : Char} (h : c.toNat < 0x80) :
    (Symbol.char c).encode = [c.toNat.toUInt8] := encodeNat_ascii h

/-- An ASCII byte stands for its own character only. -/
theorem Symbol.toNat_eq_of_mem_encode {c : Char} {x : UInt8} (hx : x ∈ (Symbol.char c).encode)
    (ha : x < 0x80) : c.toNat = x.toNat := by
  by_cases hc : c.toNat < 0x80
  · rw [encode_char_ascii hc, List.mem_singleton] at hx
    rw [hx, Nat.toUInt8, UInt8.toNat_ofNat', Nat.mod_eq_of_lt (by omega)]
  · exact absurd ha (UInt8.not_lt.mpr (le_of_mem_encodeNat (by omega) (char_toNat_lt c) hx))

/-- Only characters have ASCII bytes. -/
theorem Symbol.exists_char_of_mem_encode {s : Symbol} {x : UInt8} (hx : x ∈ s.encode) (ha : x < 0x80) :
    ∃ c, s = .char c ∧ c.toNat = x.toNat := by
  cases s with
  | char c => exact ⟨c, rfl, toNat_eq_of_mem_encode hx ha⟩
  | byte b =>
    refine absurd ha (UInt8.not_lt.mpr ?_)
    rw [encode] at hx
    split at hx
    · next hb => rwa [List.mem_singleton.mp hx]
    · have hb := b.toNat_lt
      exact le_of_mem_encodeNat (by simp only [rank]; omega) (by simp only [rank]; omega) hx
  | lone s =>
    have hs := s.inRange
    exact absurd ha (UInt8.not_lt.mpr (le_of_mem_encodeNat (by omega) (by omega) hx))

theorem Symbol.encode_char_eq (c : Char) : (Symbol.char c).encode = String.utf8EncodeChar c := by
  have hc := char_toNat_lt c
  rw [Symbol.encode, encodeNat, String.utf8EncodeChar, Char.toNat_val]
  by_cases h1 : c.toNat < 0x80
  · rw [if_pos h1, if_pos (by omega)]
  by_cases h2 : c.toNat < 0x800
  · rw [if_neg h1, if_pos h2, if_neg (by omega), if_pos (by omega),
      Nat.mod_eq_of_lt (show c.toNat / 64 < 0x20 by omega), Nat.add_comm, Nat.add_comm 0x80]
  by_cases h3 : c.toNat < 0x10000
  · rw [if_neg h1, if_neg h2, if_pos h3, if_neg (by omega), if_neg (by omega), if_pos (by omega),
      Nat.mod_eq_of_lt (show c.toNat / 4096 < 0x10 by omega), Nat.add_comm, Nat.add_comm 0x80,
      Nat.add_comm 0x80]
  · rw [if_neg h1, if_neg h2, if_neg h3, if_neg (by omega), if_neg (by omega), if_neg (by omega),
      Nat.mod_eq_of_lt (show c.toNat / 262144 < 0x08 by omega), Nat.add_comm, Nat.add_comm 0x80,
      Nat.add_comm 0x80, Nat.add_comm 0x80]

namespace Text

theorem mem_encode {x : UInt8} {t : Text} : x ∈ encode t ↔ ∃ s ∈ t, x ∈ s.encode :=
  List.mem_flatMap

/-- A text of characters only is valid UTF-8. -/
theorem isValidUTF8_encode {t : Text} (h : ∀ s ∈ t, ∃ c, s = .char c) :
    (encode t).toByteArray.IsValidUTF8 := by
  induction t with
  | nil => exact ByteArray.isValidUTF8_empty
  | cons s t ih =>
    obtain ⟨c, rfl⟩ := h s (by simp)
    rw [encode_cons, List.toByteArray_append, Symbol.encode_char_eq]
    exact Char.isValidUTF8_toByteArray_utf8EncodeChar.append (ih fun s hs => h s (by simp [hs]))

/-- What decoding gives can be encoded: the symbols that are kept as bytes lie outside of ASCII, and there are no
others than these and characters. -/
theorem isEncodable_of_mem_decode {s : Symbol} {bs : Bytes} (h : s ∈ decode bs) : s.isEncodable = true := by
  fun_induction decode bs with
  | case1 => cases h
  | case3 a ha =>
    obtain rfl := List.mem_singleton.mp h
    simpa [Symbol.isEncodable] using ha
  | case2 a s ha ih | case4 a ha b' s₂ hp ih | case6 a ha b' hp c s₃ ht ih
    | case8 a ha b' hp c ht d s₄ hq ih =>
    rcases List.mem_cons.mp h with rfl | h
    · rfl
    · exact ih h
  | case5 a ha b' hp ih | case7 a ha b' hp c ht ih | case9 a ha b' hp c ht d s₄ hq ih =>
    rcases List.mem_cons.mp h with rfl | h
    · simpa [Symbol.isEncodable] using ha
    · exact ih h

theorem le_of_byte_mem_decode {b : UInt8} {bs : Bytes} (h : Symbol.byte b ∈ decode bs) : 0x80 ≤ b :=
  of_decide_eq_true (isEncodable_of_mem_decode h)

theorem isEncodable_decode (bs : Bytes) : (decode bs).isEncodable = true :=
  List.all_eq_true.mpr fun _ => isEncodable_of_mem_decode

theorem encoded_eq_ok {t : Text} (h : t.isEncodable = true) : t.encoded = .ok t.encode := if_pos h

theorem encoded_eq_error {t : Text} (h : t.isEncodable = false) : t.encoded = .error ⟨t⟩ := by
  rw [encoded, h]
  rfl

@[simp] theorem encode_decode (bs : Bytes) : encode (decode bs) = bs := by
  fun_induction decode bs with
  | case1 => rfl
  | case2 a s h ih => rw [encode_cons, ih, encode_ascii h, List.singleton_append]
  | case3 a h => rw [encode_cons, Symbol.encode_byte (UInt8.not_lt.mp h)]; rfl
  | case4 a h b s₂ hp ih => rw [encode_cons, ih, encode_pair hp]; rfl
  | case5 a h b hp ih => rw [encode_cons, ih, Symbol.encode_byte (UInt8.not_lt.mp h)]; rfl
  | case6 a h b hp c s₃ ht ih => rw [encode_cons, ih, encode_triple ht]; rfl
  | case7 a h b hp c ht ih => rw [encode_cons, ih, Symbol.encode_byte (UInt8.not_lt.mp h)]; rfl
  | case8 a h b hp c ht d s₄ hq ih => rw [encode_cons, ih, encode_quadruple hq]; rfl
  | case9 a h b hp c ht d s₄ hq ih => rw [encode_cons, ih, Symbol.encode_byte (UInt8.not_lt.mp h)]; rfl

end Text
end Tangle
