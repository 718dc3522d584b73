import Tangle.Proofs.Text.Join
import Tangle.Proofs.Text.Lines
import Tangle.Proofs.Text.Utf8

/-! # Texts that are read back

A text is normal if it is read back as it was written. What has been decoded is normal, and so are the parts of a
normal text; normal texts can be put together with an ASCII character between them. Only bytes that spell a
character together can spoil this, and they can spell it only where they stand side by side. So bytes can be read and
written line by line. -/
namespace Tangle

namespace Utf8

/-- The byte `a` and the first ones behind it spell a character. -/
def spells (a : UInt8) : Bytes → Bool
  | [] => false
  | [b] => isPair a b
  | [b, c] => isPair a b || isTriple a b c
  | b :: c :: d :: _ => isPair a b || isTriple a b c || isQuadruple a b c d

theorem isTail_of_isPair {a b : UInt8} (h : isPair a b = true) : isTail b = true := by
  simp only [isPair, Bool.and_eq_true] at h
  exact h.2

theorem isTail_of_isTriple {a b c : UInt8} (h : isTriple a b c = true) : isTail b = true ∧ isTail c = true := by
  simp only [isTriple, Bool.and_eq_true, Bool.or_eq_true, decide_eq_true_eq, UInt8.le_iff_toNat_le,
    isTail_iff, UInt8.reduceToNat] at h
  simp only [isTail_iff]
  omega

theorem isTail_of_isQuadruple {a b c d : UInt8} (h : isQuadruple a b c d = true) :
    isTail b = true ∧ isTail c = true ∧ isTail d = true := by
  simp only [isQuadruple, Bool.and_eq_true, Bool.or_eq_true, decide_eq_true_eq, UInt8.le_iff_toNat_le,
    isTail_iff, UInt8.reduceToNat] at h
  simp only [isTail_iff]
  omega

/-- A character that is spelt stays spelt, whatever follows. -/
theorem spells_append {a : UInt8} {s : Bytes} (h : spells a s = true) (r : Bytes) : spells a (s ++ r) = true := by
  match s, r with
  | [], _ => cases h
  | [b], [] => exact h
  | [b], [c] =>
    have hb : isPair a b = true := h
    simp [spells, hb]
  | [b], c :: d :: r =>
    have hb : isPair a b = true := h
    simp [spells, hb]
  | [b, c], [] => exact h
  | [b, c], d :: r =>
    have hb : (isPair a b || isTriple a b c) = true := h
    simp only [List.cons_append, List.nil_append, spells, hb, Bool.true_or]
  | b :: c :: d :: s, r => exact h

/-- Behind bytes that spell no character, one is spelt only by a byte that carries it on. -/
theorem spells_append_eq_false {a : UInt8} {s r : Bytes} (h : spells a s = false)
    (hr : ∀ x ∈ r.head?, isTail x = false) : spells a (s ++ r) = false := by
  match r with
  | [] => rwa [List.append_nil]
  | x :: r =>
    have hx : isTail x = false := hr x rfl
    have hpair (b : UInt8) : isPair b x = false :=
      Bool.eq_false_iff.mpr fun hp => by rw [isTail_of_isPair hp] at hx; cases hx
    have hsecond (c : UInt8) : isTriple a x c = false :=
      Bool.eq_false_iff.mpr fun ht => by rw [(isTail_of_isTriple ht).1] at hx; cases hx
    have hthird (b : UInt8) : isTriple a b x = false :=
      Bool.eq_false_iff.mpr fun ht => by rw [(isTail_of_isTriple ht).2] at hx; cases hx
    have hquad₁ (c d : UInt8) : isQuadruple a x c d = false :=
      Bool.eq_false_iff.mpr fun hq => by rw [(isTail_of_isQuadruple hq).1] at hx; cases hx
    have hquad₂ (b d : UInt8) : isQuadruple a b x d = false :=
      Bool.eq_false_iff.mpr fun hq => by rw [(isTail_of_isQuadruple hq).2.1] at hx; cases hx
    have hquad₃ (b c : UInt8) : isQuadruple a b c x = false :=
      Bool.eq_false_iff.mpr fun hq => by rw [(isTail_of_isQuadruple hq).2.2] at hx; cases hx
    match s, r with
    | [], [] => exact hpair a
    | [], [c] => simp [spells, hpair, hsecond]
    | [], c :: d :: r => simp [spells, hpair, hsecond, hquad₁]
    | [b], [] => simpa [spells, hthird] using h
    | [b], d :: r => simpa [spells, hthird, hquad₂] using h
    | [b, c], r => simpa [spells, hquad₃] using h
    | b :: c :: d :: s, r => exact h

end Utf8

open Utf8

namespace Text

theorem decode_byte {a : UInt8} {s : Bytes} (ha : 0x80 ≤ a) (h : spells a s = false) :
    decode (a :: s) = .byte a :: decode s := by
  have hn : ¬ a < 0x80 := UInt8.not_lt.mpr ha
  match s with
  | [] => simp [decode, hn]
  | [b] =>
    have hp : isPair a b = false := h
    simp [decode, hn, hp]
  | [b, c] =>
    obtain ⟨hp, ht⟩ := Bool.or_eq_false_iff.mp h
    rw [decode.eq_def]
    simp [hn, hp, ht]
  | b :: c :: d :: s =>
    obtain ⟨hpt, hq⟩ := Bool.or_eq_false_iff.mp h
    obtain ⟨hp, ht⟩ := Bool.or_eq_false_iff.mp hpt
    rw [decode.eq_def]
    simp [hn, hp, ht, hq]

/-- Bytes that spell a character are decoded to one. -/
theorem exists_decode_char {a : UInt8} {s : Bytes} (ha : 0x80 ≤ a) (h : spells a s = true) :
    ∃ c t, decode (a :: s) = .char c :: t := by
  have hn : ¬ a < 0x80 := UInt8.not_lt.mpr ha
  rw [decode.eq_def]
  rcases s with _ | ⟨b, _ | ⟨c, _ | ⟨d, s⟩⟩⟩
  · cases h
  · have hp : isPair a b = true := h
    simp [hn, hp, pair]
  · by_cases hp : isPair a b = true
    · simp [hn, hp, pair]
    · have ht : isTriple a b c = true := by simpa [spells, hp] using h
      simp [hn, hp, ht, triple]
  · by_cases hp : isPair a b = true
    · simp [hn, hp, pair]
    by_cases ht : isTriple a b c = true
    · simp [hn, hp, ht, triple]
    · have hq : isQuadruple a b c d = true := by simpa [spells, hp, ht] using h
      simp [hn, hp, ht, hq, quadruple]

/-- A byte that is kept is the first one, and spells no character with those behind it. -/
theorem of_decode_byte {a x : UInt8} {s : Bytes} {t : Text} (h : decode (a :: s) = .byte x :: t) :
    x = a ∧ 0x80 ≤ a ∧ spells a s = false ∧ t = decode s := by
  by_cases ha : a < 0x80
  · rw [decode.eq_def] at h
    simp [ha] at h
  have ha' : 0x80 ≤ a := UInt8.not_lt.mp ha
  cases hs : spells a s with
  | false =>
    rw [decode_byte ha' hs] at h
    obtain ⟨hx, ht⟩ := List.cons.inj h
    exact ⟨(Symbol.byte.inj hx).symm, ha', rfl, ht.symm⟩
  | true =>
    obtain ⟨c, u, hc⟩ := exists_decode_char ha' hs
    rw [hc] at h
    cases h

theorem decode_ascii {a : UInt8} (h : a < 0x80) (s : Bytes) :
    decode (a :: s) = .char (.ofNat a.toNat) :: decode s := by
  rw [decode.eq_def]
  simp [h]

theorem decode_pair {a b : UInt8} (h : isPair a b = true) (s : Bytes) :
    decode (a :: b :: s) = pair a b :: decode s := by
  have hn : ¬ a < 0x80 := by
    simp only [isPair, Bool.and_eq_true, decide_eq_true_eq, UInt8.le_iff_toNat_le, UInt8.reduceToNat] at h
    simp only [UInt8.lt_iff_toNat_lt, UInt8.reduceToNat]
    omega
  rw [decode.eq_def]
  simp [hn, h]

theorem decode_triple {a b c : UInt8} (h : isTriple a b c = true) (s : Bytes) :
    decode (a :: b :: c :: s) = triple a b c :: decode s := by
  have ha : 0xE0 ≤ a.toNat := by
    simp only [isTriple, Bool.and_eq_true, Bool.or_eq_true, decide_eq_true_eq, beq_iff_eq, bne_iff_ne,
      ne_eq, UInt8.le_iff_toNat_le, ← UInt8.toNat_inj, UInt8.reduceToNat] at h
    omega
  have hn : ¬ a < 0x80 := by
    simp only [UInt8.lt_iff_toNat_lt, UInt8.reduceToNat]
    omega
  have hp : ¬ isPair a b = true := by
    simp only [isPair, Bool.and_eq_true, decide_eq_true_eq, UInt8.le_iff_toNat_le, UInt8.reduceToNat]
    omega
  rw [decode.eq_def]
  simp [hn, hp, h]

theorem decode_quadruple {a b c d : UInt8} (h : isQuadruple a b c d = true) (s : Bytes) :
    decode (a :: b :: c :: d :: s) = quadruple a b c d :: decode s := by
  have ha : 0xF0 ≤ a.toNat := by
    simp only [isQuadruple, Bool.and_eq_true, Bool.or_eq_true, decide_eq_true_eq, beq_iff_eq,
      UInt8.le_iff_toNat_le, ← UInt8.toNat_inj, UInt8.reduceToNat] at h
    omega
  have hn : ¬ a < 0x80 := by
    simp only [UInt8.lt_iff_toNat_lt, UInt8.reduceToNat]
    omega
  have hp : ¬ isPair a b = true := by
    simp only [isPair, Bool.and_eq_true, decide_eq_true_eq, UInt8.le_iff_toNat_le, UInt8.reduceToNat]
    omega
  have ht : ¬ isTriple a b c = true := by
    simp only [isTriple, Bool.and_eq_true, Bool.or_eq_true, decide_eq_true_eq, beq_iff_eq, bne_iff_ne,
      ne_eq, UInt8.le_iff_toNat_le, ← UInt8.toNat_inj, UInt8.reduceToNat]
    omega
  rw [decode.eq_def]
  simp [hn, hp, ht, h]

/-- The bytes of a character are decoded to it, whatever follows. -/
theorem decode_char (c : Char) (s : Bytes) : decode ((Symbol.char c).encode ++ s) = .char c :: decode s := by
  have hbyte : ∀ m, m < 0x100 → ∃ a : UInt8, m.toUInt8 = a ∧ a.toNat = m := by
    intro m hm
    refine ⟨m.toUInt8, rfl, ?_⟩
    rw [Nat.toUInt8, UInt8.toNat_ofNat', Nat.mod_eq_of_lt hm]
  have hmax := char_toNat_lt c
  have hvalid : c.toNat < 0xD800 ∨ 0xDFFF < c.toNat := by
    rcases c.valid with h | ⟨h, -⟩
    · exact .inl h
    · exact .inr h
  have hc : Char.ofNat c.toNat = c := Char.ofNat_toNat c
  rw [Symbol.encode, encodeNat]
  generalize c.toNat = n at *
  by_cases h₁ : n < 0x80
  · obtain ⟨a, ha, han⟩ := hbyte n (by omega)
    have hlt : a < 0x80 := by
      simp only [UInt8.lt_iff_toNat_lt, UInt8.reduceToNat, han]
      omega
    rw [if_pos h₁, ha, List.singleton_append, decode_ascii hlt, han, hc]
  by_cases h₂ : n < 0x800
  · obtain ⟨a, ha, han⟩ := hbyte (0xC0 + n / 64) (by omega)
    obtain ⟨b, hb, hbn⟩ := hbyte (0x80 + n % 64) (by omega)
    have hp : isPair a b = true := by
      simp only [isPair, Bool.and_eq_true, decide_eq_true_eq, UInt8.le_iff_toNat_le, isTail_iff,
        UInt8.reduceToNat]
      omega
    have hn : (a.toNat - 0xC0) * 64 + tail b = n := by
      unfold tail
      omega
    rw [if_neg h₁, if_pos h₂, ha, hb]
    refine (decode_pair hp s).trans ?_
    rw [pair, hn, hc]
  by_cases h₃ : n < 0x10000
  · obtain ⟨a, ha, han⟩ := hbyte (0xE0 + n / 4096) (by omega)
    obtain ⟨b, hb, hbn⟩ := hbyte (0x80 + n / 64 % 64) (by omega)
    obtain ⟨d, hd, hdn⟩ := hbyte (0x80 + n % 64) (by omega)
    have ht : isTriple a b d = true := by
      simp only [isTriple, Bool.and_eq_true, Bool.or_eq_true, decide_eq_true_eq, beq_iff_eq, bne_iff_ne,
        ne_eq, UInt8.le_iff_toNat_le, ← UInt8.toNat_inj, isTail_iff, UInt8.reduceToNat]
      omega
    have hn : (a.toNat - 0xE0) * 4096 + tail b * 64 + tail d = n := by
      unfold tail
      omega
    rw [if_neg h₁, if_neg h₂, if_pos h₃, ha, hb, hd]
    refine (decode_triple ht s).trans ?_
    rw [triple, hn, hc]
  · obtain ⟨a, ha, han⟩ := hbyte (0xF0 + n / 262144) (by omega)
    obtain ⟨b, hb, hbn⟩ := hbyte (0x80 + n / 4096 % 64) (by omega)
    obtain ⟨d, hd, hdn⟩ := hbyte (0x80 + n / 64 % 64) (by omega)
    obtain ⟨e, he, hen⟩ := hbyte (0x80 + n % 64) (by omega)
    have hq : isQuadruple a b d e = true := by
      simp only [isQuadruple, Bool.and_eq_true, Bool.or_eq_true, decide_eq_true_eq, beq_iff_eq,
        UInt8.le_iff_toNat_le, ← UInt8.toNat_inj, isTail_iff, UInt8.reduceToNat]
      omega
    have hn : (a.toNat - 0xF0) * 262144 + tail b * 4096 + tail d * 64 + tail e = n := by
      unfold tail
      omega
    rw [if_neg h₁, if_neg h₂, if_neg h₃, ha, hb, hd, he]
    refine (decode_quadruple hq s).trans ?_
    rw [quadruple, hn, hc]

/-- A text that is read back as it was written. -/
def IsNormal (t : Text) : Prop := decode (encode t) = t

theorem isNormal_decode (bs : Bytes) : IsNormal (decode bs) := by
  rw [IsNormal, encode_decode]

theorem isNormal_char {c : Char} {t : Text} : IsNormal (.char c :: t) ↔ IsNormal t := by
  rw [IsNormal, encode_cons, decode_char, List.cons.injEq, IsNormal]
  exact and_iff_right rfl

theorem isNormal_byte {a : UInt8} {t : Text} :
    IsNormal (.byte a :: t) ↔ 0x80 ≤ a ∧ spells a (encode t) = false ∧ IsNormal t := by
  constructor
  · intro h
    have hm : Symbol.byte a ∈ decode (encode (.byte a :: t)) := by
      rw [h]
      exact List.mem_cons_self
    have ha := le_of_byte_mem_decode hm
    rw [IsNormal, encode_cons, Symbol.encode_byte ha] at h
    obtain ⟨-, -, hs, ht⟩ := of_decode_byte h
    exact ⟨ha, hs, ht.symm⟩
  · rintro ⟨ha, hs, ht⟩
    rw [IsNormal, encode_cons, Symbol.encode_byte ha]
    refine (decode_byte ha hs).trans ?_
    rw [ht]

theorem not_isNormal_lone {s : Surrogate} {t : Text} : ¬ IsNormal (.lone s :: t) := by
  intro h
  have hm : Symbol.lone s ∈ decode (encode (.lone s :: t)) := by
    rw [h]
    exact List.mem_cons_self
  cases isEncodable_of_mem_decode hm

/-- Both parts of a normal text are normal. -/
theorem IsNormal.of_append {t u : Text} (h : IsNormal (t ++ u)) : IsNormal t ∧ IsNormal u := by
  induction t with
  | nil => exact ⟨rfl, h⟩
  | cons s t ih =>
    rw [List.cons_append] at h
    cases s with
    | char c =>
      obtain ⟨ht, hu⟩ := ih (isNormal_char.mp h)
      exact ⟨isNormal_char.mpr ht, hu⟩
    | byte a =>
      obtain ⟨ha, hs, h⟩ := isNormal_byte.mp h
      obtain ⟨ht, hu⟩ := ih h
      refine ⟨isNormal_byte.mpr ⟨ha, ?_, ht⟩, hu⟩
      rw [encode_append] at hs
      exact Bool.eq_false_iff.mpr fun hn => Bool.eq_false_iff.mp hs (spells_append hn _)
    | lone s => exact absurd h not_isNormal_lone

theorem IsNormal.of_part {t u : Text} (h : IsNormal u) (ht : t <:+: u) : IsNormal t := by
  obtain ⟨s, r, rfl⟩ := ht
  exact h.of_append.1.of_append.2

/-- Behind a normal text, bytes are decoded as on their own, unless they carry a character on. -/
theorem IsNormal.decode_append {t : Text} (h : IsNormal t) {s : Bytes} (hs : ∀ x ∈ s.head?, isTail x = false) :
    decode (encode t ++ s) = t ++ decode s := by
  induction t with
  | nil => rfl
  | cons c t ih =>
    rw [encode_cons, List.append_assoc, List.cons_append]
    cases c with
    | char c => rw [decode_char, ih (isNormal_char.mp h)]
    | byte a =>
      obtain ⟨ha, hn, ht⟩ := isNormal_byte.mp h
      rw [Symbol.encode_byte ha]
      refine (decode_byte ha (spells_append_eq_false hn hs)).trans ?_
      rw [ih ht]
    | lone s => exact absurd h not_isNormal_lone

theorem decode_append_ascii (bs : Bytes) {a : UInt8} (h : a < 0x80) (s : Bytes) :
    decode (bs ++ a :: s) = decode bs ++ .char (.ofNat a.toNat) :: decode s := by
  have ht : ∀ x ∈ (a :: s).head?, isTail x = false := by
    rintro x ⟨⟩
    rw [Bool.eq_false_iff, ne_eq, isTail_iff]
    simp only [UInt8.lt_iff_toNat_lt, UInt8.reduceToNat] at h
    omega
  have hd := (isNormal_decode bs).decode_append ht
  rw [encode_decode] at hd
  rw [hd, decode_ascii h]

theorem IsNormal.append_newline {t u : Text} (ht : IsNormal t) (hu : IsNormal u) :
    IsNormal (t ++ Symbol.newline :: u) := by
  have hd := decode_append_ascii (encode t) (show (0x0A : UInt8) < 0x80 by decide) (encode u)
  rw [ht, hu] at hd
  rw [IsNormal, encode_append, encode_cons]
  exact hd

theorem isNormal_join {ts : List Text} (h : ∀ t ∈ ts, IsNormal t) : IsNormal (join "\n" ts) := by
  induction ts with
  | nil => rfl
  | cons t ts ih =>
    have ht : IsNormal t := h t List.mem_cons_self
    have hts := ih fun u hu => h u (List.mem_cons_of_mem t hu)
    by_cases hn : ts = []
    · subst hn
      simpa [join] using ht
    · rw [join_cons hn, List.append_assoc]
      exact ht.append_newline hts

end Text

theorem Utf8.encodeNat_ne_nil (n : Nat) : encodeNat n ≠ [] := by
  rw [encodeNat]
  repeat' split
  all_goals exact List.cons_ne_nil _ _

theorem Symbol.encode_ne_nil (s : Symbol) : s.encode ≠ [] := by
  cases s with
  | char c => exact encodeNat_ne_nil _
  | byte b =>
    rw [encode]
    split
    · exact List.cons_ne_nil b []
    · exact encodeNat_ne_nil _
  | lone s => exact encodeNat_ne_nil _

/-- Only the newline is written with its byte. -/
theorem Symbol.newline_mem_encode {s : Symbol} : 0x0A ∈ s.encode ↔ s = newline := by
  constructor
  · intro h
    obtain ⟨c, rfl, hc⟩ := exists_char_of_mem_encode h (by decide)
    exact congrArg Symbol.char (Char.toNat_inj.mp hc)
  · rintro rfl
    decide

/-- The lines of bytes, each with the newline that ends it; only the last may lack one. -/
def Bytes.lines : Bytes → List Bytes
  | [] => []
  | b :: rest =>
    if b = 0x0A then [b] :: Bytes.lines rest
    else match Bytes.lines rest with
      | [] => [[b]]
      | l :: ls => (b :: l) :: ls

/-- Bytes that are no newline go on the first line. -/
theorem Bytes.lines_append {bs : Bytes} (hn : bs ≠ []) (hb : (0x0A : UInt8) ∉ bs) (rest : Bytes) :
    Bytes.lines (bs ++ rest) = match Bytes.lines rest with
      | [] => [bs]
      | l :: ls => (bs ++ l) :: ls := by
  induction bs with
  | nil => exact absurd rfl hn
  | cons b bs ih =>
    obtain ⟨hb, hbs⟩ := List.ne_and_not_mem_of_not_mem_cons hb
    rw [List.cons_append, Bytes.lines, if_neg hb.symm]
    by_cases hn : bs = []
    · subst hn
      rfl
    · rw [ih hn hbs]
      cases Bytes.lines rest <;> rfl

namespace Text

theorem encode_flatten (ts : List Text) : encode ts.flatten = (ts.map encode).flatten := by
  simp only [encode, List.flatMap_def, List.map_flatten, List.flatten_flatten, List.map_map]
  rfl

/-- A text is written line by line. -/
theorem lines_encode (t : Text) : Bytes.lines t.encode = t.lines.map encode := by
  induction t with
  | nil => rfl
  | cons s t ih =>
    rw [encode_cons, lines]
    by_cases hn : s = Symbol.newline
    · rw [if_pos hn, hn, List.map_cons, ← ih]
      rfl
    · rw [if_neg hn, Bytes.lines_append s.encode_ne_nil (Symbol.newline_mem_encode.not.mpr hn), ih]
      cases lines t with
      | nil => simp
      | cons l ls => simp

/-- Bytes are read line by line. -/
theorem lines_decode (bs : Bytes) : (decode bs).lines = (Bytes.lines bs).map decode := by
  have hl := lines_encode (decode bs)
  rw [encode_decode] at hl
  have hn : ∀ l ∈ (decode bs).lines, decode (encode l) = l := by
    intro l hl
    refine (isNormal_decode bs).of_part ?_
    rw [← lines_flatten (decode bs)]
    exact List.infix_of_mem_flatten hl
  rw [hl, List.map_map]
  exact (List.map_id _).symm.trans (List.map_congr_left fun l hl => (hn l hl).symm)

end Text

end Tangle
