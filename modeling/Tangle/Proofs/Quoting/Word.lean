import Tangle.Quoting.Word
import Tangle.Proofs.Text.Utf8
import Tangle.Proofs.Quoting.Reading

/-! # Quoted words are read back

Each symbol's escape is read as the bytes of the symbol, whatever follows it: a hexadecimal escape has
both its digits, so a digit behind it is not taken for one of them. -/
namespace Tangle
open Quoting

theorem hexDigit_reads : ∀ d < 16,
    (Symbol.char (hexDigit d)).encode = [(hexDigit d).toNat.toUInt8] ∧
      hexValue? (hexDigit d).toNat.toUInt8 = some d.toUInt8 := by
  decide

theorem readHex_hex {n : Nat} (h : n < 0x100) (t : Bytes) :
    readHex ((hex 2 n).encode ++ t) = some (n.toUInt8, t) := by
  obtain ⟨he, hv⟩ := hexDigit_reads (n / 16) (by omega)
  obtain ⟨he', hv'⟩ := hexDigit_reads (n % 16) (by omega)
  have hd : hexDigit n = hexDigit (n % 16) := by simp [hexDigit]
  have hs : (n / 16).toUInt8 * 16 + (n % 16).toUInt8 = n.toUInt8 := by
    rw [← UInt8.toNat_inj]
    simp only [Nat.toUInt8, UInt8.toNat_add, UInt8.toNat_mul, UInt8.toNat_ofNat', UInt8.reduceToNat]
    omega
  have ht : (hex 2 n).encode ++ t =
      (hexDigit (n / 16)).toNat.toUInt8 :: (hexDigit (n % 16)).toNat.toUInt8 :: t := by
    simp only [hex, Text.encode_append, Text.encode_cons, hd, he, he']
    rfl
  rw [ht, readHex, hv]
  simp only [hv', hs]

theorem encode_hexEscape (n : Nat) :
    Text.encode ("\\x" ++ hex 2 n) = backslash :: 0x78 :: (hex 2 n).encode := by
  rw [Text.encode_append]
  rfl

theorem readEscaped_hexEscape {n : Nat} (h : n < 0x100) (t : Bytes) :
    readEscaped (Text.encode ("\\x" ++ hex 2 n) ++ t) = behind [n.toUInt8] (readEscaped t) := by
  rw [encode_hexEscape]
  exact readEscaped_backslash (readHex_hex h t)

namespace Symbol

theorem isControl_char {c : Char} :
    isControl (.char c) = true ↔ c.toNat < 0x20 ∨ c.toNat = 0x7F := by
  simp [isControl, holds]

/-- A character without an escape of its own is no byte that means something between `$'` and `'`. -/
theorem ne_of_mem_encode {c : Char} (hb : c ≠ '\\') (ha : c ≠ '\'') {x : UInt8}
    (hx : x ∈ (Symbol.char c).encode) : x ≠ apostrophe ∧ x ≠ backslash := by
  constructor
  · rintro rfl
    exact ha (Char.toNat_inj.mp (toNat_eq_of_mem_encode hx (by decide)))
  · rintro rfl
    exact hb (Char.toNat_inj.mp (toNat_eq_of_mem_encode hx (by decide)))

/-- Nor is a symbol that is no character. -/
theorem ne_of_not_char {s : Symbol} (hs : ∀ c, s ≠ .char c) {x : UInt8} (hx : x ∈ s.encode) :
    x ≠ apostrophe ∧ x ≠ backslash := by
  constructor
  all_goals
    rintro rfl
    obtain ⟨c, hc, -⟩ := exists_char_of_mem_encode hx (by decide)
    exact hs c hc

/-- The characters that are escaped by one letter. -/
def letters : List (Char × Char) := [('\\', '\\'), ('\'', '\''), ('\n', 'n'), ('\t', 't'), ('\r', 'r')]

theorem letters_read : ∀ p ∈ letters, ∀ t : Bytes,
    readEscape ((Symbol.char p.2).encode ++ t) = some (p.1.toNat.toUInt8, t) := by
  intro p hp t
  simp only [letters, List.mem_cons, List.not_mem_nil, or_false] at hp
  rcases hp with rfl | rfl | rfl | rfl | rfl <;> rfl

theorem letters_encode : ∀ p ∈ letters, (Symbol.char p.1).encode = [p.1.toNat.toUInt8] := by
  decide

theorem letters_isControl : ∀ p ∈ letters, isControl (.char p.2) = false := by
  decide

/-- A character is escaped by a letter, or as a control character, or stands for itself. -/
theorem escape_char (c : Char) :
    (∃ d, (c, d) ∈ letters ∧ (Symbol.char c).escape = [.char '\\', .char d]) ∨
    (c.toNat < 0x80 ∧ (Symbol.char c).escape = "\\x" ++ hex 2 c.toNat) ∨
    (c ≠ '\\' ∧ c ≠ '\'' ∧ isControl (.char c) = false ∧ (Symbol.char c).escape = [.char c]) := by
  rw [escape]
  split
  · next h => exact .inl ⟨'\\', by rw [eq_of_beq h]; decide, rfl⟩
  next hb =>
  split
  · next h => exact .inl ⟨'\'', by rw [eq_of_beq h]; decide, rfl⟩
  next ha =>
  split
  · next h => exact .inl ⟨'n', by rw [eq_of_beq h]; decide, rfl⟩
  split
  · next h => exact .inl ⟨'t', by rw [eq_of_beq h]; decide, rfl⟩
  split
  · next h => exact .inl ⟨'r', by rw [eq_of_beq h]; decide, rfl⟩
  split
  · next h =>
    have hc := isControl_char.mp h
    exact .inr (.inl ⟨by omega, rfl⟩)
  · next h =>
    exact .inr (.inr ⟨by simpa using hb, by simpa using ha, Bool.eq_false_iff.mpr h, rfl⟩)

theorem readEscaped_escape (s : Symbol) (t : Bytes) :
    readEscaped (s.escape.encode ++ t) = behind s.encode (readEscaped t) := by
  cases s with
  | byte b =>
    by_cases hb : 0x80 ≤ b
    · have h := readEscaped_hexEscape (UInt8.toNat_lt b) t
      rw [Nat.toUInt8, UInt8.ofNat_toNat] at h
      rwa [escape, if_pos hb, encode_byte hb]
    · rw [escape, if_neg hb, Text.encode_cons, Text.encode_nil, List.append_nil]
      exact readEscaped_literal (fun _ => ne_of_not_char (s := .byte b) (by simp)) t
  | lone s =>
    rw [escape, Text.encode_cons, Text.encode_nil, List.append_nil]
    exact readEscaped_literal (fun _ => ne_of_not_char (s := .lone s) (by simp)) t
  | char c =>
    rcases escape_char c with ⟨d, hd, he⟩ | ⟨hc, he⟩ | ⟨hb, ha, -, he⟩
    · rw [he, letters_encode _ hd, ← readEscaped_backslash (letters_read _ hd t)]
      simp only [Text.encode_cons, Text.encode_nil, List.append_nil, List.append_assoc]
      rfl
    · rw [he, readEscaped_hexEscape (by omega), encode_char_ascii hc]
    · rw [he, Text.encode_cons, Text.encode_nil, List.append_nil]
      exact readEscaped_literal (fun x hx => ne_of_mem_encode hb ha hx) t

/-- A symbol that needs no escape is a character with no byte of meaning between apostrophes. -/
theorem ne_apostrophe_of_mem_encode {s : Symbol} (h : s.needsEscape = false) {x : UInt8}
    (hx : x ∈ s.encode) : x ≠ apostrophe := by
  rintro rfl
  obtain ⟨c, rfl, hc⟩ := exists_char_of_mem_encode hx (by decide)
  obtain rfl : c = '\'' := Char.toNat_inj.mp hc
  exact absurd h (by decide)

/-- A symbol that can stand inside a line of the script. -/
structure IsPlain (s : Symbol) : Prop where
  control : s.isControl = false
  undecoded : s.isUndecoded = false

theorem isPlain_char {c : Char} (h : isControl (.char c) = false) : IsPlain (.char c) := ⟨h, rfl⟩

theorem isPlain_of_not_needsEscape {s : Symbol} (h : s.needsEscape = false) : s.IsPlain := by
  simp only [needsEscape, Bool.or_eq_false_iff] at h
  exact ⟨h.1.1, h.2⟩

/-- A plain symbol that can be encoded is a character. -/
theorem IsPlain.exists_char {s : Symbol} (h : s.IsPlain) (he : s.isEncodable = true) : ∃ c, s = .char c := by
  cases s with
  | char c => exact ⟨c, rfl⟩
  | byte b => exact absurd he (Bool.eq_false_iff.mp h.undecoded)
  | lone s => cases he

theorem isPlain_hexEscape (n : Nat) : ∀ s ∈ Text.ofString "\\x" ++ hex 2 n, s.IsPlain := by
  have hd : ∀ d < 16, isControl (.char (hexDigit d)) = false := by decide
  have hm : ∀ m, IsPlain (.char (hexDigit m)) := fun m => by
    have h : hexDigit m = hexDigit (m % 16) := by simp [hexDigit]
    exact isPlain_char (h ▸ hd _ (Nat.mod_lt _ (by decide)))
  intro s hs
  rcases List.mem_append.mp hs with hs | hs
  · obtain rfl | rfl : s = .char '\\' ∨ s = .char 'x' := by simpa [Text.ofString] using hs
    all_goals exact isPlain_char (by decide)
  · obtain rfl | rfl : s = .char (hexDigit (n / 16)) ∨ s = .char (hexDigit n) := by
      simpa [hex] using hs
    all_goals exact hm _

theorem isPlain_escape (s : Symbol) : ∀ e ∈ s.escape, e.IsPlain := by
  cases s with
  | byte b =>
    rw [escape]
    split
    · exact isPlain_hexEscape b.toNat
    · next hb =>
      intro e hm
      obtain rfl := List.mem_singleton.mp hm
      exact ⟨rfl, decide_eq_false hb⟩
  | lone s =>
    intro e hm
    obtain rfl := List.mem_singleton.mp hm
    exact ⟨rfl, rfl⟩
  | char c =>
    rcases escape_char c with ⟨d, hd, he⟩ | ⟨-, he⟩ | ⟨-, -, hc, he⟩
    · rw [he]
      intro e hm
      obtain rfl | rfl : e = .char '\\' ∨ e = .char d := by simpa using hm
      · exact isPlain_char (by decide)
      · exact isPlain_char (letters_isControl _ hd)
    · exact he ▸ isPlain_hexEscape c.toNat
    · rw [he]
      intro e hm
      obtain rfl := List.mem_singleton.mp hm
      exact isPlain_char hc

/-- No byte of a plain symbol is a control character. -/
theorem IsPlain.encode {s : Symbol} (h : s.IsPlain) : ∀ x ∈ s.encode, 0x20 ≤ x ∧ x ≠ 0x7F := by
  intro x hx
  by_cases ha : x < 0x80
  · obtain ⟨c, rfl, he⟩ := exists_char_of_mem_encode hx ha
    have hc := h.control
    have hn : ¬(c.toNat < 0x20 ∨ c.toNat = 0x7F) := fun h => by simp [isControl_char.mpr h] at hc
    rw [he] at hn
    rw [UInt8.le_iff_toNat_le, ne_eq, ← UInt8.toNat_inj]
    simp only [UInt8.reduceToNat]
    omega
  · rw [UInt8.lt_iff_toNat_lt] at ha
    rw [UInt8.le_iff_toNat_le, ne_eq, ← UInt8.toNat_inj]
    simp only [UInt8.reduceToNat] at ha ⊢
    omega

end Symbol

namespace Quoting
open Tangle.Symbol

theorem readEscaped_flatMap (t : Text) (r : Bytes) :
    readEscaped (Text.encode (t.flatMap escape) ++ r) = behind t.encode (readEscaped r) := by
  induction t with
  | nil => simp
  | cons s t ih =>
    rw [List.flatMap_cons, Text.encode_append, List.append_assoc, readEscaped_escape, ih,
      behind_behind, Text.encode_cons]

theorem readPart_quote (t : Text) (r : Bytes) :
    readPart ((quote t).encode ++ r) = some (t.encode, r) := by
  rw [quote]
  split
  · have he : Text.encode ("$'" ++ t.flatMap escape ++ "'") ++ r =
        dollar :: apostrophe :: (Text.encode (t.flatMap escape) ++ apostrophe :: r) := by
      simp only [Text.encode_append, List.append_assoc]
      rfl
    have hd : dollar ≠ apostrophe := by decide
    simp only [he, readPart, if_neg hd, if_true]
    rw [readEscaped_flatMap, readEscaped, if_pos rfl, behind_some, List.append_nil]
  · next h =>
    have hn : ∀ s ∈ t, s.needsEscape = false := by simpa using h
    have hp : apostrophe ∉ t.encode := by
      intro ha
      obtain ⟨s, hs, hx⟩ := Text.mem_encode.mp ha
      exact ne_apostrophe_of_mem_encode (hn s hs) hx rfl
    have he : Text.encode ("'" ++ t ++ "'") ++ r = apostrophe :: (t.encode ++ apostrophe :: r) := by
      simp only [Text.encode_append, List.append_assoc]
      rfl
    simp only [he, readPart, if_true]
    exact readPlain_literal hp r

theorem isPlain_quote (t : Text) : ∀ s ∈ quote t, s.IsPlain := by
  have ha : IsPlain (.char '\'') := isPlain_char (by decide)
  intro s hs
  rw [quote] at hs
  split at hs
  · have hm : s = .char '$' ∨ s = .char '\'' ∨ ∃ d ∈ t, s ∈ d.escape := by
      simp [Text.ofString] at hs
      tauto
    rcases hm with rfl | rfl | ⟨d, -, hd⟩
    · exact isPlain_char (by decide)
    · exact ha
    · exact isPlain_escape d s hd
  · next h =>
    have hn : ∀ s ∈ t, s.needsEscape = false := by simpa using h
    have hm : s = .char '\'' ∨ s ∈ t := by
      simp [Text.ofString] at hs
      tauto
    rcases hm with rfl | hm
    · exact ha
    · exact isPlain_of_not_needsEscape (hn s hm)

/-- Quoted words, a blank before each. -/
def spaced (ts : List Text) : Text := ts.flatMap fun t => (" " : Text) ++ quote t

theorem encode_spaced_cons (t : Text) (ts : List Text) (r : Bytes) :
    (spaced (t :: ts)).encode ++ r = space :: ((quote t).encode ++ ((spaced ts).encode ++ r)) := by
  simp only [spaced, List.flatMap_cons, Text.encode_append, List.append_assoc]
  rfl

theorem isBoundary_spaced (ts : List Text) (r : Bytes) : IsBoundary ((spaced ts).encode ++ newline :: r) := by
  intro b hb
  cases ts with
  | nil =>
    obtain rfl : newline = b := Option.some.inj hb
    decide
  | cons t ts =>
    rw [encode_spaced_cons] at hb
    obtain rfl : space = b := Option.some.inj hb
    decide

/-- Quoted words are read back up to the end of their line. -/
theorem readWords_spaced (ts : List Text) (r : Bytes) :
    readWords ((spaced ts).encode ++ newline :: r) = some (ts.map Text.encode, newline :: r) := by
  induction ts with
  | nil =>
    show readWords (newline :: r) = _
    rw [readWords, if_pos rfl]
    rfl
  | cons t ts ih =>
    rw [encode_spaced_cons, readWords_blank (.inl rfl),
      readWords_part (readPart_quote t _) (isBoundary_spaced ts r), ih]
    rfl

theorem isEncodable_escape (d : Symbol) : Text.isEncodable (escape d) = d.isEncodable := by
  cases d with
  | lone s => rfl
  | byte b =>
    rw [escape]
    split
    · next h => simp [Text.isEncodable, hex, Text.ofString, Symbol.isEncodable, h]
    · simp [Text.isEncodable]
  | char c =>
    rcases escape_char c with ⟨d, -, he⟩ | ⟨-, he⟩ | ⟨-, -, -, he⟩
    all_goals
      rw [he]
      simp [Text.isEncodable, hex, Text.ofString, Symbol.isEncodable]

/-- A text has bytes if it is quoted by one that has them, and only then. -/
theorem isEncodable_quote (t : Text) : (quote t).isEncodable = t.isEncodable := by
  have hall : Text.isEncodable (t.flatMap escape) = t.isEncodable := by
    rw [Text.isEncodable, List.all_flatMap]
    exact List.all_congr rfl isEncodable_escape
  rw [quote]
  split
  · simp [hall]
  · simp

theorem isPlain_spaced (ts : List Text) : ∀ s ∈ spaced ts, s.IsPlain := by
  have hb : ∀ s ∈ (" " : Text), s.needsEscape = false := by decide
  intro s hs
  obtain ⟨t, -, hs⟩ := List.mem_flatMap.mp hs
  rcases List.mem_append.mp hs with hs | hs
  · exact Symbol.isPlain_of_not_needsEscape (hb s hs)
  · exact isPlain_quote t s hs

end Quoting

theorem Text.nul_mem_decode {bs : Bytes} : Symbol.nul ∈ decode bs ↔ 0 ∈ bs := by
  constructor
  · intro h
    rw [← encode_decode bs]
    exact mem_encode.mpr ⟨Symbol.nul, h, by decide⟩
  · intro h
    rw [← encode_decode bs] at h
    obtain ⟨s, hs, hx⟩ := mem_encode.mp h
    obtain ⟨c, rfl, hc⟩ := Symbol.exists_char_of_mem_encode hx (by decide)
    obtain rfl : c = '\x00' := Char.toNat_inj.mp hc
    exact hs

namespace Quoting

/-- A text without the null character is quoted as one word on one line, which the shell reads as the
bytes of the text, whatever stands behind the word. -/
theorem word_decode (bs : Bytes) :
    (word (Text.decode bs) = .error .nul ↔ 0 ∈ bs) ∧
      (0 ∉ bs → ∃ w, word (Text.decode bs) = .ok w ∧
        (∀ r, IsBoundary r → readWord (w.encode ++ r) = some (bs, r)) ∧
        w.encode.toByteArray.IsValidUTF8 ∧ ∀ x ∈ w.encode, 0x20 ≤ x ∧ x ≠ 0x7F) := by
  rw [word]
  refine ⟨by simp [Text.nul_mem_decode], fun h => ?_⟩
  refine ⟨quote (Text.decode bs), if_neg (Text.nul_mem_decode.not.mpr h), fun r hr => ?_, ?_, ?_⟩
  · have hp := readPart_quote (Text.decode bs) r
    rw [Text.encode_decode] at hp
    exact readWord_part hp hr
  · have he := List.all_eq_true.mp ((isEncodable_quote _).trans (Text.isEncodable_decode bs))
    exact Text.isValidUTF8_encode fun s hs => (isPlain_quote _ s hs).exists_char (he s hs)
  · intro x hx
    obtain ⟨s, hs, hx⟩ := Text.mem_encode.mp hx
    exact (isPlain_quote _ s hs).encode x hx

/-- An undecoded byte with a digit behind it, an apostrophe, a backslash and a newline. -/
theorem word_decode_undecoded :
    ∃ w, word (Text.decode [0xFF, 0x34, 0x27, 0x5C, 0x0A]) = .ok w ∧
      readWord (w.encode ++ [0x29]) = some ([0xFF, 0x34, 0x27, 0x5C, 0x0A], [0x29]) := by
  obtain ⟨w, hw, hr, -, -⟩ := (word_decode [0xFF, 0x34, 0x27, 0x5C, 0x0A]).2 (by decide)
  have hb : IsBoundary [0x29] := by simp [IsBoundary, endsWord]
  exact ⟨w, hw, hr [0x29] hb⟩

end Quoting
end Tangle
