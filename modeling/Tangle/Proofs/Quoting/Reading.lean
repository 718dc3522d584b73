import Tangle.Text.Basic
import Mathlib.Tactic.Common

/-! # Reading quoted words

The rules by which the shell reads a word of quoted parts, on the bytes of its script. Between
apostrophes everything stands for itself; between `$'` and an apostrophe a backslash begins an escape.
The word goes on until a blank or an operator. -/
namespace Tangle.Quoting

def apostrophe : UInt8 := 0x27
def backslash : UInt8 := 0x5C
def dollar : UInt8 := 0x24
def space : UInt8 := 0x20
def tab : UInt8 := 0x09
def newline : UInt8 := 0x0A

/-- Blanks, newlines and the operators of the shell. -/
def endsWord (b : UInt8) : Bool :=
  [0x20, 0x09, 0x0A, 0x3B, 0x26, 0x7C, 0x3C, 0x3E, 0x28, 0x29].contains b

def hexValue? (b : UInt8) : Option UInt8 :=
  if 0x30 ≤ b ∧ b ≤ 0x39 then some (b - 0x30)
  else if 0x41 ≤ b ∧ b ≤ 0x46 then some (b - 0x37)
  else if 0x61 ≤ b ∧ b ≤ 0x66 then some (b - 0x57)
  else none

/-- The byte that one or two hexadecimal digits spell. -/
def readHex : Bytes → Option (UInt8 × Bytes)
  | [] => none
  | a :: t =>
    match hexValue? a with
    | none => none
    | some v =>
      match t with
      | [] => some (v, [])
      | b :: r =>
        match hexValue? b with
        | none => some (v, b :: r)
        | some w => some (v * 16 + w, r)

/-- The byte that an escape stands for, behind its backslash. -/
def readEscape : Bytes → Option (UInt8 × Bytes)
  | [] => none
  | b :: t =>
    if b = backslash then some (backslash, t)
    else if b = apostrophe then some (apostrophe, t)
    else if b = 0x6E then some (0x0A, t)
    else if b = 0x74 then some (0x09, t)
    else if b = 0x72 then some (0x0D, t)
    else if b = 0x78 then readHex t
    else none

theorem readHex_length {t r : Bytes} {v : UInt8} (h : readHex t = some (v, r)) :
    r.length < t.length := by
  unfold readHex at h
  grind

theorem readEscape_length {t r : Bytes} {v : UInt8} (h : readEscape t = some (v, r)) :
    r.length < t.length := by
  cases t with
  | nil => cases h
  | cons b t =>
    have hx : readHex t = some (v, r) → r.length < t.length := readHex_length
    simp only [readEscape] at h
    grind

/-- What is read behind bytes that have been read. -/
def behind (u : Bytes) (p : Option (Bytes × Bytes)) : Option (Bytes × Bytes) :=
  p.map fun p => (u ++ p.1, p.2)

@[simp] theorem behind_some (u v r : Bytes) : behind u (some (v, r)) = some (u ++ v, r) := rfl

@[simp] theorem behind_nil (p : Option (Bytes × Bytes)) : behind [] p = p := by simp [behind]

@[simp] theorem behind_behind (u v : Bytes) (p : Option (Bytes × Bytes)) :
    behind u (behind v p) = behind (u ++ v) p := by
  simp [behind, Function.comp_def]

theorem exists_of_behind {u w r : Bytes} {p : Option (Bytes × Bytes)} (h : behind u p = some (w, r)) :
    ∃ v, p = some (v, r) := by
  obtain ⟨⟨v, r⟩, rfl, hv⟩ := Option.map_eq_some_iff.mp h
  cases hv
  exact ⟨v, rfl⟩

/-- The text up to the next apostrophe, and the rest behind it. -/
def readPlain : Bytes → Option (Bytes × Bytes)
  | [] => none
  | b :: t => if b = apostrophe then some ([], t) else behind [b] (readPlain t)

/-- The text up to the next apostrophe that no backslash stands before, with its escapes carried out. -/
def readEscaped : Bytes → Option (Bytes × Bytes)
  | [] => none
  | b :: t =>
    if b = apostrophe then some ([], t)
    else if b = backslash then
      match _h : readEscape t with
      | none => none
      | some (v, r) => behind [v] (readEscaped r)
    else behind [b] (readEscaped t)
termination_by t => t.length
decreasing_by
  · have := readEscape_length _h
    simp only [List.length_cons]
    omega
  · simp

theorem readPlain_length {t u r : Bytes} (h : readPlain t = some (u, r)) : r.length < t.length := by
  induction t generalizing u with
  | nil => cases h
  | cons b t ih =>
    rw [readPlain] at h
    split at h
    · cases h
      simp
    · obtain ⟨v, hv⟩ := exists_of_behind h
      exact Nat.lt_succ_of_lt (ih hv)

theorem readEscaped_length {t u r : Bytes} (h : readEscaped t = some (u, r)) :
    r.length < t.length := by
  fun_induction readEscaped t generalizing u with
  | case1 => cases h
  | case2 t =>
    cases h
    simp
  | case3 => cases h
  | case4 t v r' he _ ih =>
    obtain ⟨w, hw⟩ := exists_of_behind h
    have hr := ih hw
    have ht := readEscape_length he
    simp only [List.length_cons]
    omega
  | case5 b t _ _ ih =>
    obtain ⟨w, hw⟩ := exists_of_behind h
    exact Nat.lt_succ_of_lt (ih hw)

/-- One quoted part of a word. -/
def readPart : Bytes → Option (Bytes × Bytes)
  | [] => none
  | b :: t =>
    if b = apostrophe then readPlain t
    else if b = dollar then
      match t with
      | [] => none
      | c :: t => if c = apostrophe then readEscaped t else none
    else none

theorem readPart_length {t u r : Bytes} (h : readPart t = some (u, r)) : r.length < t.length := by
  cases t with
  | nil => cases h
  | cons b t =>
    simp only [readPart] at h
    split at h
    · exact Nat.lt_succ_of_lt (readPlain_length h)
    split at h
    · cases t with
      | nil => cases h
      | cons c t =>
        simp only at h
        split at h
        · exact Nat.lt_succ_of_lt (Nat.lt_succ_of_lt (readEscaped_length h))
        · cases h
    · cases h

/-- A word of quoted parts: the bytes that it expands to, and the text behind it. -/
def readWord (t : Bytes) : Option (Bytes × Bytes) :=
  match t with
  | [] => some ([], [])
  | b :: t =>
    if endsWord b then some ([], b :: t)
    else
      match _h : readPart (b :: t) with
      | none => none
      | some (u, r) => behind u (readWord r)
termination_by t.length
decreasing_by exact readPart_length _h

/-- The words up to the end of the line, each with the bytes that it expands to, and the text behind them. -/
def readWords (t : Bytes) : Option (List Bytes × Bytes) :=
  match t with
  | [] => some ([], [])
  | b :: t =>
    if b = newline then some ([], b :: t)
    else if b = space ∨ b = tab then readWords t
    else
      match readWord (b :: t) with
      | none => none
      | some (u, r) =>
        -- An operator is no word.
        if _h : r.length < (b :: t).length then (readWords r).map fun p => (u :: p.1, p.2) else none
termination_by t.length
decreasing_by
  · exact Nat.lt_succ_self t.length
  · exact _h

theorem readEscaped_backslash {e r : Bytes} {v : UInt8} (h : readEscape e = some (v, r)) :
    readEscaped (backslash :: e) = behind [v] (readEscaped r) := by
  rw [readEscaped, if_neg (by decide), if_pos rfl]
  split
  · next hn => cases h.symm.trans hn
  · next hs => cases h.symm.trans hs; rfl

theorem readEscaped_literal {bs : Bytes} (h : ∀ b ∈ bs, b ≠ apostrophe ∧ b ≠ backslash) (t : Bytes) :
    readEscaped (bs ++ t) = behind bs (readEscaped t) := by
  induction bs with
  | nil => simp
  | cons b bs ih =>
    obtain ⟨ha, hb⟩ := h b (by simp)
    rw [List.cons_append, readEscaped, if_neg ha, if_neg hb, ih fun b hm => h b (by simp [hm])]
    simp

theorem readPlain_literal {bs : Bytes} (h : apostrophe ∉ bs) (t : Bytes) :
    readPlain (bs ++ apostrophe :: t) = some (bs, t) := by
  induction bs with
  | nil => rfl
  | cons b bs ih =>
    obtain ⟨hb, hbs⟩ := List.ne_and_not_mem_of_not_mem_cons h
    rw [List.cons_append, readPlain, if_neg fun h => hb h.symm, ih hbs]
    rfl

/-- Holds of a text behind which no word goes on. -/
def IsBoundary (t : Bytes) : Prop := ∀ b ∈ t.head?, endsWord b = true

theorem readWord_boundary {t : Bytes} (h : IsBoundary t) : readWord t = some ([], t) := by
  cases t with
  | nil => rw [readWord]
  | cons b t => rw [readWord, if_pos (h b rfl)]

theorem endsWord_of_readPart {b : UInt8} {t u r : Bytes} (h : readPart (b :: t) = some (u, r)) :
    endsWord b = false := by
  simp only [readPart] at h
  split at h
  · next hb => exact hb ▸ by decide
  split at h
  · next hb => exact hb ▸ by decide
  · cases h

theorem readWord_part {t u r : Bytes} (hp : readPart t = some (u, r)) (hr : IsBoundary r) :
    readWord t = some (u, r) := by
  cases t with
  | nil => cases hp
  | cons b t =>
    rw [readWord, endsWord_of_readPart hp]
    split
    · next hn => cases hn
    split
    · next hn => cases hp.symm.trans hn
    · next hs =>
      cases hp.symm.trans hs
      rw [readWord_boundary hr, behind_some, List.append_nil]

theorem readWords_blank {b : UInt8} (h : b = space ∨ b = tab) (t : Bytes) : readWords (b :: t) = readWords t := by
  have hn : b ≠ newline := by rcases h with rfl | rfl <;> decide
  rw [readWords, if_neg hn, if_pos h]

theorem readWords_part {t u r : Bytes} (hp : readPart t = some (u, r)) (hr : IsBoundary r) :
    readWords t = (readWords r).map fun p => (u :: p.1, p.2) := by
  cases t with
  | nil => cases hp
  | cons b t =>
    have hb := endsWord_of_readPart hp
    have hn : b ≠ newline := by
      rintro rfl
      exact absurd hb (by decide)
    have hs : ¬(b = space ∨ b = tab) := by
      rintro (rfl | rfl) <;> exact absurd hb (by decide)
    rw [readWords, if_neg hn, if_neg hs]
    simp only [readWord_part hp hr, dif_pos (readPart_length hp)]

end Tangle.Quoting
