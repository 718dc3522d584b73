import Tangle.Text.Basic
import Mathlib.Data.List.Chain

/-! # Lines and pieces of a text

The pieces of a text stand between its newlines, so the text is all of them but the last as whole
lines, and then the last. -/
namespace Tangle.Text

/-- Whole lines, each with the newline that ends it. -/
def unlines (ls : List Text) : Text := ls.flatMap (· ++ [Symbol.newline])

@[simp] theorem unlines_nil : unlines [] = [] := rfl

@[simp] theorem unlines_cons (l : Text) (ls : List Text) :
    unlines (l :: ls) = l ++ Symbol.newline :: unlines ls := by
  simp [unlines]

@[simp] theorem unlines_append (ls ms : List Text) : unlines (ls ++ ms) = unlines ls ++ unlines ms := by
  simp [unlines]

theorem length_le_unlines (ls : List Text) : ls.length ≤ (unlines ls).length := by
  induction ls with
  | nil => simp
  | cons l ls ih => simp only [unlines_cons, List.length_cons, List.length_append]; omega

theorem exists_pieces (t : Text) : ∃ ls last, pieces Symbol.newline t = ls ++ [last] ∧
    t = unlines ls ++ last ∧ ∀ l ∈ ls ++ [last], Symbol.newline ∉ l := by
  induction t with
  | nil => exact ⟨[], [], rfl, rfl, by simp⟩
  | cons c t ih =>
    obtain ⟨ls, last, hp, ht, hn⟩ := ih
    rw [pieces] at hp
    by_cases hc : c = Symbol.newline
    · subst hc
      refine ⟨[] :: ls, last, by simp [pieces, piecesBy, hp], by simp [ht], ?_⟩
      intro l hl
      rcases List.mem_cons.mp hl with rfl | hl
      · exact List.not_mem_nil
      · exact hn l hl
    · have hne : Symbol.newline ≠ c := fun h => hc h.symm
      cases ls with
      | nil =>
        refine ⟨[], c :: last, by simp [pieces, piecesBy, hp, hc], by simp [ht], ?_⟩
        simpa [hne] using hn
      | cons l ls =>
        refine ⟨(c :: l) :: ls, last, by simp [pieces, piecesBy, hp, hc], by simp [ht], ?_⟩
        simpa [hne] using hn

theorem endsInNewline_unlines {ls : List Text} (h : ls ≠ []) : (unlines ls).endsInNewline = true := by
  obtain ⟨ms, l, rfl⟩ := List.eq_nil_or_concat ls |>.resolve_left h
  simp [endsInNewline]

/-- A terminated text is made of whole lines, and each of them is a piece of the text. -/
theorem terminated_eq_unlines (t : Text) : ∃ ls, t.terminated = unlines ls ∧
    ∀ l ∈ ls, l ∈ pieces Symbol.newline t ∧ Symbol.newline ∉ l := by
  obtain ⟨ls, last, hp, ht, hn⟩ := exists_pieces t
  by_cases hl : last = []
  · subst hl
    refine ⟨ls, ?_, fun l hl => ⟨by simp [hp, hl], hn l (by simp [hl])⟩⟩
    rw [List.append_nil] at ht
    by_cases hls : ls = []
    · simp [terminated, ht, hls]
    · simp [terminated, ht, endsInNewline_unlines hls]
  · refine ⟨ls ++ [last], ?_, fun l hl => ⟨hp ▸ hl, hn l hl⟩⟩
    obtain ⟨u, s, rfl⟩ := List.eq_nil_or_concat last |>.resolve_left hl
    have hs : s ≠ Symbol.newline := fun h => hn (u.concat s) (by simp) (by simp [h])
    simp [terminated, endsInNewline, ht, hs]

theorem endsInNewline_append {t : Text} (h : t.endsInNewline = true) (u : Text) :
    (u ++ t).endsInNewline = true := by
  simp only [endsInNewline, beq_iff_eq] at h ⊢
  rw [List.getLast?_append, h, Option.some_or]

/-- Behind a whole line, the lines of a text are its own. -/
theorem lines_append {t : Text} (h : t = [] ∨ t.endsInNewline = true) (u : Text) :
    (t ++ u).lines = t.lines ++ u.lines := by
  induction t with
  | nil => rfl
  | cons c t ih =>
    have ht : t = [] ∨ Text.endsInNewline t = true := by
      cases t with
      | nil => exact .inl rfl
      | cons d t => exact .inr (by simpa [endsInNewline] using h)
    rw [List.cons_append, lines, lines, ih ht]
    by_cases hc : c = Symbol.newline
    · rw [if_pos hc, if_pos hc, List.cons_append]
    · have hne : t ≠ [] := by
        rintro rfl
        simp [endsInNewline, hc] at h
      rw [if_neg hc, if_neg hc]
      cases hl : lines t with
      | nil => exact absurd (by rw [← lines_flatten t, hl]; rfl) hne
      | cons l ls => rfl

/-- A line with another line behind it ends in a newline. -/
theorem isChain_lines (t : Text) : t.lines.IsChain fun l _ => l.endsInNewline = true := by
  induction t with
  | nil => exact .nil
  | cons c t ih =>
    rw [lines]
    split
    · next hc => exact ih.cons fun l _ => by simp [endsInNewline, hc]
    · split
      · exact .singleton _
      · next l ls he =>
        rw [he] at ih
        cases ls with
        | nil => exact .singleton _
        | cons m ls =>
          obtain ⟨hl, hm⟩ := List.isChain_cons_cons.mp ih
          exact .cons_cons (endsInNewline_append hl [c]) hm

/-- A single line: a newline can only be its last symbol. -/
def IsLine (l : Text) : Prop :=
  ∃ u, Symbol.newline ∉ u ∧ (l = u ++ [Symbol.newline] ∨ l = u ∧ u ≠ [])

theorem IsLine.cons {l : Text} (h : IsLine l) {c : Symbol} (hc : c ≠ Symbol.newline) : IsLine (c :: l) := by
  obtain ⟨u, hu, hl⟩ := h
  refine ⟨c :: u, fun hm => (List.mem_cons.mp hm).elim (fun he => hc he.symm) hu, ?_⟩
  rcases hl with rfl | ⟨rfl, -⟩
  · exact .inl rfl
  · exact .inr ⟨rfl, List.cons_ne_nil c l⟩

theorem isLine_of_mem_lines {t l : Text} (h : l ∈ t.lines) : IsLine l := by
  induction t generalizing l with
  | nil => cases h
  | cons c t ih =>
    rw [lines] at h
    split at h
    · next hc =>
      rcases List.mem_cons.mp h with rfl | h
      · exact ⟨[], List.not_mem_nil, .inl (by rw [hc]; rfl)⟩
      · exact ih h
    next hc =>
    split at h
    · obtain rfl := List.mem_singleton.mp h
      exact ⟨[c], by simpa using fun he => hc he.symm, .inr ⟨rfl, List.cons_ne_nil c []⟩⟩
    · next k ks hk =>
      rw [hk] at ih
      rcases List.mem_cons.mp h with rfl | h
      · exact (ih List.mem_cons_self).cons hc
      · exact ih (List.mem_cons_of_mem k h)

theorem lines_of_isLine {l : Text} (h : IsLine l) : l.lines = [l] := by
  obtain ⟨u, hu, hl⟩ := h
  induction u generalizing l with
  | nil =>
    rcases hl with rfl | ⟨-, hn⟩
    · rfl
    · exact absurd rfl hn
  | cons c u ih =>
    obtain ⟨hc, hu⟩ := List.ne_and_not_mem_of_not_mem_cons hu
    rcases hl with rfl | ⟨rfl, -⟩
    · rw [List.cons_append, lines, if_neg fun he => hc he.symm, ih hu (.inl rfl)]
    · by_cases hn : u = []
      · subst hn
        rw [lines, if_neg fun he => hc he.symm]
        rfl
      · rw [lines, if_neg fun he => hc he.symm, ih hu (.inr ⟨rfl, hn⟩)]

/-- Lines of a text that stand behind each other are the lines of the text that they make up. -/
theorem lines_flatten_of_infix {t : Text} {ls : List Text} (h : ls <:+: t.lines) : lines ls.flatten = ls := by
  have hl : ∀ l ∈ ls, IsLine l := fun l hl => isLine_of_mem_lines (h.subset hl)
  have hc : ls.IsChain fun l _ => l.endsInNewline = true := by
    obtain ⟨as, bs, he⟩ := h
    exact (he ▸ isChain_lines t).left_of_append.right_of_append
  clear h
  induction ls with
  | nil => rfl
  | cons l ls ih =>
    obtain ⟨hline, hls⟩ := List.forall_mem_cons.mp hl
    have hi := ih hls hc.of_cons
    cases ls with
    | nil => simpa using lines_of_isLine hline
    | cons k ks =>
      have hn := (List.isChain_cons_cons.mp hc).1
      rw [List.flatten_cons, lines_append (.inr hn), lines_of_isLine hline, hi, List.singleton_append]

end Tangle.Text
