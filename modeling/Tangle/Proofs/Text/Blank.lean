import Tangle.Text.Blank
import Tangle.Proofs.Text.Join
import Mathlib.Data.List.DropRight

/-! # Trimmed texts and bare lines

A text is trimmed once and for all, and a line end behind it is trimmed away again. The bare lines of a text are
parts of it without line ends; lines that are not empty are found again once they have been joined. -/
namespace Tangle.Text

section Trim
variable {t : Text}

theorem trim_eq (t : Text) : t.trim = (t.dropWhile Symbol.isBlank).rdropWhile Symbol.isBlank := rfl

theorem trim_infix (t : Text) : t.trim <:+: t := by
  have hp : t.trim <+: t.dropWhile Symbol.isBlank := List.rdropWhile_prefix _ _
  exact hp.isInfix.trans (List.dropWhile_suffix _).isInfix

/-- A text is trimmed if it neither begins nor ends with a blank. -/
theorem trim_eq_self_iff : t.trim = t ↔
    t.dropWhile Symbol.isBlank = t ∧ t.rdropWhile Symbol.isBlank = t := by
  constructor
  · intro h
    have hd : t.dropWhile Symbol.isBlank = t := by
      have hp : t.trim <+: t.dropWhile Symbol.isBlank := List.rdropWhile_prefix _ _
      have hs : t.dropWhile Symbol.isBlank <:+ t := List.dropWhile_suffix _
      rw [h] at hp
      exact hs.eq_of_length_le hp.length_le
    refine ⟨hd, ?_⟩
    rwa [trim_eq, hd] at h
  · rintro ⟨hd, hr⟩
    rw [trim_eq, hd, hr]

theorem trim_trim (t : Text) : t.trim.trim = t.trim := by
  refine trim_eq_self_iff.mpr ⟨?_, List.rdropWhile_idempotent _ _⟩
  have hp : t.trim <+: t.dropWhile Symbol.isBlank := List.rdropWhile_prefix _ _
  have hd := List.dropWhile_idempotent Symbol.isBlank t
  rw [List.dropWhile_eq_self_iff] at hd ⊢
  intro hl
  obtain ⟨r, hr⟩ := hp
  have hlen : 0 < (t.dropWhile Symbol.isBlank).length := by
    rw [← hr, List.length_append]
    omega
  have he : t.trim[0] = (t.dropWhile Symbol.isBlank)[0] := by
    simp only [← hr, List.getElem_append_left hl]
  rw [he]
  exact hd hlen

theorem isBlank_iff : t.isBlank = true ↔ ∀ s ∈ t, s.isBlank = true := List.all_eq_true

/-- Nothing is left of a text that is all of one class, and of no other. -/
theorem trimBy_eq_nil_iff {p : Symbol → Bool} : trimBy p t = [] ↔ ∀ s ∈ t, p s = true := by
  show (t.dropWhile p).rdropWhile p = [] ↔ _
  rw [List.rdropWhile_eq_nil_iff]
  constructor
  · intro h s hs
    rw [← List.takeWhile_append_dropWhile (p := p) (l := t), List.mem_append] at hs
    rcases hs with hs | hs
    · exact List.mem_takeWhile_imp hs
    · exact h s hs
  · exact fun h s hs => h s (List.dropWhile_subset _ hs)

theorem trim_eq_nil_iff : t.trim = [] ↔ t.isBlank = true := trimBy_eq_nil_iff.trans isBlank_iff.symm

theorem trimmed_iff : t.trim = t ↔
    (∀ s ∈ t.head?, s.isBlank = false) ∧ ∀ s ∈ t.getLast?, s.isBlank = false := by
  rw [trim_eq_self_iff, List.dropWhile_eq_self_iff, List.rdropWhile_eq_self_iff]
  cases t with
  | nil => simp
  | cons c t => simp [List.getLast?_eq_some_getLast]

/-- What is trimmed away from a text are the blanks around it. -/
theorem exists_trim (t : Text) :
    ∃ a b : Text, t = a ++ t.trim ++ b ∧ a.isBlank = true ∧ b.isBlank = true := by
  refine ⟨t.takeWhile Symbol.isBlank, (t.dropWhile Symbol.isBlank).rtakeWhile Symbol.isBlank, ?_,
    isBlank_iff.mpr fun s hs => List.mem_takeWhile_imp hs, isBlank_iff.mpr fun s hs => List.mem_rtakeWhile_imp hs⟩
  rw [trim_eq, List.append_assoc, List.rdropWhile_append_rtakeWhile, List.takeWhile_append_dropWhile]

theorem trim_append {a b : Text} (ha : a.isBlank = true) (ht : t.trim = t) (hb : b.isBlank = true) :
    (a ++ t ++ b).trim = t := by
  rw [isBlank_iff] at ha hb
  obtain ⟨hd, hr⟩ := trim_eq_self_iff.mp ht
  rw [trim_eq, List.append_assoc, List.dropWhile_append_of_pos ha]
  by_cases hn : t = []
  · subst hn
    rw [List.nil_append, List.dropWhile_eq_nil_iff.mpr hb, List.rdropWhile_nil]
  · have hstart : (t ++ b).dropWhile Symbol.isBlank = t ++ b := by
      have hl : 0 < t.length := List.length_pos_of_ne_nil hn
      rw [List.dropWhile_eq_self_iff] at hd ⊢
      intro hl'
      rw [List.getElem_append_left hl]
      exact hd hl
    rw [hstart, List.rdropWhile, List.reverse_append,
      List.dropWhile_append_of_pos fun s hs => hb s (List.mem_reverse.mp hs)]
    exact hr

theorem trim_append_newline (h : t.trim = t) : (t ++ [Symbol.newline]).trim = t :=
  trim_append (a := []) rfl h rfl

/-- Blanks behind a text are trimmed away. -/
theorem trimBy_append {p : Symbol → Bool} {v : Text} (hv : ∀ s ∈ v, p s = true) (u : Text) :
    trimBy p (u ++ v) = trimBy p u := by
  show ((u ++ v).dropWhile p).rdropWhile p = (u.dropWhile p).rdropWhile p
  by_cases hu : ∀ s ∈ u, p s = true
  · rw [List.dropWhile_append_of_pos hu, List.dropWhile_eq_nil_iff.mpr hv, List.dropWhile_eq_nil_iff.mpr hu]
  · rw [List.dropWhile_append, if_neg (by simpa using hu), List.rdropWhile, List.reverse_append,
      List.dropWhile_append_of_pos fun s hs => hv s (List.mem_reverse.mp hs)]
    rfl

theorem trimLine_append {v : Text} (hv : ∀ s ∈ v, s.isLineBlank = true) (u : Text) :
    (u ++ v).trimLine = u.trimLine := trimBy_append hv u

end Trim

section Pieces

theorem piecesBy_append {p : Symbol → Bool} {t : Text} (h : ∀ s ∈ t, p s = false) {c : Symbol} (hc : p c = true)
    (u : Text) : piecesBy p (t ++ c :: u) = t :: piecesBy p u := by
  induction t with
  | nil => rw [List.nil_append, piecesBy, if_pos hc]
  | cons s t ih =>
    obtain ⟨hs, ht⟩ := List.forall_mem_cons.mp h
    rw [List.cons_append, piecesBy, if_neg (by simp [hs]), ih ht]

/-- A text without separators is one piece. -/
theorem piecesBy_of_free {p : Symbol → Bool} {t : Text} (h : ∀ s ∈ t, p s = false) : piecesBy p t = [t] := by
  induction t with
  | nil => rfl
  | cons s t ih =>
    obtain ⟨hs, ht⟩ := List.forall_mem_cons.mp h
    rw [piecesBy, if_neg (by simp [hs]), ih ht]

/-- Texts that are each ended by a separator are told apart by it; behind the last one stands nothing. -/
theorem pieces_flatMap {sep : Symbol} {ts : List Text} (h : ∀ t ∈ ts, sep ∉ t) :
    pieces sep (ts.flatMap (· ++ [sep])) = ts ++ [[]] := by
  induction ts with
  | nil => rfl
  | cons t ts ih =>
    obtain ⟨ht, hts⟩ := List.forall_mem_cons.mp h
    have hp : ∀ s ∈ t, (s == sep) = false := by
      intro s hs
      have hne : s ≠ sep := fun he => ht (he ▸ hs)
      simpa using hne
    rw [List.flatMap_cons, List.append_assoc, List.singleton_append, pieces,
      piecesBy_append hp (beq_self_eq_true sep), ← pieces, ih hts, List.cons_append]

/-- Texts that are joined by a separator are told apart by it. -/
theorem pieces_join {sep : Symbol} {ts : List Text} (hne : ts ≠ []) (h : ∀ t ∈ ts, sep ∉ t) :
    pieces sep (join [sep] ts) = ts := by
  induction ts with
  | nil => exact absurd rfl hne
  | cons t ts ih =>
    obtain ⟨ht, hts⟩ := List.forall_mem_cons.mp h
    have hp : ∀ s ∈ t, (s == sep) = false := by
      intro s hs
      have hne : s ≠ sep := fun he => ht (he ▸ hs)
      simpa using hne
    by_cases hs : ts = []
    · subst hs
      rw [join, List.intercalate_singleton, pieces, piecesBy_of_free hp]
    · rw [join_cons hs, List.append_assoc, List.singleton_append, pieces,
        piecesBy_append hp (beq_self_eq_true sep), ← pieces, ih hs hts]

/-- No separator stands in a piece. -/
theorem free_of_mem_pieces {sep : Symbol} {t w : Text} (h : w ∈ pieces sep t) : sep ∉ w := by
  rw [pieces] at h
  induction t generalizing w with
  | nil =>
    cases List.mem_singleton.mp h
    exact List.not_mem_nil
  | cons c t ih =>
    rw [piecesBy] at h
    split at h
    · rcases List.mem_cons.mp h with rfl | h
      · exact List.not_mem_nil
      · exact ih h
    · next hc =>
      have hne : sep ≠ c := fun he => hc (beq_iff_eq.mpr he.symm)
      split at h
      · cases List.mem_singleton.mp h
        simpa using hne
      · next l ls hp =>
        rw [hp] at ih
        rcases List.mem_cons.mp h with rfl | h
        · exact fun hm => (List.mem_cons.mp hm).elim hne (ih List.mem_cons_self)
        · exact ih (List.mem_cons_of_mem _ h)

theorem forall_piecesBy_iff {p : Symbol → Bool} {t : Text} :
    (∀ w ∈ piecesBy p t, w = []) ↔ ∀ s ∈ t, p s = true := by
  induction t with
  | nil => simp [piecesBy]
  | cons c t ih =>
    rw [piecesBy]
    by_cases hc : p c = true
    · rw [if_pos hc]
      simp only [List.mem_cons, forall_eq_or_imp, hc, ih]
    · rw [if_neg hc]
      have hn : ¬ ∀ s ∈ c :: t, p s = true := fun h => hc (h c List.mem_cons_self)
      refine iff_of_false ?_ hn
      intro h
      split at h
      · have := h _ List.mem_cons_self
        cases this
      · have := h _ List.mem_cons_self
        cases this

/-- A text without words is blank. -/
theorem words_eq_nil_iff {t : Text} : t.words = [] ↔ t.isBlank = true := by
  rw [words, wordsBy, List.filter_eq_nil_iff, isBlank, List.all_eq_true, ← forall_piecesBy_iff]
  simp

end Pieces

section BareLines

/-- A bare text holds no line end. -/
def IsBare (t : Text) : Prop := ∀ s ∈ t, s.isLineEnd = false

theorem isBare_cons {c : Symbol} {t : Text} : IsBare (c :: t) ↔ c.isLineEnd = false ∧ IsBare t :=
  List.forall_mem_cons

theorem bareLines_cons {c : Symbol} {t l : Text} {ls : List Text} (hc : c.isLineEnd = false)
    (h : bareLines t = l :: ls) : bareLines (c :: t) = (c :: l) :: ls := by
  have ht : t ≠ [] := by
    rintro rfl
    cases h
  obtain ⟨d, u, rfl⟩ := List.exists_cons_of_ne_nil ht
  have hr : ∀ rest, c = .char '\r' → d :: u = .char '\n' :: rest → False := by
    rintro rest rfl -
    cases hc
  rw [bareLines.eq_3 c l ls d u hr h, if_neg (by simp [hc])]

theorem bareLines_ne_nil {t : Text} (h : t ≠ []) : bareLines t ≠ [] := by
  fun_cases bareLines t <;> simp_all

theorem bareLines_singleton {c : Symbol} (hc : c.isLineEnd = false) : bareLines [c] = [[c]] := by
  rw [bareLines.eq_def]
  simp [hc, bareLines]

theorem bareLines_of_isBare {l : Text} (h : IsBare l) (hn : l ≠ []) : bareLines l = [l] := by
  induction l with
  | nil => exact absurd rfl hn
  | cons c l ih =>
    obtain ⟨hc, hl⟩ := isBare_cons.mp h
    by_cases hn : l = []
    · subst hn
      exact bareLines_singleton hc
    · exact bareLines_cons hc (ih hl hn)

theorem bareLines_append {l : Text} (h : IsBare l) (t : Text) :
    bareLines (l ++ Symbol.newline :: t) = l :: bareLines t := by
  induction l with
  | nil =>
    rw [List.nil_append, bareLines.eq_def]
    simp [Symbol.newline, Symbol.isLineEnd, Symbol.holds]
  | cons c l ih =>
    obtain ⟨hc, hl⟩ := isBare_cons.mp h
    exact bareLines_cons hc (ih hl)

/-- The texts `ls` are bare parts of `t`, and `t` begins with the first. -/
structure HasLines (t : Text) (ls : List Text) : Prop where
  part : ∀ l ∈ ls, l <:+: t
  bare : ∀ l ∈ ls, IsBare l
  first : ∀ l ∈ ls.head?, l <+: t

theorem HasLines.skip {t : Text} {ls : List Text} (h : HasLines t ls) (c : Symbol) :
    HasLines (c :: t) ([] :: ls) where
  part := List.forall_mem_cons.mpr
    ⟨List.nil_infix, fun l hl => (h.part l hl).trans (List.suffix_cons c t).isInfix⟩
  bare := List.forall_mem_cons.mpr ⟨nofun, h.bare⟩
  first := by
    rintro l ⟨⟩
    exact List.nil_prefix

theorem HasLines.grow {t l : Text} {ls : List Text} (h : HasLines t (l :: ls)) {c : Symbol}
    (hc : c.isLineEnd = false) : HasLines (c :: t) ((c :: l) :: ls) := by
  obtain ⟨-, hpart⟩ := List.forall_mem_cons.mp h.part
  obtain ⟨hl, hbare⟩ := List.forall_mem_cons.mp h.bare
  have hfirst : c :: l <+: c :: t := (List.prefix_cons_inj c).mpr (h.first l rfl)
  refine ⟨List.forall_mem_cons.mpr ⟨hfirst.isInfix, fun k hk => ?_⟩, ?_, ?_⟩
  · exact (hpart k hk).trans (List.suffix_cons c t).isInfix
  · exact List.forall_mem_cons.mpr ⟨isBare_cons.mpr ⟨hc, hl⟩, hbare⟩
  · rintro k ⟨⟩
    exact hfirst

theorem hasLines_bareLines (t : Text) : HasLines t (bareLines t) := by
  induction t using bareLines.induct with
  | case1 =>
    rw [bareLines]
    exact ⟨nofun, nofun, nofun⟩
  | case2 t ih =>
    have hl := ih.skip (.char '\n')
    rw [bareLines]
    refine ⟨fun l h => ?_, hl.bare, ?_⟩
    · exact (hl.part l h).trans (List.suffix_cons _ _).isInfix
    · rintro l ⟨⟩
      exact List.nil_prefix
  | case3 c t hr hc ih =>
    have hb : bareLines (c :: t) = [] :: bareLines t := by
      rw [bareLines.eq_def (c :: t)]
      split
      · next he => cases he
      · next he =>
        obtain ⟨rfl, rfl⟩ := List.cons.inj he
        exact (hr _ rfl rfl).elim
      · next he =>
        obtain ⟨rfl, rfl⟩ := List.cons.inj he
        exact if_pos hc
    rw [hb]
    exact ih.skip c
  | case4 c hc l ls d u hr hl ih =>
    rw [bareLines_cons (Bool.eq_false_iff.mpr hc) hl]
    rw [hl] at ih
    exact ih.grow (Bool.eq_false_iff.mpr hc)
  | case5 c t hr hc hn ih =>
    have ht : t = [] := by
      by_contra ht
      obtain ⟨d, u, rfl⟩ := List.exists_cons_of_ne_nil ht
      obtain ⟨l, ls, hl⟩ := List.exists_cons_of_ne_nil (bareLines_ne_nil ht)
      exact hn l ls d u hl rfl
    subst ht
    have hb : IsBare [c] := isBare_cons.mpr ⟨Bool.eq_false_iff.mpr hc, nofun⟩
    rw [bareLines_of_isBare hb (List.cons_ne_nil c [])]
    exact ⟨by simp, by simpa using hb, by simp⟩

/-- Bare lines that are not empty are found again once they have been joined. -/
theorem bareLines_join {ls : List Text} (h : ∀ l ∈ ls, IsBare l ∧ l ≠ []) : bareLines (join "\n" ls) = ls := by
  induction ls with
  | nil => rfl
  | cons l ls ih =>
    obtain ⟨hb, hn⟩ := h l List.mem_cons_self
    have hls := ih fun k hk => h k (List.mem_cons_of_mem l hk)
    by_cases hs : ls = []
    · subst hs
      rw [join, List.intercalate_singleton, bareLines_of_isBare hb hn]
    · have hj : join "\n" (l :: ls) = l ++ Symbol.newline :: join "\n" ls := by
        rw [join_cons hs, List.append_assoc]
        rfl
      rw [hj, bareLines_append hb, hls]

end BareLines

end Tangle.Text
