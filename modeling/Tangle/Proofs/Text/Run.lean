import Tangle.Proofs.Text.Blank
import Mathlib.Data.List.TakeWhile
import Mathlib.Data.List.TakeDrop

/-! # Runs and words

A list falls apart behind its longest run of a class in one way only. A trimmed text is a single word, or it
is a word, a gap and a trimmed text; so the words of a text are those that it is written with. -/
namespace Tangle
section Runs
variable {α : Type} {P : α → Prop}

theorem exists_run (P : α → Prop) (l : List α) :
    ∃ as r, l = as ++ r ∧ (∀ a ∈ as, P a) ∧ ∀ b ∈ r.head?, ¬P b := by
  induction l with
  | nil => exact ⟨[], [], rfl, by simp, by simp⟩
  | cons a l ih =>
    by_cases ha : P a
    · obtain ⟨as, r, rfl, has, hr⟩ := ih
      exact ⟨a :: as, r, rfl, by simpa using ⟨ha, has⟩, hr⟩
    · exact ⟨[], a :: l, rfl, by simp, by simpa using ha⟩

theorem run_unique {as bs r s : List α} (h : as ++ r = bs ++ s) (ha : ∀ a ∈ as, P a)
    (hb : ∀ b ∈ bs, P b) (hr : ∀ a ∈ r.head?, ¬P a) (hs : ∀ a ∈ s.head?, ¬P a) : as = bs ∧ r = s := by
  induction as generalizing bs with
  | nil =>
    cases bs with
    | nil => exact ⟨rfl, h⟩
    | cons b bs => exact absurd (hb b (by simp)) (hr b (by simp [show r = b :: (bs ++ s) from h]))
  | cons a as ih =>
    cases bs with
    | nil => exact absurd (ha a (by simp)) (hs a (by simp [show s = a :: (as ++ r) from h.symm]))
    | cons b bs =>
      obtain ⟨rfl, ht⟩ := List.cons.inj h
      obtain ⟨rfl, hrs⟩ := ih ht (fun a h => ha a (by simp [h])) (fun b h => hb b (by simp [h]))
      exact ⟨rfl, hrs⟩

end Runs

namespace Text

/-- A text is split behind the longest run of a class. -/
theorem span_eq_iff {p : Symbol → Bool} {t a r : Text} :
    t.span p = (a, r) ↔ t = a ++ r ∧ (∀ s ∈ a, p s = true) ∧ ∀ s ∈ r.head?, ¬p s = true := by
  have hd : ∀ s ∈ (t.dropWhile p).head?, ¬p s = true := by
    intro s hs
    have hn := List.head?_dropWhile_not p t
    rw [Option.mem_def.mp hs] at hn
    simp [hn]
  have ht : ∀ s ∈ t.takeWhile p, p s = true := fun s hs => List.mem_takeWhile_imp hs
  rw [List.span_eq_takeWhile_dropWhile, Prod.mk.injEq]
  constructor
  · rintro ⟨rfl, rfl⟩
    exact ⟨List.takeWhile_append_dropWhile.symm, ht, hd⟩
  · rintro ⟨hs, ha, hr⟩
    exact run_unique (P := (p · = true)) (List.takeWhile_append_dropWhile.trans hs) ht ha hd hr

/-- A word is not empty and holds no blanks. -/
def IsToken (t : Text) : Prop := t ≠ [] ∧ ∀ s ∈ t, s.isBlank = false

/-- The blanks between two words. -/
def IsGap (t : Text) : Prop := t ≠ [] ∧ t.isBlank = true

instance : DecidablePred IsToken := fun _ => inferInstanceAs (Decidable (_ ∧ _))

instance : DecidablePred IsGap := fun _ => inferInstanceAs (Decidable (_ ∧ _))

/-- Words with gaps between them. -/
inductive Spaced : List Text → Text → Prop
  | single {w : Text} (hw : IsToken w) : Spaced [w] w
  | cons {w gap t : Text} {ws : List Text} (hw : IsToken w) (hg : IsGap gap) (h : Spaced ws t) :
      Spaced (w :: ws) (w ++ gap ++ t)

section Words
variable {t : Text}

/-- A trimmed text is a word, or the first word stands before a gap and another trimmed text. -/
theorem isToken_or_split (hn : t ≠ []) (ht : t.trim = t) : IsToken t ∨ ∃ w gap u : Text,
    t = w ++ gap ++ u ∧ IsToken w ∧ IsGap gap ∧ u ≠ [] ∧ u.trim = u := by
  obtain ⟨hhead, hlast⟩ := trimmed_iff.mp ht
  obtain ⟨w, r, rfl, hw, hr⟩ := exists_run (·.isBlank = false) t
  have hw₀ : w ≠ [] := by
    rintro rfl
    obtain ⟨c, r, rfl⟩ := List.exists_cons_of_ne_nil hn
    exact hr c rfl (hhead c rfl)
  by_cases hr₀ : r = []
  · subst hr₀
    exact .inl ⟨hn, by simpa using hw⟩
  obtain ⟨gap, u, rfl, hg, hu⟩ := exists_run (·.isBlank = true) r
  have hg₀ : gap ≠ [] := by
    rintro rfl
    obtain ⟨c, u, rfl⟩ := List.exists_cons_of_ne_nil hr₀
    exact hr c rfl (Bool.eq_false_iff.mpr (hu c rfl))
  have hu₀ : u ≠ [] := by
    rintro rfl
    obtain ⟨gap, c, rfl⟩ := List.eq_nil_or_concat gap |>.resolve_left hg₀
    have hc := hlast c (by simp)
    rw [hg c (by simp)] at hc
    cases hc
  refine .inr ⟨w, gap, u, (List.append_assoc w gap u).symm, ⟨hw₀, hw⟩, ⟨hg₀, isBlank_iff.mpr hg⟩, hu₀,
    trimmed_iff.mpr ⟨fun s hs => Bool.eq_false_iff.mpr (hu s hs), fun s hs => hlast s ?_⟩⟩
  rw [List.getLast?_append_of_ne_nil _ (by simp [hu₀]), List.getLast?_append_of_ne_nil _ hu₀]
  exact hs

theorem exists_spaced (hn : t ≠ []) (ht : t.trim = t) : ∃ ws, Spaced ws t := by
  induction hl : t.length using Nat.strongRecOn generalizing t with
  | ind n ih =>
    rcases isToken_or_split hn ht with hw | ⟨w, gap, u, rfl, hw, hg, hu₀, hu⟩
    · exact ⟨[t], .single hw⟩
    · have hlt : u.length < n := by
        have hpos := List.length_pos_of_ne_nil hw.1
        simp only [List.length_append] at hl
        omega
      obtain ⟨ws, hws⟩ := ih u.length hlt hu₀ hu rfl
      exact ⟨w :: ws, .cons hw hg hws⟩

theorem words_gap {gap : Text} (hg : gap.isBlank = true) (u : Text) : (gap ++ u).words = u.words := by
  rw [isBlank_iff] at hg
  induction gap with
  | nil => rfl
  | cons c gap ih =>
    obtain ⟨hc, hg⟩ := List.forall_mem_cons.mp hg
    rw [List.cons_append, words, wordsBy, piecesBy, if_pos hc]
    exact ih hg

theorem words_token {w : Text} (hw : IsToken w) : w.words = [w] := by
  rw [words, wordsBy, piecesBy_of_free hw.2]
  simp [hw.1]

theorem words_token_gap {w gap : Text} (hw : IsToken w) (hg : IsGap gap) (u : Text) :
    (w ++ gap ++ u).words = w :: u.words := by
  obtain ⟨c, gap, rfl⟩ := List.exists_cons_of_ne_nil hg.1
  obtain ⟨hc, hgap⟩ := List.forall_mem_cons.mp (isBlank_iff.mp hg.2)
  rw [List.append_assoc, List.cons_append, words, wordsBy, piecesBy_append hw.2 hc,
    List.filter_cons_of_pos (by simpa using hw.1)]
  exact congrArg (w :: ·) (words_gap (isBlank_iff.mpr hgap) u)

/-- The words of a text are those that it is written with. -/
theorem Spaced.words_eq {ws : List Text} (h : Spaced ws t) : t.words = ws := by
  induction h with
  | single hw => exact words_token hw
  | cons hw hg _ ih => rw [words_token_gap hw hg, ih]

theorem IsToken.trimmed {w : Text} (hw : IsToken w) : w.trim = w :=
  trimmed_iff.mpr ⟨fun s hs => hw.2 s (List.mem_of_mem_head? hs), fun s hs => hw.2 s (List.mem_of_getLast? hs)⟩

/-- Behind a word nothing is trimmed away but what ends the text. -/
theorem trimmed_append {w u : Text} (hw : IsToken w) (hu : ∀ s ∈ u.getLast?, s.isBlank = false) :
    (w ++ u).trim = w ++ u := by
  obtain ⟨hhead, hlast⟩ := trimmed_iff.mp hw.trimmed
  refine trimmed_iff.mpr ⟨fun s hs => hhead s ?_, fun s hs => ?_⟩
  · rwa [List.head?_append_of_ne_nil _ hw.1] at hs
  · rw [List.getLast?_append] at hs
    cases hl : u.getLast? with
    | none => exact hlast s (by simpa [hl] using hs)
    | some c => exact hu s (by simpa [hl] using hs)

/-- A text begins with its first word. -/
theorem Spaced.exists_first {ws : List Text} (h : Spaced ws t) : ∃ w ∈ ws.head?, IsToken w ∧ w <+: t := by
  cases h with
  | single hw => exact ⟨t, rfl, hw, List.prefix_rfl⟩
  | @cons w gap u ws hw hg h => exact ⟨w, rfl, hw, by rw [List.append_assoc]; exact List.prefix_append _ _⟩

theorem Spaced.head? {ws : List Text} (h : Spaced ws t) : ∃ w ∈ ws.head?, ∃ s, w.head? = some s ∧ t.head? = some s := by
  obtain ⟨w, hm, ⟨hn, -⟩, r, rfl⟩ := h.exists_first
  obtain ⟨s, w, rfl⟩ := List.exists_cons_of_ne_nil hn
  exact ⟨_, hm, s, rfl, rfl⟩

theorem Spaced.trimmed {ws : List Text} (h : Spaced ws t) : t.trim = t := by
  induction h with
  | single hw => exact hw.trimmed
  | @cons w gap u ws hw hg h ih =>
    have hu : u ≠ [] := by
      obtain ⟨_, -, s, -, hs⟩ := h.head?
      rintro rfl
      cases hs
    rw [List.append_assoc]
    refine trimmed_append hw fun s hs => (trimmed_iff.mp ih).2 s ?_
    rwa [List.getLast?_append_of_ne_nil _ hu] at hs

end Words

end Text
end Tangle
