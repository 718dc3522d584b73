import Tangle.Proofs.Text.Lines
import Mathlib.Tactic.Common

/-! # Joined texts

Texts that are joined in two steps are joined in one, and empty texts leave no separator behind. -/
namespace Tangle.Text

theorem join_cons {sep t : Text} {ts : List Text} (h : ts ≠ []) : join sep (t :: ts) = t ++ sep ++ join sep ts := by
  obtain ⟨u, us, rfl⟩ := List.exists_cons_of_ne_nil h
  rw [join, List.intercalate_cons_cons, ← join]

theorem join_flatMap (sep : Text) {ts : List Text} (h : ts ≠ []) : sep ++ join sep ts = ts.flatMap (sep ++ ·) := by
  induction ts with
  | nil => exact absurd rfl h
  | cons t ts ih =>
    by_cases hs : ts = []
    · simp [hs, join]
    · rw [join_cons hs, List.append_assoc t, ih hs, List.flatMap_cons, List.append_assoc]

theorem mem_join {c : Symbol} {sep : Text} (hc : c ∉ sep) {ts : List Text} :
    c ∈ join sep ts ↔ ∃ t ∈ ts, c ∈ t := by
  rw [join]
  induction ts with
  | nil => simp
  | cons t ts ih =>
    cases ts with
    | nil => simp
    | cons u us => simp [List.intercalate_cons_cons, hc, ih]

theorem isEncodable_join {sep : Text} (h : sep.isEncodable = true) (ts : List Text) :
    (join sep ts).isEncodable = ts.all isEncodable := by
  induction ts with
  | nil => rfl
  | cons t ts ih =>
    by_cases hn : ts = []
    · simp [hn, join]
    · rw [join_cons hn, isEncodable_append, isEncodable_append, h, ih, List.all_cons, Bool.and_true]

theorem join_newline {ls : List Text} (h : ls ≠ []) : join "\n" ls ++ "\n" = unlines ls := by
  induction ls with
  | nil => exact absurd rfl h
  | cons l ls ih =>
    by_cases hs : ls = []
    · simp [hs, join, ofString, Symbol.newline]
    · rw [join_cons hs, List.append_assoc, ih hs, unlines_cons, List.append_assoc]
      rfl

theorem join_append {sep : Text} {ts us : List Text} (ht : ts ≠ []) (hu : us ≠ []) :
    join sep (ts ++ us) = join sep ts ++ sep ++ join sep us := by
  induction ts with
  | nil => exact absurd rfl ht
  | cons t ts ih =>
    by_cases hs : ts = []
    · subst hs
      rw [List.singleton_append, join_cons hu, join, join, List.intercalate_singleton]
    · rw [List.cons_append, join_cons (by simp [hs]), ih hs, join_cons hs]
      simp [List.append_assoc]

theorem join_join {sep : Text} (ts us vs : List Text) (hu : us ≠ []) :
    join sep (ts ++ join sep us :: vs) = join sep (ts ++ us ++ vs) := by
  have hs : join sep (join sep us :: vs) = join sep (us ++ vs) := by
    by_cases hv : vs = []
    · subst hv
      rw [List.append_nil, join, List.intercalate_singleton]
    · rw [join_cons hv, join_append hu hv]
  by_cases ht : ts = []
  · subst ht
    exact hs
  · have hw : us ++ vs ≠ [] := by simp [hu]
    rw [List.append_assoc ts us vs, join_append ht (List.cons_ne_nil _ _), hs, join_append ht hw]

/-- The texts that are not empty, each on a line of its own. -/
def joinFilled (ts : List Text) : Text := join "\n" (ts.filter (!·.isEmpty))

@[simp] theorem joinFilled_singleton (t : Text) : joinFilled [t] = t := by
  by_cases h : t = [] <;> simp [joinFilled, join, h]

theorem joinFilled_ne_nil {ts : List Text} (h : ts.filter (!·.isEmpty) ≠ []) : joinFilled ts ≠ [] := by
  obtain ⟨u, us, hu⟩ := List.exists_cons_of_ne_nil h
  have hm : u ∈ ts.filter (!·.isEmpty) := by simp [hu]
  have hne : u ≠ [] := by simpa using (List.mem_filter.mp hm).2
  rw [joinFilled, hu]
  by_cases hs : us = []
  · simpa [hs, join] using hne
  · rw [join_cons hs]
    simp [hne]

theorem joinFilled_joinFilled (ts us vs : List Text) :
    joinFilled (ts ++ joinFilled us :: vs) = joinFilled (ts ++ us ++ vs) := by
  by_cases h : us.filter (!·.isEmpty) = []
  · have hj : joinFilled us = [] := by simp [joinFilled, h, join]
    rw [hj]
    simp [joinFilled, h]
  · have hj : (joinFilled us :: vs).filter (!·.isEmpty) = joinFilled us :: vs.filter (!·.isEmpty) :=
      List.filter_cons_of_pos (by simpa using joinFilled_ne_nil h)
    rw [joinFilled, List.filter_append, hj, joinFilled, join_join _ _ _ h, joinFilled]
    simp

end Tangle.Text
