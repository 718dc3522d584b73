import Tangle.Table
import Mathlib.Data.List.Basic
import Mathlib.Data.List.Induction

/-! # The names in a table

A table is given by its names, in their order, and by what each of them is looked up to. A name keeps its place
when it is bound again. -/
namespace Tangle.Table
variable {α : Type u}

theorem mem_keys_iff {t : Table α} {k : Text} : k ∈ t.keys ↔ ∃ v, t.get? k = some v := by
  simp only [keys, List.mem_map, get?_eq_some_iff, toList, Prod.exists, exists_and_right, exists_eq_right]

theorem isSome_get?_iff {t : Table α} {k : Text} : (t.get? k).isSome ↔ k ∈ t.keys :=
  Option.isSome_iff_exists.trans mem_keys_iff.symm

theorem keys_putEntry (k : Text) (v : α) (es : List (Text × α)) : (putEntry k v es).map (·.1) =
    if k ∈ es.map (·.1) then es.map (·.1) else es.map (·.1) ++ [k] := by
  induction es with
  | nil => simp [putEntry]
  | cons e es ih =>
    by_cases he : e.1 = k
    · simp [putEntry, he]
    · have hk : k ∈ (e :: es).map (·.1) ↔ k ∈ es.map (·.1) := by
        rw [List.map_cons, List.mem_cons]
        exact or_iff_right fun h => he h.symm
      rw [putEntry, if_neg he, List.map_cons, ih]
      by_cases hm : k ∈ es.map (·.1)
      · rw [if_pos hm, if_pos (hk.mpr hm), List.map_cons]
      · rw [if_neg hm, if_neg (hk.not.mpr hm), List.map_cons, List.cons_append]

theorem keys_set (t : Table α) (k : Text) (v : α) :
    (t.set k v).keys = if k ∈ t.keys then t.keys else t.keys ++ [k] := keys_putEntry k v t.entries

theorem keys_set_of_bound {t : Table α} {k : Text} {w : α} (h : t.get? k = some w) (v : α) :
    (t.set k v).keys = t.keys := by
  rw [keys_set, if_pos (mem_keys_iff.mpr ⟨w, h⟩)]

theorem keys_erase (t : Table α) (k : Text) : (t.erase k).keys = t.keys.filter (· ≠ k) := by
  simp only [erase, filter, keys, List.filter_map]
  rfl

section Filter
variable {t : Table α} {k : Text} {p : Text → Bool}

/-- Among names that are bound already, none moves when one of them is bound. -/
theorem filter_keys_set (h : p k = true → k ∈ t.keys) (v : α) : (t.set k v).keys.filter p = t.keys.filter p := by
  rw [keys_set]
  by_cases hk : k ∈ t.keys
  · rw [if_pos hk]
  · have hp : ¬ p k = true := fun hp => hk (h hp)
    rw [if_neg hk, List.filter_append, List.filter_cons_of_neg hp, List.filter_nil, List.append_nil]

theorem filter_keys_erase (h : p k = false) : (t.erase k).keys.filter p = t.keys.filter p := by
  rw [keys_erase, List.filter_filter]
  refine List.filter_congr fun j _ => ?_
  by_cases hj : j = k
  · simp [hj, h]
  · simp [hj]

end Filter

theorem entries_eq (t : Table α) : t.entries = t.keys.filterMap fun k => (t.get? k).map (k, ·) := by
  rw [keys, List.filterMap_map]
  have he : ∀ e ∈ t.entries, ((fun k => (t.get? k).map (k, ·)) ∘ (·.1)) e = some e := by
    intro e he
    have hg : t.get? e.1 = some e.2 := get?_eq_some_iff.mpr he
    simp [hg]
  rw [List.filterMap_congr he, List.filterMap_some]

theorem eq_of_keys {t u : Table α} (hk : t.keys = u.keys) (hg : ∀ k, t.get? k = u.get? k) : t = u := by
  have he : t.entries = u.entries := by
    rw [entries_eq t, entries_eq u, hk]
    simp only [hg]
  obtain ⟨es, _⟩ := t
  obtain ⟨fs, _⟩ := u
  simp only at he
  subst he
  rfl

section SetAll

/-- Later entries replace earlier ones of the same name. -/
theorem get?_setAll (t u : Table α) (k : Text) :
    (t.setAll u.toList).get? k = (u.get? k).or (t.get? k) := by
  obtain ⟨es, hes⟩ := u
  simp only [setAll, toList, get?]
  induction es generalizing t with
  | nil => simp
  | cons e es ih =>
    obtain ⟨hn, hes⟩ := List.nodup_cons.mp hes
    have hs : ((t.set e.1 e.2).entries.find? (·.1 = k)).map (·.2) =
        if e.1 = k then some e.2 else t.get? k := get?_set t e.1 k e.2
    rw [List.foldl_cons, ih _ hes, List.find?_cons, hs]
    by_cases h : e.1 = k
    · have hf : es.find? (·.1 = k) = none := by
        rw [List.find?_eq_none]
        exact fun f hf he => hn (List.mem_map.mpr ⟨f, hf, (of_decide_eq_true he).trans h.symm⟩)
      simp [h, hf]
    · simp [h, get?]

theorem setAll_append_singleton (t : Table α) (es : List (Text × α)) (e : Text × α) :
    t.setAll (es ++ [e]) = (t.setAll es).set e.1 e.2 := by
  rw [setAll, setAll, List.foldl_append, List.foldl_cons, List.foldl_nil]

/-- The names stand in the order in which they appear for the first time. -/
theorem keys_setAll (es : List (Text × α)) : (({} : Table α).setAll es).keys = (es.map (·.1)).eraseDups := by
  induction es using List.reverseRecOn with
  | nil => rfl
  | append_singleton es e ih =>
    rw [setAll_append_singleton, keys_set, ih, List.map_append, List.eraseDups_append]
    by_cases hm : e.1 ∈ es.map (·.1)
    · simp [List.removeAll, hm]
    · simp [List.removeAll, hm, List.eraseDups_cons]

/-- A name is looked up to its last value. -/
theorem get?_setAll_empty (es : List (Text × α)) (k : Text) :
    (({} : Table α).setAll es).get? k = ((es.filter (·.1 = k)).getLast?).map (·.2) := by
  induction es using List.reverseRecOn with
  | nil => rfl
  | append_singleton es e ih =>
    rw [setAll_append_singleton, get?_set, ih, List.filter_append]
    by_cases hk : e.1 = k
    · simp [hk]
    · simp [hk]

theorem eraseDups_of_nodup {ks : List Text} (h : ks.Nodup) : ks.eraseDups = ks := by
  induction ks with
  | nil => rfl
  | cons k ks ih =>
    obtain ⟨hk, hks⟩ := List.nodup_cons.mp h
    have hf : ks.filter (!· == k) = ks := by
      refine List.filter_eq_self.mpr fun j hj => ?_
      have hne : j ≠ k := fun he => hk (he ▸ hj)
      simpa using hne
    rw [List.eraseDups_cons, hf, ih hks]

/-- A table is made again from its entries. -/
theorem setAll_toList (t : Table α) : ({} : Table α).setAll t.toList = t := by
  refine eq_of_keys ?_ fun k => ?_
  · rw [keys_setAll]
    exact eraseDups_of_nodup t.nodup
  · rw [get?_setAll, get?_empty, Option.or_none]

end SetAll

section OfList

theorem ofList_append_singleton (es : List (Text × α)) (e : Text × α) :
    ofList (es ++ [e]) = (ofList es).setDefault e.1 e.2 := by
  rw [ofList, ofList, List.foldl_append, List.foldl_cons, List.foldl_nil]

/-- Among entries with different names, it does not matter which entry of a name counts. -/
theorem ofList_eq_setAll {es : List (Text × α)} (h : (es.map (·.1)).Nodup) :
    ofList es = ({} : Table α).setAll es := by
  induction es using List.reverseRecOn with
  | nil => rfl
  | append_singleton es e ih =>
    rw [List.map_append, List.nodup_append] at h
    obtain ⟨hes, -, hne⟩ := h
    have hg : (({} : Table α).setAll es).get? e.1 = none := by
      rw [get?_setAll_empty]
      have hf : es.filter (·.1 = e.1) = [] :=
        List.filter_eq_nil_iff.mpr fun f hf => by
          simpa using hne f.1 (List.mem_map_of_mem hf) e.1 (by simp)
      rw [hf]
      rfl
    rw [ofList_append_singleton, setAll_append_singleton, ih hes, setDefault, contains, hg]
    rfl

theorem ofList_map {β : Type v} (t : Table α) (f : Text → α → β) :
    ofList (t.toList.map fun e => (e.1, f e.1 e.2)) = t.map f :=
  (ofList_eq_setAll (t.map f).nodup).trans (setAll_toList (t.map f))

end OfList

theorem get?_map {β : Type v} (t : Table α) (f : Text → α → β) (k : Text) :
    (t.map f).get? k = (t.get? k).map (f k) := by
  obtain ⟨es, hes⟩ := t
  simp only [map, get?]
  clear hes
  induction es with
  | nil => rfl
  | cons e es ih =>
    by_cases h : e.1 = k
    · simp [h]
    · simpa [h] using ih

end Tangle.Table
