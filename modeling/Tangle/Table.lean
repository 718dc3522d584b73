import Tangle.Text.Basic

/-! # Tables

A table binds names to values and remembers the order in which the names were first bound. No name is
bound twice. -/
namespace Tangle

structure Table (α : Type u) where
  entries : List (Text × α)
  nodup : (entries.map (·.1)).Nodup
deriving Repr

namespace Table
variable {α : Type u} {β : Type v}

def empty : Table α := ⟨[], List.nodup_nil⟩

instance : EmptyCollection (Table α) := ⟨empty⟩

def toList (t : Table α) : List (Text × α) := t.entries

def keys (t : Table α) : List Text := t.entries.map (·.1)

def values (t : Table α) : List α := t.entries.map (·.2)

def get? (t : Table α) (k : Text) : Option α := (t.entries.find? (·.1 = k)).map (·.2)

def contains (t : Table α) (k : Text) : Bool := (t.get? k).isSome

def putEntry (k : Text) (v : α) : List (Text × α) → List (Text × α)
  | [] => [(k, v)]
  | e :: es => if e.1 = k then (k, v) :: es else e :: putEntry k v es

theorem mem_keys_putEntry {k j : Text} {v : α} {es : List (Text × α)} :
    j ∈ (putEntry k v es).map (·.1) ↔ j = k ∨ j ∈ es.map (·.1) := by
  induction es with
  | nil => simp [putEntry]
  | cons e es ih =>
    by_cases h : e.1 = k
    · simp [putEntry, h]
    · simp only [putEntry, if_neg h, List.map_cons, List.mem_cons, ih]
      exact or_left_comm

theorem nodup_putEntry {k : Text} {v : α} {es : List (Text × α)} (h : (es.map (·.1)).Nodup) :
    ((putEntry k v es).map (·.1)).Nodup := by
  induction es with
  | nil => simp [putEntry]
  | cons e es ih =>
    have he := List.nodup_cons.mp h
    by_cases hk : e.1 = k
    · rw [List.map_cons, hk] at h
      rwa [putEntry, if_pos hk]
    · simp only [putEntry, if_neg hk, List.map_cons, List.nodup_cons, mem_keys_putEntry, not_or]
      exact ⟨⟨hk, he.1⟩, ih he.2⟩

/-- Binds `k` in its old place, or at the end if it was unbound. -/
def set (t : Table α) (k : Text) (v : α) : Table α := ⟨putEntry k v t.entries, nodup_putEntry t.nodup⟩

/-- The entries that satisfy `p`. -/
def filter (p : Text × α → Bool) (t : Table α) : Table α :=
  ⟨t.entries.filter p, t.nodup.sublist (List.filter_sublist.map _)⟩

def erase (t : Table α) (k : Text) : Table α := t.filter (·.1 ≠ k)

def setAll (t : Table α) (es : List (Text × α)) : Table α := es.foldl (fun t e => t.set e.1 e.2) t

/-- Binds `k` only if it is unbound. -/
def setDefault (t : Table α) (k : Text) (v : α) : Table α := if t.contains k then t else t.set k v

/-- The table of a list of entries; the first entry of a name counts. -/
def ofList (es : List (Text × α)) : Table α := es.foldl (fun t e => t.setDefault e.1 e.2) {}

/-- The table with each value replaced by one made from its name and itself. -/
def map (f : Text → α → β) (t : Table α) : Table β :=
  ⟨t.entries.map fun e => (e.1, f e.1 e.2), by simpa [Function.comp_def] using t.nodup⟩

@[simp] theorem get?_set (t : Table α) (k j : Text) (v : α) :
    (t.set k v).get? j = if k = j then some v else t.get? j := by
  obtain ⟨es, hes⟩ := t
  simp only [set, get?]
  clear hes
  induction es with
  | nil => by_cases h : k = j <;> simp [putEntry, h]
  | cons e es ih =>
    by_cases he : e.1 = k
    · by_cases h : k = j <;> simp [putEntry, he, h]
    · by_cases h : k = j
      · subst h; simp [putEntry, he, ih]
      · by_cases hj : e.1 = j <;> simp_all [putEntry]

@[simp] theorem get?_erase (t : Table α) (k j : Text) :
    (t.erase k).get? j = if k = j then none else t.get? j := by
  obtain ⟨es, hes⟩ := t
  simp only [erase, filter, get?]
  clear hes
  induction es with
  | nil => by_cases h : k = j <;> simp [h]
  | cons e es ih =>
    by_cases he : e.1 = k
    · by_cases h : k = j <;> simp_all
    · by_cases h : k = j
      · subst h; simp_all
      · by_cases hj : e.1 = j <;> simp_all

@[simp] theorem get?_empty (k : Text) : ({} : Table α).get? k = none := rfl

@[simp] theorem get?_setDefault (t : Table α) (k j : Text) (v : α) :
    (t.setDefault k v).get? j = (t.get? j).or (if k = j then some v else none) := by
  unfold setDefault contains
  split
  · next h =>
    by_cases hj : k = j
    · obtain ⟨w, hw⟩ := Option.isSome_iff_exists.mp h
      simp [← hj, hw]
    · simp [hj]
  · next h =>
    have hn : t.get? k = none := by simpa using h
    by_cases hj : k = j
    · simp [← hj, hn]
    · simp [hj]

/-- A table holds an entry exactly if its name is looked up to its value. -/
theorem get?_eq_some_iff {t : Table α} {k : Text} {v : α} :
    t.get? k = some v ↔ (k, v) ∈ t.toList := by
  obtain ⟨es, hes⟩ := t
  simp only [get?, toList]
  induction es with
  | nil => simp
  | cons e es ih =>
    have he := List.nodup_cons.mp hes
    by_cases hk : e.1 = k
    · subst hk
      have hn : ∀ w, (e.1, w) ∉ es := fun w hw => he.1 (List.mem_map.mpr ⟨_, hw, rfl⟩)
      simp only [List.find?_cons, decide_true, Option.map_some, Option.some.injEq, List.mem_cons, hn,
        or_false]
      exact ⟨fun h => h ▸ rfl, fun h => (congrArg Prod.snd h).symm⟩
    · have hne : (k, v) ≠ e := fun h => hk (congrArg Prod.fst h).symm
      simpa [List.find?_cons, hk, hne] using ih he.2

end Table
end Tangle
