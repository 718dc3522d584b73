import Tangle.Fragment
import Tangle.Proofs.Quoting.Word

/-! # Collected data and the arrays of a script

The command that appends a block to the array of its language is read back as the name of the array and
the bytes of the block. So commands that are evaluated in order build the arrays that were recorded. -/
namespace Tangle

theorem isIdentifier_of_mem {l : Text} {s : Symbol} (h : s ∈ identifierFragment l) :
    s.isIdentifier = true := by
  obtain ⟨c, -, rfl⟩ := List.mem_map.mp h
  split
  · next hc => exact hc
  · decide

theorem identifierFragment_eq {l : Text} (h : ∀ s ∈ l, s.isIdentifier = true) :
    identifierFragment l = l := by
  rw [identifierFragment]
  exact (List.map_congr_left fun s hs => if_pos (h s hs)).trans (List.map_id l)

@[simp] theorem identifierFragment_identifierFragment (l : Text) :
    identifierFragment (identifierFragment l) = identifierFragment l :=
  identifierFragment_eq fun _ => isIdentifier_of_mem

namespace Table
variable {β : Type}

/-- Appends a value to the list of a name. -/
def push (t : Table (List β)) (e : Text × β) : Table (List β) := t.set e.1 ((t.get? e.1).getD [] ++ [e.2])

/-- The values of a name, in order. -/
def valuesOf (es : List (Text × β)) (k : Text) : List β := (es.filter (·.1 = k)).map (·.2)

theorem valuesOf_cons (e : Text × β) (es : List (Text × β)) (k : Text) :
    valuesOf (e :: es) k = if e.1 = k then e.2 :: valuesOf es k else valuesOf es k := by
  by_cases h : e.1 = k <;> simp [valuesOf, h]

theorem get?_foldl_push (t : Table (List β)) (es : List (Text × β)) (k : Text) :
    (es.foldl push t).get? k =
      if valuesOf es k = [] then t.get? k else some ((t.get? k).getD [] ++ valuesOf es k) := by
  induction es generalizing t with
  | nil => rfl
  | cons e es ih =>
    rw [List.foldl_cons, ih, push, get?_set, valuesOf_cons]
    by_cases h : e.1 = k
    · rw [if_pos h, if_pos h, h]
      by_cases hv : valuesOf es k = [] <;> simp [hv]
    · rw [if_neg h, if_neg h]

end Table

namespace Collection

/-- What has been recorded for languages and contents, one after the other. -/
def recorded (c : Collection) (es : List (Text × Text)) : Collection :=
  es.foldl (fun c e => c.add e.1 e.2) c

theorem recorded_eq (c : Collection) (es : List (Text × Text)) :
    c.recorded es = (es.map fun e => (identifierFragment e.1, e.2)).foldl Table.push c := by
  rw [recorded, List.foldl_map]
  rfl

/-- The contents that were recorded for the languages of a name. -/
def contentsOf (es : List (Text × Text)) (k : Text) : List Text :=
  (es.filter fun e => identifierFragment e.1 = k).map (·.2)

theorem valuesOf_recorded (es : List (Text × Text)) (k : Text) :
    Table.valuesOf (es.map fun e => (identifierFragment e.1, e.2)) k = contentsOf es k := by
  simp [Table.valuesOf, contentsOf, List.filter_map, Function.comp_def]

theorem get?_recorded (es : List (Text × Text)) (k : Text) :
    (recorded {} es).get? k = if contentsOf es k = [] then none else some (contentsOf es k) := by
  rw [recorded_eq, Table.get?_foldl_push, valuesOf_recorded]
  simp

theorem getD_recorded (es : List (Text × Text)) (k : Text) :
    ((recorded {} es).get? k).getD [] = contentsOf es k := by
  rw [get?_recorded]
  split
  · next h => exact h.symm
  · rfl

/-- The array and the element of a command that appends a word. The name of the array begins with a
stem. -/
def readAppend (stem t : Text) : Option (Text × Bytes) := do
  let rest ← t.after? stem
  let word ← Text.after? (rest.dropWhile Symbol.isIdentifier) "+=("
  let (value, behind) ← Quoting.readWord word.encode
  if behind = Text.encode ")\n" then some (stem ++ rest.takeWhile Symbol.isIdentifier, value) else none

/-- The arrays that commands build, from the first command to the last. -/
def evaluate (stem : Text) (ts : List Text) : Option (Table (List Bytes)) :=
  ts.foldlM (fun arrays t => (readAppend stem t).map arrays.push) {}

/-- The command that appends a content to the array of a language. -/
def Appends (stem : Text) (e : Text × Text) (t : Text) : Prop :=
  ∃ quoted, Quoting.word e.2 = .ok quoted ∧ t = Fragment.append stem (identifierFragment e.1) quoted

theorem readAppend_appends {stem t : Text} {e : Text × Text} (h : Appends stem e t) :
    readAppend stem t = some (stem ++ identifierFragment e.1, e.2.encode) := by
  obtain ⟨quoted, hw, rfl⟩ := h
  have hq : quoted = Quoting.quote e.2 := by
    rw [Quoting.word] at hw
    split at hw <;> cases hw
    rfl
  have hk : ∀ s ∈ identifierFragment e.1, s.isIdentifier = true := fun _ => isIdentifier_of_mem
  have hs : Text.after? (Fragment.append stem (identifierFragment e.1) quoted) stem =
      some (identifierFragment e.1 ++ ("+=(" ++ (quoted ++ ")\n"))) := by
    rw [Text.after?_eq_some_iff, Fragment.append]
    simp only [List.append_assoc]
  have hd : (identifierFragment e.1 ++ ("+=(" ++ (quoted ++ ")\n"))).dropWhile Symbol.isIdentifier =
      "+=(" ++ (quoted ++ ")\n") := by
    rw [List.dropWhile_append_of_pos hk]
    rfl
  have ht : (identifierFragment e.1 ++ ("+=(" ++ (quoted ++ ")\n"))).takeWhile Symbol.isIdentifier =
      identifierFragment e.1 := by
    rw [List.takeWhile_append_of_pos hk, show ∀ u : Text, ("+=(" ++ u).takeWhile Symbol.isIdentifier = []
      from fun _ => rfl, List.append_nil]
  have ha : Text.after? ("+=(" ++ (quoted ++ ")\n")) "+=(" = some (quoted ++ ")\n") :=
    Text.after?_eq_some_iff.mpr rfl
  have hb : Quoting.IsBoundary (Text.encode ")\n") := by
    intro b hb
    cases hb
    decide
  have hr : Quoting.readWord (Text.encode (quoted ++ ")\n")) = some (e.2.encode, Text.encode ")\n") := by
    rw [Text.encode_append, hq]
    exact Quoting.readWord_part (Quoting.readPart_quote _ _) hb
  simp only [readAppend, hs, hd, ha, hr, ht, Option.bind_eq_bind, Option.bind_some, if_true]

/-- The arrays that a script builds and the collection that is recorded beside it both hold the contents
of some blocks, under the names of their languages. -/
structure Mirrors (stem : Text) (es : List (Text × Text)) (arrays : Table (List Bytes))
    (data : Collection) : Prop where
  elements : ∀ k, arrays.get? (stem ++ k) = (data.get? k).map (·.map Text.encode)
  names : ∀ name, arrays.contains name = true → ∃ k, name = stem ++ k
  values : ∀ k, (data.get? k).getD [] = contentsOf es k
  keys : ∀ k contents, data.get? k = some contents → contents ≠ [] ∧ (∀ s ∈ k, s.isIdentifier = true) ∧
    ∃ e ∈ es, k = identifierFragment e.1 ∧ k.length = e.1.length
  lookup : ∀ l, data.contents l = contentsOf es (identifierFragment l) ∧
    data.contents l = data.contents (identifierFragment l)

theorem exists_of_mem_contentsOf {es : List (Text × Text)} {k content : Text} (h : content ∈ contentsOf es k) :
    ∃ e ∈ es, k = identifierFragment e.1 ∧ content = e.2 := by
  obtain ⟨e, hf, rfl⟩ := List.mem_map.mp h
  obtain ⟨he, hk⟩ := List.mem_filter.mp hf
  exact ⟨e, he, (of_decide_eq_true hk).symm, rfl⟩

/-- Commands build the arrays that hold what was recorded, byte for byte. -/
theorem mirrors_recorded {stem : Text} {es : List (Text × Text)} {ts : List Text}
    (h : List.Forall₂ (Appends stem) es ts) :
    ∃ arrays, evaluate stem ts = some arrays ∧ Mirrors stem es arrays (recorded {} es) := by
  let named (e : Text × Text) : Text × Bytes := (stem ++ identifierFragment e.1, e.2.encode)
  have hf : ∀ arrays, ts.foldlM (fun arrays t => (readAppend stem t).map arrays.push) arrays =
      some ((es.map named).foldl Table.push arrays) := by
    induction h with
    | nil => exact fun _ => rfl
    | cons he _ ih =>
      intro arrays
      rw [List.foldlM_cons, readAppend_appends he]
      exact ih _
  have hv : ∀ k, Table.valuesOf (es.map named) (stem ++ k) = (contentsOf es k).map Text.encode := fun k => by
    simp [Table.valuesOf, contentsOf, List.filter_map, Function.comp_def, named]
  refine ⟨_, hf {}, fun k => ?_, fun name hn => ?_, getD_recorded es, fun k contents hk => ?_,
    fun l => ⟨getD_recorded _ _, ?_⟩⟩
  · rw [Table.get?_foldl_push, hv, get?_recorded]
    by_cases hc : contentsOf es k = [] <;> simp [hc]
  · rw [Table.contains, Table.get?_foldl_push] at hn
    obtain ⟨v, hm⟩ : ∃ v, v ∈ Table.valuesOf (es.map named) name := by
      by_contra he
      push Not at he
      rw [if_pos (List.eq_nil_iff_forall_not_mem.mpr he)] at hn
      cases hn
    obtain ⟨e, he, -⟩ := List.mem_map.mp hm
    obtain ⟨he, hk⟩ := List.mem_filter.mp he
    obtain ⟨f, -, rfl⟩ := List.mem_map.mp he
    exact ⟨identifierFragment f.1, (of_decide_eq_true hk).symm⟩
  · rw [get?_recorded] at hk
    split at hk
    · cases hk
    · next hne =>
      cases hk
      obtain ⟨content, hm⟩ := List.exists_mem_of_ne_nil _ hne
      obtain ⟨e, he, rfl, -⟩ := exists_of_mem_contentsOf hm
      exact ⟨hne, fun _ => isIdentifier_of_mem, e, he, rfl, identifierFragment_length _⟩
  · rw [Collection.contents, Collection.contents, identifierFragment_identifierFragment]

end Collection
end Tangle
