import Tangle.Session.Load
import Tangle.Proofs.Session.Slot

/-! # The overlay of hook functions

The bindings of a session are the caller's and the built-in hooks, overlaid with the hook functions of
the current table. A harvest makes this so from any session whose harvested slots cover what differs
from the base, and an installation keeps it. -/
namespace Tangle

/-- The table with a default for each entry that it lacks; the first entry of a name counts. -/
def Table.setDefaults {α : Type} (t : Table α) (es : List (Text × α)) : Table α :=
  es.foldl (fun t e => t.setDefault e.1 e.2) t

theorem Table.get?_setDefaults {α : Type} (t : Table α) (es : List (Text × α)) (k : Text) :
    (t.setDefaults es).get? k = (t.get? k).or ((es.find? (·.1 = k)).map (·.2)) := by
  induction es generalizing t with
  | nil => simp [setDefaults]
  | cons e es ih =>
    rw [setDefaults, List.foldl_cons, ← setDefaults, ih, get?_setDefault, List.find?_cons,
      Option.or_assoc]
    by_cases h : e.1 = k
    · simp [h]
    · simp [h]

namespace Session

/-- The session with other bindings, and the slots in which they come from hook functions. -/
def rebound (s : Session) (b : Bindings) (slots : List Slot) : Session :=
  { s with bindings := b, harvested := slots }

@[simp] theorem rebound_bindings (s : Session) (b : Bindings) (slots : List Slot) :
    (s.rebound b slots).bindings = b := rfl

@[simp] theorem rebound_base (s : Session) (b : Bindings) (slots : List Slot) :
    (s.rebound b slots).base = s.base := rfl

/-- The handler that the hook function of a slot is, if it is in the table. -/
def hook? (s : Session) (slot : Slot) : Option Handler :=
  (slot.functionName? s.settings).bind fun name =>
    (s.functions.get? name).bind fun source => (slot.handler name source).toOption

@[simp] theorem hook?_rebound (s : Session) (b : Bindings) (slots : List Slot) (slot : Slot) :
    (s.rebound b slots).hook? slot = s.hook? slot := rfl

theorem hook?_of_mem {s : Session} {e : Text × Text} {slot : Slot} (he : e ∈ s.functions.toList)
    (ho : Slot.ofName? s.settings e.1 = some slot) : s.hook? slot = (slot.handler e.1 e.2).toOption := by
  rw [hook?, Slot.ofName?_eq_some_iff.mp ho, Option.bind_some, Table.get?_eq_some_iff.mpr he,
    Option.bind_some]

theorem hook?_eq_none {s : Session} {slot : Slot}
    (h : ∀ e ∈ s.functions.toList, Slot.ofName? s.settings e.1 ≠ some slot) : s.hook? slot = none := by
  rw [hook?]
  cases hn : slot.functionName? s.settings with
  | none => rfl
  | some name =>
    cases hs : s.functions.get? name with
    | none => simp [hs]
    | some source =>
      have hm := Table.get?_eq_some_iff.mp hs
      exact absurd (Slot.ofName?_eq_some_iff.mpr hn) (h (name, source) hm)

/-- The functions `es` are bound in `b`, and all else is as it was in `b₀`. -/
structure Binds (settings : Settings) (es : List (Text × Text)) (b₀ b : Bindings) : Prop where
  frame : ∀ slot, (∀ e ∈ es, Slot.ofName? settings e.1 ≠ some slot) → b.handler? slot = b₀.handler? slot
  bound : ∀ e ∈ es, ∀ slot, Slot.ofName? settings e.1 = some slot →
    ∃ v, slot.handler e.1 e.2 = .ok v ∧ b.handler? slot = some v
  functions : b.functions = b₀.functions
  prelude : b.prelude = b₀.prelude

theorem Binds.nil (settings : Settings) (b : Bindings) : Binds settings [] b b :=
  ⟨fun _ _ => rfl, by simp, rfl, rfl⟩

theorem bindFunction_ok {s s' : Session} {e : Text × Text} (h : s.bindFunction e = .ok s') :
    ∃ b, s' = s.rebound b (s.harvested ++ (Slot.ofName? s.settings e.1).toList) ∧
      Binds s.settings [e] s.bindings b := by
  rw [bindFunction] at h
  cases ho : Slot.ofName? s.settings e.1 with
  | none =>
    simp only [ho] at h
    cases h
    refine ⟨s.bindings, by simp [rebound], fun _ _ => rfl, ?_, rfl, rfl⟩
    simp [ho]
  | some slot =>
    simp only [ho] at h
    obtain ⟨b, hb, h⟩ := bind_eq_ok.mp h
    cases h
    obtain ⟨v, hv, hj, hf, hp⟩ := Slot.bind_ok hb
    refine ⟨b, rfl, fun j hn => ?_, fun e' he j hoj => ?_, hf, hp⟩
    · have hne : slot ≠ j := fun hs => hn e (by simp) (hs ▸ ho)
      rw [hj, if_neg hne]
    · obtain rfl := List.mem_singleton.mp he
      obtain rfl := Option.some.inj (ho.symm.trans hoj)
      exact ⟨v, hv, by rw [hj, if_pos rfl]⟩

/-- A slot belongs to one name only, so a later function of another name leaves it alone. -/
theorem Binds.cons {settings : Settings} {e : Text × Text} {es : List (Text × Text)}
    {b₀ b₁ b₂ : Bindings} (h₁ : Binds settings [e] b₀ b₁) (h₂ : Binds settings es b₁ b₂)
    (hn : e.1 ∉ es.map (·.1)) : Binds settings (e :: es) b₀ b₂ := by
  refine ⟨fun slot h => ?_, fun f hf slot ho => ?_, h₂.functions.trans h₁.functions,
    h₂.prelude.trans h₁.prelude⟩
  · rw [h₂.frame slot fun f hf => h f (by simp [hf]), h₁.frame slot fun f hf => h f (by simp_all)]
  · rcases List.mem_cons.mp hf with rfl | hf
    · obtain ⟨v, hv, hb⟩ := h₁.bound f (by simp) slot ho
      refine ⟨v, hv, ?_⟩
      rw [h₂.frame slot fun g hg hog => ?_, hb]
      have he := (Slot.ofName?_eq_some_iff.mp ho).symm.trans (Slot.ofName?_eq_some_iff.mp hog)
      exact hn (List.mem_map.mpr ⟨g, hg, (Option.some.inj he).symm⟩)
    · exact h₂.bound f hf slot ho

theorem foldlM_bindFunction {es : List (Text × Text)} {s s' : Session}
    (h : es.foldlM bindFunction s = .ok s') (hn : (es.map (·.1)).Nodup) :
    ∃ b, s' = s.rebound b (s.harvested ++ es.filterMap (Slot.ofName? s.settings ·.1)) ∧
      Binds s.settings es s.bindings b := by
  induction es generalizing s with
  | nil =>
    cases h
    exact ⟨s'.bindings, by simp [rebound], .nil _ _⟩
  | cons e es ih =>
    rw [List.foldlM_cons] at h
    obtain ⟨s₁, h₁, h⟩ := bind_eq_ok.mp h
    obtain ⟨b₁, rfl, hb₁⟩ := bindFunction_ok h₁
    obtain ⟨hne, hn⟩ := List.nodup_cons.mp hn
    obtain ⟨b₂, rfl, hb₂⟩ := ih h hn
    refine ⟨b₂, ?_, hb₁.cons hb₂ hne⟩
    cases ho : Slot.ofName? s.settings e.1 <;> simp [rebound, ho]

theorem exists_foldlM_bindFunction {es : List (Text × Text)}
    (h : ∀ e ∈ es, ∃ d, Definition.read e.2 = .ok d) (s : Session) :
    ∃ s', es.foldlM bindFunction s = .ok s' := by
  induction es generalizing s with
  | nil => exact ⟨s, rfl⟩
  | cons e es ih =>
    have hb : ∃ s₁, s.bindFunction e = .ok s₁ := by
      rw [bindFunction]
      cases Slot.ofName? s.settings e.1 with
      | none => exact ⟨s, rfl⟩
      | some slot =>
        obtain ⟨d, hd⟩ := h e (by simp)
        obtain ⟨b, hb⟩ := Slot.exists_bind s.bindings e.1 hd slot
        simp only [hb]
        exact ⟨_, rfl⟩
    obtain ⟨s₁, hs₁⟩ := hb
    obtain ⟨s', hs'⟩ := ih (fun e he => h e (by simp [he])) s₁
    exact ⟨s', by rw [List.foldlM_cons, hs₁]; exact hs'⟩

theorem handler?_foldl_restore (base b : Bindings) (slots : List Slot) (j : Slot) :
    (slots.foldl (fun b slot => slot.restore base b) b).handler? j =
      if j ∈ slots then base.handler? j else b.handler? j := by
  induction slots generalizing b with
  | nil => simp
  | cons slot slots ih =>
    rw [List.foldl_cons, ih, Slot.handler?_restore]
    by_cases hm : j ∈ slots
    · simp [hm]
    · simp [hm, eq_comm]

theorem foldl_restore_code (base b : Bindings) (slots : List Slot) :
    (slots.foldl (fun b slot => slot.restore base b) b).functions = b.functions ∧
      (slots.foldl (fun b slot => slot.restore base b) b).prelude = b.prelude := by
  induction slots generalizing b with
  | nil => exact ⟨rfl, rfl⟩
  | cons slot slots ih =>
    obtain ⟨hf, hp⟩ := Slot.restore_code base b slot
    rw [List.foldl_cons, (ih _).1, (ih _).2]
    exact ⟨hf, hp⟩

/-- All that differs from the base stands in harvested slots. -/
structure Restorable (s : Session) : Prop where
  handler : ∀ slot, slot ∉ s.harvested → s.bindings.handler? slot = s.base.handler? slot
  functions : s.bindings.functions = s.base.functions
  prelude : s.bindings.prelude = s.base.prelude

/-- The bindings are those of the base with the hook functions of the table over them. -/
structure Overlaid (s : Session) : Prop extends Restorable s where
  overlay : ∀ slot, s.bindings.handler? slot = (s.hook? slot).or (s.base.handler? slot)
  readable : ∀ slot name source, Slot.functionName? s.settings slot = some name →
    s.functions.get? name = some source → ∃ v, Slot.handler name source slot = .ok v

theorem Binds.overlaid {s : Session} {b₀ b : Bindings} (hb : Binds s.settings s.functions.toList b₀ b)
    (hbase : ∀ slot, b₀.handler? slot = s.base.handler? slot) (hf : b₀.functions = s.base.functions)
    (hp : b₀.prelude = s.base.prelude) :
    (s.rebound b (s.functions.toList.filterMap (Slot.ofName? s.settings ·.1))).Overlaid where
  handler slot hm := by
    rw [rebound_bindings, rebound_base, ← hbase]
    refine hb.frame slot fun e he ho => hm ?_
    exact List.mem_filterMap.mpr ⟨e, he, ho⟩
  functions := hb.functions.trans hf
  prelude := hb.prelude.trans hp
  overlay slot := by
    rw [rebound_bindings, rebound_base, hook?_rebound, ← hbase]
    by_cases he : ∃ e ∈ s.functions.toList, Slot.ofName? s.settings e.1 = some slot
    · obtain ⟨e, he, ho⟩ := he
      obtain ⟨v, hv, hb⟩ := hb.bound e he slot ho
      rw [hook?_of_mem he ho, hv, hb]
      rfl
    · have hn : ∀ e ∈ s.functions.toList, Slot.ofName? s.settings e.1 ≠ some slot :=
        fun e hm ho => he ⟨e, hm, ho⟩
      rw [hook?_eq_none hn, Option.none_or, hb.frame slot hn]
  readable slot name source hn hs := by
    obtain ⟨v, hv, -⟩ := hb.bound (name, source) (Table.get?_eq_some_iff.mp hs) slot
      (Slot.ofName?_eq_some_iff.mpr hn)
    exact ⟨v, hv⟩

/-- The session without the bindings of its last harvest. -/
def restored (s : Session) : Session :=
  s.rebound (s.harvested.foldl (fun b slot => slot.restore s.base b) s.bindings) []

theorem harvest_eq (s : Session) : s.harvest = s.functions.toList.foldlM bindFunction s.restored := rfl

theorem harvest_ok {s s' : Session} (h : s.harvest = .ok s') (hs : s.Restorable) :
    s'.Overlaid ∧ ∃ b slots, s' = s.rebound b slots := by
  rw [harvest_eq] at h
  obtain ⟨b, rfl, hb⟩ := foldlM_bindFunction h s.functions.nodup
  obtain ⟨hf, hp⟩ := foldl_restore_code s.base s.bindings s.harvested
  refine ⟨?_, b, _, rfl⟩
  refine Binds.overlaid (s := s.restored) hb (fun slot => ?_) (hf.trans hs.functions)
    (hp.trans hs.prelude)
  refine (handler?_foldl_restore s.base s.bindings s.harvested slot).trans ?_
  split
  · rfl
  · next hm => exact hs.handler slot hm

end Session
end Tangle
