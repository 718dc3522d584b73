import Tangle.Proofs.Session.Run
import Tangle.Proofs.Table

/-! # Harvests that are repeated

A harvest undoes the one before it and binds the hook functions again. With the same functions nothing changes:
each slot holds what it held, and the names that were bound keep their places. -/
namespace Tangle

namespace Bindings

/-- The names in the three tables, in their order. -/
def names (b : Bindings) : List Text × List Text × List Text := (b.templates.keys, b.compilers.keys, b.after.keys)

/-- The names that the base binds, in the order of the tables. -/
def kept (base b : Bindings) : List Text × List Text × List Text :=
  (b.templates.keys.filter base.templates.contains, b.compilers.keys.filter base.compilers.contains,
    b.after.keys.filter base.after.contains)

/-- The bindings fill all slots that the base fills. -/
def Covers (base b : Bindings) : Prop := ∀ slot, (base.handler? slot).isSome → (b.handler? slot).isSome

theorem kept_of_handlers {base b : Bindings} (h : ∀ slot, b.handler? slot = base.handler? slot) :
    kept base b = b.names := by
  have hk {α : Type} {t base : Table α} (hg : ∀ l, (t.get? l).isSome = (base.get? l).isSome) :
      t.keys.filter base.contains = t.keys := by
    refine List.filter_eq_self.mpr fun l hl => ?_
    rw [Table.contains, ← hg]
    exact Table.isSome_get?_iff.mpr hl
  have hs (slot : Slot) : (b.handler? slot).isSome = (base.handler? slot).isSome := by rw [h]
  simp only [handler?] at hs
  rw [kept, names, hk, hk, hk]
  · exact fun l => by simpa using hs (.after l)
  · exact fun l => by simpa using hs (.compiler l)
  · exact fun l => by simpa using hs (.template l)

section Steps
variable {base b b' : Bindings} {slot : Slot}

theorem kept_restore (h : Covers base b) : kept base (slot.restore base b) = kept base b := by
  have he {α : Type} {base t : Table α} {l : Text} (ht : (base.get? l).isSome → l ∈ t.keys) :
      (Slot.restoreEntry base t l).keys.filter base.contains = t.keys.filter base.contains := by
    rw [Slot.restoreEntry]
    cases hl : base.get? l with
    | some v => exact Table.filter_keys_set ht v
    | none => exact Table.filter_keys_erase (by rw [Table.contains, hl]; rfl)
  have hs := h slot
  cases slot with
  | template l | compiler l | after l =>
    simp only [kept, Slot.restore]
    rw [he]
    simpa [handler?, Table.isSome_get?_iff] using hs
  | misc | fileHeader | fileFooter => rfl

theorem kept_bind {name source : Text} (h : Covers base b) (hb : slot.bind b name source = .ok b') :
    kept base b' = kept base b := by
  have hs := h slot
  cases slot with
  | template l | after l =>
    obtain ⟨t, -, hb⟩ := bind_eq_ok.mp hb
    cases hb
    simp only [kept]
    rw [Table.filter_keys_set]
    simpa [handler?, Table.contains, Table.isSome_get?_iff] using hs
  | compiler l =>
    cases hb
    simp only [kept]
    rw [Table.filter_keys_set]
    simpa [handler?, Table.contains, Table.isSome_get?_iff] using hs
  | misc | fileHeader | fileFooter =>
    cases hb
    rfl

theorem Covers.restore (h : Covers base b) : Covers base (slot.restore base b) := by
  intro j hj
  rw [Slot.handler?_restore]
  split
  · exact hj
  · exact h j hj

theorem Covers.bind {name source : Text} (h : Covers base b) (hb : slot.bind b name source = .ok b') :
    Covers base b' := by
  obtain ⟨v, -, hv, -⟩ := Slot.bind_ok hb
  intro j hj
  rw [hv]
  split
  · rfl
  · exact h j hj

theorem kept_foldl_restore (h : Covers base b) (slots : List Slot) :
    kept base (slots.foldl (fun b slot => slot.restore base b) b) = kept base b := by
  induction slots generalizing b with
  | nil => rfl
  | cons slot slots ih =>
    rw [List.foldl_cons, ih h.restore, kept_restore h]

/-- Bindings are given by what their slots hold, by the order of their names and by the code they come with. -/
theorem eq_of_names (hn : b.names = b'.names) (hh : ∀ slot, b.handler? slot = b'.handler? slot)
    (hf : b.functions = b'.functions) (hp : b.prelude = b'.prelude) : b = b' := by
  obtain ⟨hnt, hn⟩ := Prod.mk.inj hn
  obtain ⟨hnc, hna⟩ := Prod.mk.inj hn
  have ht : b.templates = b'.templates :=
    Table.eq_of_keys hnt fun l => Option.map_injective (fun _ _ => Handler.template.inj) (hh (.template l))
  have hc : b.compilers = b'.compilers :=
    Table.eq_of_keys hnc fun l => Option.map_injective (fun _ _ => Handler.compiler.inj) (hh (.compiler l))
  have ha : b.after = b'.after :=
    Table.eq_of_keys hna fun l => Option.map_injective (fun _ _ => Handler.template.inj) (hh (.after l))
  have hm : b.misc = b'.misc := Option.map_injective (fun _ _ => Handler.misc.inj) (hh .misc)
  have hfh : b.fileHeader = b'.fileHeader := Option.map_injective (fun _ _ => Handler.file.inj) (hh .fileHeader)
  have hff : b.fileFooter = b'.fileFooter := Option.map_injective (fun _ _ => Handler.file.inj) (hh .fileFooter)
  cases b
  cases b'
  simp only at ht hc ha hm hfh hff hf hp
  rw [ht, hc, ha, hm, hfh, hff, hf, hp]

end Steps

/-- All slots hold the same, and the code is the same. -/
structure Agrees (b b' : Bindings) : Prop where
  handler : ∀ slot, b.handler? slot = b'.handler? slot
  functions : b.functions = b'.functions
  prelude : b.prelude = b'.prelude

end Bindings

namespace Session
variable {s s' : Session}

theorem kept_foldlM_bindFunction {es : List (Text × Text)} (h : es.foldlM bindFunction s = .ok s')
    (hc : Bindings.Covers s.base s.bindings) :
    Bindings.kept s.base s'.bindings = Bindings.kept s.base s.bindings ∧
      Bindings.Covers s.base s'.bindings := by
  induction es generalizing s with
  | nil =>
    cases h
    exact ⟨rfl, hc⟩
  | cons e es ih =>
    rw [List.foldlM_cons] at h
    obtain ⟨s₁, h₁, h⟩ := bind_eq_ok.mp h
    rw [bindFunction] at h₁
    cases ho : Slot.ofName? s.settings e.1 with
    | none =>
      simp only [ho] at h₁
      cases h₁
      exact ih h hc
    | some slot =>
      simp only [ho] at h₁
      obtain ⟨b, hb, h₁⟩ := bind_eq_ok.mp h₁
      cases h₁
      obtain ⟨hk, hc'⟩ := ih h (hc.bind hb)
      exact ⟨hk.trans (Bindings.kept_bind hc hb), hc'⟩

/-- The slots of the hook functions in the table. -/
def hookSlots (s : Session) : List Slot := s.functions.keys.filterMap (Slot.ofName? s.settings)

theorem mem_hookSlots {slot : Slot} :
    slot ∈ s.hookSlots ↔ ∃ e ∈ s.functions.toList, Slot.ofName? s.settings e.1 = some slot := by
  rw [hookSlots, Table.keys, List.filterMap_map, List.mem_filterMap]
  rfl

theorem hook?_of_not_mem_hookSlots {slot : Slot} (h : slot ∉ s.hookSlots) : s.hook? slot = none :=
  hook?_eq_none fun e he ho => h (mem_hookSlots.mpr ⟨e, he, ho⟩)

theorem harvest_binds (h : s.harvest = .ok s') : ∃ b, s' = s.rebound b s.hookSlots ∧
    Binds s.settings s.functions.toList s.restored.bindings b := by
  rw [harvest_eq] at h
  obtain ⟨b, rfl, hb⟩ := foldlM_bindFunction h s.functions.nodup
  have hnames : s.functions.toList.filterMap (Slot.ofName? s.settings ·.1) = s.hookSlots := by
    rw [hookSlots, Table.keys, List.filterMap_map]
    rfl
  exact ⟨b, by rw [← hnames]; rfl, hb⟩

theorem handler?_restored (s : Session) (slot : Slot) : s.restored.bindings.handler? slot =
    if slot ∈ s.harvested then s.base.handler? slot else s.bindings.handler? slot :=
  handler?_foldl_restore s.base s.bindings s.harvested slot

theorem exists_hook (h : s.harvest = .ok s') {slot : Slot} (hm : slot ∈ s.hookSlots) :
    ∃ v, s.hook? slot = some v ∧ s'.bindings.handler? slot = some v := by
  obtain ⟨b, rfl, hb⟩ := harvest_binds h
  obtain ⟨e, he, ho⟩ := mem_hookSlots.mp hm
  obtain ⟨v, hv, hbound⟩ := hb.bound e he slot ho
  exact ⟨v, by rw [hook?_of_mem he ho, hv]; rfl, hbound⟩

theorem handler?_of_not_mem_hookSlots (h : s.harvest = .ok s') {slot : Slot} (hm : slot ∉ s.hookSlots) :
    s'.bindings.handler? slot = s.restored.bindings.handler? slot := by
  obtain ⟨b, rfl, hb⟩ := harvest_binds h
  exact hb.frame slot fun e he ho => hm (mem_hookSlots.mpr ⟨e, he, ho⟩)

/-- After a harvest a slot holds its hook function, and else what it held before the last harvest. -/
theorem handler?_harvest (h : s.harvest = .ok s') (slot : Slot) : s'.bindings.handler? slot =
    (s.hook? slot).or (s.restored.bindings.handler? slot) := by
  by_cases hm : slot ∈ s.hookSlots
  · obtain ⟨v, hv, hb⟩ := exists_hook h hm
    rw [hv, hb, Option.some_or]
  · rw [hook?_of_not_mem_hookSlots hm, Option.none_or, handler?_of_not_mem_hookSlots h hm]

theorem Restorable.handler?_restored (hs : s.Restorable) (slot : Slot) :
    s.restored.bindings.handler? slot = s.base.handler? slot := by
  rw [Session.handler?_restored]
  by_cases hm : slot ∈ s.harvested
  · rw [if_pos hm]
  · rw [if_neg hm, hs.handler slot hm]

theorem restored_code (s : Session) : s.restored.bindings.functions = s.bindings.functions ∧
    s.restored.bindings.prelude = s.bindings.prelude :=
  foldl_restore_code s.base s.bindings s.harvested

/-- To undo a harvest is to go back to the bindings before it, down to the order of the names. -/
theorem restored_of_harvest (h : s.harvest = .ok s') (hs : s.Restorable) : s'.restored = s.restored := by
  have hc : Bindings.Covers s.base s.restored.bindings := fun slot hslot => by rwa [hs.handler?_restored]
  obtain ⟨hkept, hcovers⟩ := kept_foldlM_bindFunction (harvest_eq s ▸ h) hc
  obtain ⟨b, rfl, hb⟩ := harvest_binds h
  have hbase (slot : Slot) :
      (s.rebound b s.hookSlots).restored.bindings.handler? slot = s.base.handler? slot := by
    refine (handler?_restored _ slot).trans ?_
    split
    · rfl
    · next hm => rw [handler?_of_not_mem_hookSlots h hm, hs.handler?_restored]
  have hnames : (s.rebound b s.hookSlots).restored.bindings.names = s.restored.bindings.names := by
    rw [← Bindings.kept_of_handlers hbase, ← Bindings.kept_of_handlers hs.handler?_restored]
    exact (Bindings.kept_foldl_restore hcovers s.hookSlots).trans hkept
  obtain ⟨hf, hp⟩ := restored_code (s.rebound b s.hookSlots)
  have he := Bindings.eq_of_names hnames (fun slot => (hbase slot).trans (hs.handler?_restored slot).symm)
    (hf.trans hb.functions) (hp.trans hb.prelude)
  exact congrArg (s.rebound · []) he

/-- A harvest that is repeated binds the same again. If the bindings before it were the caller's but for the
harvested slots, not even the order of the names changes. -/
theorem harvest_again (hd : Defines s.functions) (h : s.harvest = .ok s') :
    ∃ b, s'.harvest = .ok (s'.rebound b s'.harvested) ∧ b.Agrees s'.bindings ∧
      (s.Restorable → b = s'.bindings) := by
  have hsame : s.Restorable → s'.harvest = .ok s' := by
    intro hs
    have hr := restored_of_harvest h hs
    obtain ⟨b, rfl, -⟩ := harvest_binds h
    rw [harvest_eq, hr]
    exact h
  obtain ⟨b₁, rfl, hb₁⟩ := harvest_binds h
  obtain ⟨s₂, h₂⟩ := exists_harvest (s := s.rebound b₁ s.hookSlots) hd
  obtain ⟨b₂, rfl, hb₂⟩ := harvest_binds h₂
  obtain ⟨hf, hp⟩ := restored_code (s.rebound b₁ s.hookSlots)
  refine ⟨b₂, h₂, ⟨fun slot => ?_, hb₂.functions.trans hf, hb₂.prelude.trans hp⟩, fun hs => ?_⟩
  · refine (handler?_harvest h₂ slot).trans ?_
    rw [hook?_rebound, handler?_restored]
    by_cases hm : slot ∈ s.hookSlots
    · obtain ⟨v, hv, hb⟩ := exists_hook h hm
      rw [hv, hb, Option.some_or]
    · rw [hook?_of_not_mem_hookSlots hm, Option.none_or]
      exact if_neg hm
  · exact congrArg bindings (Except.ok.inj (h₂.symm.trans (hsame hs)))

/-- The session goes on with the state and the hook functions of a dump. What it had harvested before gives way
to the caller's bindings first; and from its start on, all that does not come from the caller is harvested. -/
structure TakesOver (s s' : Session) (d : Dump) : Prop where
  functions : s'.functions = d.table
  options : s'.options = readOptions (Text.decode d.held.options)
  state : s'.state = Text.decode d.held.values ++ "\n" ++ Text.join "\n" d.table.values
  harvested : s'.harvested = d.table.keys.filterMap (Slot.ofName? s.settings)
  handler : ∀ slot, s'.bindings.handler? slot = (s'.hook? slot).or
    (if slot ∈ s.harvested then s.base.handler? slot else s.bindings.handler? slot)
  overlay : s.Restorable → ∀ slot, s'.bindings.handler? slot = (s'.hook? slot).or (s.base.handler? slot)
  code : s'.bindings.functions = s.bindings.functions ∧ s'.bindings.prelude = s.bindings.prelude
  frame : s' = { s with
    functions := s'.functions, options := s'.options, state := s'.state, harvested := s'.harvested
    bindings := s'.bindings, runCount := s'.runCount, dump := s'.dump }

theorem takesOver_of_harvest {d : Dump} (h : (s.resumed d).harvest = .ok s') : s.TakesOver s' d := by
  have hrestored := (s.resumed d).handler?_restored
  obtain ⟨hf, hp⟩ := restored_code (s.resumed d)
  obtain ⟨b, rfl, hb⟩ := harvest_binds h
  refine ⟨rfl, rfl, rfl, rfl, fun slot => ?_, fun hs slot => ?_, ⟨hb.functions.trans hf, hb.prelude.trans hp⟩, rfl⟩
  · exact (handler?_harvest h slot).trans (congrArg _ (hrestored slot))
  · have hr : (s.resumed d).Restorable := ⟨hs.handler, hs.functions, hs.prelude⟩
    exact (handler?_harvest h slot).trans (congrArg _ (hr.handler?_restored slot))

end Session
end Tangle
