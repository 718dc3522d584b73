import Tangle.Session.Basic
import Tangle.Proofs.Success
import Mathlib.Tactic.Common

/-! # Slots of the bindings

A slot holds at most one handler. Each hook name belongs to one slot, and to bind or to restore a slot
leaves all other slots alone. -/
namespace Tangle

namespace Settings

theorem hookName_eq (s : Settings) {kind language : Text} (hk : kind.startsWith "file-" = false)
    (hl : language ≠ []) : s.hookName kind language = s.hookName kind [] ++ "-" ++ language := by
  simp [hookName, hk, hl]

end Settings

/-- What a slot can hold. -/
inductive Handler where
  | template (t : Template)
  | compiler (h : CompileHook)
  | misc (h : MiscHook)
  | file (h : FileHook)

def Bindings.handler? (b : Bindings) : Slot → Option Handler
  | .template l => (b.templates.get? l).map .template
  | .compiler l => (b.compilers.get? l).map .compiler
  | .after l => (b.after.get? l).map .template
  | .misc => b.misc.map .misc
  | .fileHeader => b.fileHeader.map .file
  | .fileFooter => b.fileFooter.map .file

namespace Slot

/-- The name of the hook function of a slot. The empty language has none. -/
def functionName? (s : Settings) : Slot → Option Text
  | template l => if l = [] then none else some (s.hookName "lang" l)
  | compiler l => if l = [] then none else some (s.hookName "compile" l)
  | after l => if l = [] then none else some (s.hookName "after" l)
  | misc => some (s.hookName "misc" [])
  | fileHeader => some (s.hookName "file-header" [])
  | fileFooter => some (s.hookName "file-footer" [])

/-- What stands behind the stem in the name of the hook function. -/
def ending : Slot → Text
  | template l => "-lang-" ++ l
  | compiler l => "-compile-" ++ l
  | after l => "-after-" ++ l
  | misc => "-misc"
  | fileHeader => ":file-header"
  | fileFooter => ":file-footer"

theorem ending_injective {a b : Slot} (h : a.ending = b.ending) : a = b := by
  cases a <;> cases b <;> simp_all [ending, Text.ofString]

theorem functionName?_eq {s : Settings} {slot : Slot} {name : Text}
    (h : slot.functionName? s = some name) : name = s.hookStem ++ slot.ending := by
  cases slot with
  | template l | compiler l | after l =>
    rw [functionName?] at h
    split at h
    · cases h
    · next hl =>
      cases h
      simp [Settings.hookName, ending, hl, Text.startsWith, Text.ofString]
  | misc | fileHeader | fileFooter =>
    cases h
    simp [Settings.hookName, ending, Text.startsWith, Text.ofString]

theorem functionName?_injective {s : Settings} {a b : Slot} {name : Text}
    (ha : a.functionName? s = some name) (hb : b.functionName? s = some name) : a = b := by
  have he := (functionName?_eq ha).symm.trans (functionName?_eq hb)
  exact ending_injective (List.append_cancel_left he)

theorem afterStem?_eq_some_iff {stem name l : Text} :
    afterStem? stem name = some l ↔ l ≠ [] ∧ name = stem ++ l := by
  rw [afterStem?]
  split
  · next c r h =>
    rw [Text.after?_eq_some_iff] at h
    subst h
    constructor
    · intro he
      cases he
      exact ⟨List.cons_ne_nil _ _, rfl⟩
    · rintro ⟨-, he⟩
      rw [List.append_cancel_left he]
  · next h =>
    simp only [reduceCtorEq, false_iff]
    rintro ⟨hl, rfl⟩
    obtain ⟨c, r, rfl⟩ := List.exists_cons_of_ne_nil hl
    exact h c r (Text.after?_eq_some_iff.mpr rfl)

theorem afterStem?_hookName {s : Settings} {kind name l : Text} (hk : kind.startsWith "file-" = false) :
    afterStem? (s.hookName kind [] ++ "-") name = some l ↔
      (if l = [] then none else some (s.hookName kind l)) = some name := by
  rw [afterStem?_eq_some_iff]
  by_cases hl : l = []
  · simp [hl]
  · simp [hl, s.hookName_eq hk hl, eq_comm]

theorem functionName?_of_ofName? {s : Settings} {name : Text} {slot : Slot}
    (h : ofName? s name = some slot) : slot.functionName? s = some name := by
  rw [ofName?] at h
  split at h
  · next hl =>
    cases h
    exact (afterStem?_hookName (by decide)).mp hl
  split at h
  · next hl =>
    cases h
    exact (afterStem?_hookName (by decide)).mp hl
  split at h
  · next hl =>
    cases h
    exact (afterStem?_hookName (by decide)).mp hl
  split at h
  · next hn =>
    cases h
    exact congrArg some hn.symm
  split at h
  · next hn =>
    cases h
    exact congrArg some hn.symm
  split at h
  · next hn =>
    cases h
    exact congrArg some hn.symm
  · cases h

/-- No name is left over: the six patterns are tried one after the other. -/
theorem exists_ofName? {s : Settings} {name : Text} {slot : Slot}
    (h : slot.functionName? s = some name) : ∃ a, ofName? s name = some a := by
  rw [← Option.isSome_iff_exists, Option.isSome_iff_ne_none]
  intro hn
  rw [ofName?] at hn
  split at hn
  · cases hn
  next hlang =>
  split at hn
  · cases hn
  next hcompile =>
  split at hn
  · cases hn
  next hafter =>
  split at hn
  · cases hn
  next hmisc =>
  split at hn
  · cases hn
  next hheader =>
  split at hn
  · cases hn
  next hfooter =>
  cases slot with
  | template l => exact absurd ((afterStem?_hookName (by decide)).mpr h) (by simp [hlang])
  | compiler l => exact absurd ((afterStem?_hookName (by decide)).mpr h) (by simp [hcompile])
  | after l => exact absurd ((afterStem?_hookName (by decide)).mpr h) (by simp [hafter])
  | misc => exact hmisc (Option.some.inj h).symm
  | fileHeader => exact hheader (Option.some.inj h).symm
  | fileFooter => exact hfooter (Option.some.inj h).symm

theorem ofName?_eq_some_iff {s : Settings} {name : Text} {slot : Slot} :
    ofName? s name = some slot ↔ slot.functionName? s = some name := by
  constructor
  · exact functionName?_of_ofName?
  · intro h
    obtain ⟨a, ha⟩ := exists_ofName? h
    rw [ha, functionName?_injective (functionName?_of_ofName? ha) h]

theorem exists_read_of_templateOf {name source : Text} {v : Handler}
    (h : Handler.template <$> templateOf name source = .ok v) : ∃ d, Definition.read source = .ok d := by
  obtain ⟨t, ht, -⟩ := map_eq_ok.mp h
  obtain ⟨d, hd, -⟩ := map_eq_ok.mp ht
  exact ⟨d, hd⟩

/-- The handler that a hook function is for a slot. -/
def handler (name source : Text) : Slot → Except DefinitionFault Handler
  | template _ | after _ => Handler.template <$> templateOf name source
  | compiler _ => .ok (.compiler (.shell name))
  | misc => .ok (.misc (.shell name))
  | fileHeader | fileFooter => .ok (.file (.shell name))

theorem handler?_restore (base b : Bindings) (slot j : Slot) :
    (slot.restore base b).handler? j = if slot = j then base.handler? j else b.handler? j := by
  have he {α : Type} (base t : Table α) (k i : Text) :
      (restoreEntry base t k).get? i = if k = i then base.get? i else t.get? i := by
    rw [restoreEntry]
    split
    · next v hv =>
      by_cases hk : k = i
      · simp [← hk, hv]
      · simp [hk]
    · next hv =>
      by_cases hk : k = i
      · simp [← hk, hv]
      · simp [hk]
  cases slot with
  | template l | compiler l | after l =>
    cases j <;> simp [restore, Bindings.handler?, he]
    split <;> rfl
  | misc | fileHeader | fileFooter => cases j <;> simp [restore, Bindings.handler?]

theorem restore_code (base b : Bindings) (slot : Slot) :
    (slot.restore base b).functions = b.functions ∧ (slot.restore base b).prelude = b.prelude := by
  cases slot <;> exact ⟨rfl, rfl⟩

/-- To bind a slot is to put the handler in its place. -/
theorem bind_ok {b b' : Bindings} {name source : Text} {slot : Slot}
    (h : slot.bind b name source = .ok b') : ∃ v, slot.handler name source = .ok v ∧
      (∀ j, b'.handler? j = if slot = j then some v else b.handler? j) ∧
      b'.functions = b.functions ∧ b'.prelude = b.prelude := by
  cases slot with
  | template l | after l =>
    obtain ⟨t, ht, h⟩ := bind_eq_ok.mp h
    cases h
    refine ⟨.template t, by rw [handler, ht]; rfl, fun j => ?_, rfl, rfl⟩
    cases j <;> simp [Bindings.handler?]
    split <;> rfl
  | compiler l =>
    cases h
    refine ⟨_, rfl, fun j => ?_, rfl, rfl⟩
    cases j <;> simp [Bindings.handler?]
    split <;> rfl
  | misc | fileHeader | fileFooter =>
    cases h
    refine ⟨_, rfl, fun j => ?_, rfl, rfl⟩
    cases j <;> simp [Bindings.handler?]

theorem exists_bind (b : Bindings) (name : Text) {source : Text} {d : Definition}
    (h : Definition.read source = .ok d) (slot : Slot) : ∃ b', slot.bind b name source = .ok b' := by
  have ht : templateOf name source = .ok ⟨d.bodyText, name⟩ := by
    rw [templateOf, h]
    rfl
  cases slot with
  | template l | after l => exact ⟨_, by rw [bind, ht]; rfl⟩
  | compiler l | misc | fileHeader | fileFooter => exact ⟨_, rfl⟩

end Slot
end Tangle
