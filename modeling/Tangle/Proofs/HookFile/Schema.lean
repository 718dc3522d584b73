import Tangle.HookFile
import Tangle.Proofs.Success
import Tangle.Proofs.Table

/-! # What a hook file may hold

A hook file has parts: four tables of texts, three names of functions and a prelude. Each part stands under a key of
its own, and no other keys are allowed. A file is accepted exactly if its entries give all of them, its functions
define themselves, and its hooks name functions. -/
namespace Tangle.HookFile
open Yaml (Value Document)

/-! Parts -/

section
variable (d : Document) (config : Entries)

/-- A key is missing or has nothing for its value. -/
def IsAbsent (key : Text) : Prop := Value.get? config key = none ∨ Value.get? config key = some .null

/-- A key and its value, which is a text, both as texts. -/
def IsRow (e : Value × Value) (row : Text × Text) : Prop := e.1.keyText = .ok row.1 ∧ e.2 = .text row.2

/-- What an optional key gives: what its value stands for, or nothing if there is none. A false value of another kind
passes for nothing too. -/
inductive Gives {α : Type} (key : Text) (R : Value → α → Prop) (nothing : α) : α → Prop
  | absent (h : IsAbsent config key) : Gives key R nothing nothing
  | value {v : Value} {a : α} (h : Value.get? config key = some v) (hr : R v a) : Gives key R nothing a
  | void {v : Value} (h : Value.get? config key = some v) (hv : d.isVoid v = true) (hn : v ≠ .null)
      (hr : ∀ a, ¬ R v a) : Gives key R nothing nothing

/-- A mapping of texts as a table. Of rows whose keys read alike, the last one counts. -/
def IsTable (v : Value) (t : Table Text) : Prop :=
  ∃ i rows, v = .map i ∧ List.Forall₂ IsRow (d.entries i) rows ∧ t = ({} : Table Text).setAll rows

def IsSection (key : Text) (t : Table Text) : Prop := Gives d config key (IsTable d) {} t

def IsPrelude (t : Text) : Prop := Gives d config "prelude" (fun v t => v = .text t) [] t

/-- The function that a key names. -/
inductive IsHook (functions : Table Text) (key : Text) : Option Text → Prop
  | absent (h : IsAbsent config key) : IsHook functions key none
  | named {n : Text} (h : Value.get? config key = some (.text n)) (hn : functions.contains n = true) :
      IsHook functions key (some n)

/-- Each function has a source that defines it. -/
def DefineThemselves (functions : Table Text) : Prop :=
  ∀ name source, functions.get? name = some source → definedName source = .ok name

/-- What a hook file gives. -/
structure Parts where
  functions : Table Text
  templates : Table Text
  after : Table Text
  compilers : Table Text
  misc : Option Text
  fileHeader : Option Text
  fileFooter : Option Text
  prelude : Text

def Parts.bindings (path : Text) (p : Parts) : Bindings where
  templates := HookFile.templates path "templates" p.templates
  compilers := p.compilers.map fun _ n => .shell n
  after := HookFile.templates path "after" p.after
  misc := p.misc.map .shell
  fileHeader := p.fileHeader.map .shell
  fileFooter := p.fileFooter.map .shell
  functions := p.functions
  prelude := p.prelude

/-- Every key is one of the known ones. -/
def KeysKnown : Prop := ∀ e ∈ config, ∃ k ∈ knownKeys, e.1 = .text k

/-- The entries at the top of a file give these parts. -/
structure Parts.Fits (p : Parts) : Prop where
  known : KeysKnown config
  functions : IsSection d config "functions" p.functions
  defined : DefineThemselves p.functions
  templates : IsSection d config "templates" p.templates
  after : IsSection d config "after" p.after
  compilers : IsSection d config "compilers" p.compilers
  compiled : ∀ e ∈ p.compilers.toList, p.functions.contains e.2 = true
  misc : IsHook config p.functions "misc" p.misc
  fileHeader : IsHook config p.functions "file_header" p.fileHeader
  fileFooter : IsHook config p.functions "file_footer" p.fileFooter
  prelude : IsPrelude d config p.prelude

end

section
variable {d : Document} {config : Entries} {key : Text}

theorem IsAbsent.eq_null {v : Value} (h : IsAbsent config key) (hv : Value.get? config key = some v) :
    v = .null := by
  rcases h with h | h
  · cases h.symm.trans hv
  · exact (Option.some.inj (h.symm.trans hv)).symm

theorem keyText_eq_ok {v : Value} {t : Text} : keyText v = .ok t ↔ v.keyText = .ok t := by
  rw [keyText]
  cases v.keyText <;> simp [Except.mapError]

theorem textEntry_eq_ok {e : Value × Value} {r : Value × Text} :
    textEntry key e = .ok r ↔ e = (r.1, .text r.2) := by
  obtain ⟨k, v⟩ := e
  obtain ⟨k', t⟩ := r
  cases v with
  | text s => simp [textEntry, pure, Except.pure]
  | _ => cases hk : keyText k <;> simp [textEntry, hk, bind, Except.bind, throw, throwThe, MonadExceptOf.throw]

/-- The two passes over the entries of a section succeed as one. -/
theorem rows_eq_ok {es : List (Value × Value)} {rows : List (Text × Text)} :
    (es.mapM (textEntry key) >>= fun es => es.mapM fun e => do return (← keyText e.1, e.2)) = .ok rows ↔
      List.Forall₂ IsRow es rows := by
  have hrow : ∀ e row, (textEntry key e >>= fun e => do return (← keyText e.1, e.2)) = .ok row ↔ IsRow e row := by
    rintro ⟨k, v⟩ ⟨n, t⟩
    simp only [bind_eq_ok, textEntry_eq_ok, keyText_eq_ok, IsRow]
    constructor
    · rintro ⟨r, he, m, hm, hr⟩
      cases he
      cases hr
      exact ⟨hm, rfl⟩
    · rintro ⟨hk, hv⟩
      cases hv
      exact ⟨(k, t), rfl, n, hk, rfl⟩
  simp only [mapM_mapM_eq_ok, hrow]

/-- The table of a section is made once both passes are over. -/
theorem table_eq (es : List (Value × Value)) : (do
    let es ← es.mapM (textEntry key)
    return ({} : Table Text).setAll (← es.mapM fun e => do return (← keyText e.1, e.2))) =
    (es.mapM (textEntry key) >>= fun es => es.mapM fun e => do return (← keyText e.1, e.2)) >>=
      fun rows => (pure (({} : Table Text).setAll rows) : Except Fault (Table Text)) := by
  rw [bind_assoc]

theorem present?_eq_none_iff :
    present? d config key = none ↔ ∀ v, Value.get? config key = some v → d.isVoid v = true := by
  simp [present?, Option.filter_eq_none_iff]

theorem present?_eq_some_iff {v : Value} :
    present? d config key = some v ↔ Value.get? config key = some v ∧ d.isVoid v = false := by
  simp [present?, Option.filter_eq_some_iff]

section
variable {α : Type} {R : Value → α → Prop} {nothing a : α}

/-- A void value of the right kind stands for nothing, so no void value gives anything. -/
theorem gives_of_void (h : present? d config key = none) (hR : ∀ v a, d.isVoid v = true → R v a → a = nothing) :
    Gives d config key R nothing a ↔ a = nothing := by
  have hv := present?_eq_none_iff.mp h
  constructor
  · rintro (- | ⟨h, hr⟩ | -)
    · rfl
    · exact hR _ _ (hv _ h) hr
    · rfl
  · rintro rfl
    cases hg : Value.get? config key with
    | none => exact .absent (.inl hg)
    | some v =>
      by_cases hn : v = .null
      · exact .absent (.inr (hn ▸ hg))
      · by_cases hr : ∃ b, R v b
        · obtain ⟨b, hb⟩ := hr
          exact hR v b (hv v hg) hb ▸ .value hg hb
        · exact .void hg (hv v hg) hn (not_exists.mp hr)

/-- A value that is not void gives what it stands for. -/
theorem gives_of_present {v : Value} (h : present? d config key = some v) : Gives d config key R nothing a ↔ R v a := by
  obtain ⟨hg, hv⟩ := present?_eq_some_iff.mp h
  constructor
  · rintro (ha | ⟨h, hr⟩ | ⟨h, hvoid, -, -⟩)
    · cases ha.eq_null hg
      cases hv
    · cases hg.symm.trans h
      exact hr
    · cases hg.symm.trans h
      cases hv.symm.trans hvoid
  · exact .value hg

end

theorem texts_eq_ok {t : Table Text} : texts d config key = .ok t ↔ IsSection d config key t := by
  have hempty (v : Value) (t : Table Text) (hv : d.isVoid v = true) (ht : IsTable d v t) : t = {} := by
    obtain ⟨i, rows, rfl, hr, rfl⟩ := ht
    rw [List.isEmpty_iff.mp hv, List.forall₂_nil_left_iff] at hr
    rw [hr]
    rfl
  rw [texts, IsSection]
  split
  · next h =>
    rw [gives_of_void h hempty]
    exact ⟨fun he => (Except.ok.inj he).symm, fun he => he ▸ rfl⟩
  · next i h =>
    rw [table_eq, gives_of_present h, bind_eq_ok]
    simp only [rows_eq_ok]
    constructor
    · rintro ⟨rows, hr, he⟩
      cases he
      exact ⟨i, rows, rfl, hr, rfl⟩
    · rintro ⟨j, rows, he, hr, rfl⟩
      cases he
      exact ⟨rows, hr, rfl⟩
  · next v hm h =>
    rw [gives_of_present h]
    refine ⟨nofun, ?_⟩
    rintro ⟨i, -, he, -⟩
    exact absurd (he ▸ rfl) (hm i)

theorem checkFunction_eq_ok {f : Text × Text} : checkFunction f = .ok () ↔ definedName f.2 = .ok f.1 := by
  rw [checkFunction]
  split
  · next h => simp [h]
  · next h => simp [h]

theorem checkFunctions_eq_ok {functions : Table Text} :
    functions.toList.forM checkFunction = .ok () ↔ DefineThemselves functions := by
  rw [show functions.toList.forM checkFunction = forM functions.toList checkFunction from rfl, forM_eq_ok]
  simp only [checkFunction_eq_ok, DefineThemselves, Table.get?_eq_some_iff, Prod.forall]

theorem functionNamed_eq_ok {functions : Table Text} {v : Value} {n : Text} :
    functionNamed functions key v = .ok n ↔ v = .text n ∧ functions.contains n = true := by
  cases v with
  | text m =>
    rw [functionNamed]
    split
    · next h =>
      rw [Except.ok.injEq, Value.text.injEq]
      exact ⟨fun he => ⟨he, he ▸ h⟩, (·.1)⟩
    · next h =>
      refine ⟨nofun, ?_⟩
      rintro ⟨he, hn⟩
      cases he
      exact absurd hn h
  | _ => simp [functionNamed]

theorem hook?_eq_ok {functions : Table Text} {n : Option Text} :
    hook? config functions key = .ok n ↔ IsHook config functions key n := by
  have hnone (h : IsAbsent config key) : (Except.ok none : Except Fault (Option Text)) = .ok n ↔
      IsHook config functions key n := by
    constructor
    · intro he
      cases he
      exact .absent h
    · rintro (- | ⟨hg, -⟩)
      · rfl
      · cases h.eq_null hg
  rw [hook?]
  split
  · next h => exact hnone (.inl h)
  · next h => exact hnone (.inr h)
  · next v hn h =>
    rw [map_eq_ok]
    simp only [functionNamed_eq_ok]
    constructor
    · rintro ⟨m, ⟨rfl, hm⟩, rfl⟩
      exact .named h hm
    · rintro (ha | ⟨hg, hm⟩)
      · exact absurd (ha.eq_null h) hn
      · cases h.symm.trans hg
        exact ⟨_, ⟨rfl, hm⟩, rfl⟩

theorem prelude_eq_ok {t : Text} : prelude d config = .ok t ↔ IsPrelude d config t := by
  have hempty (v : Value) (t : Text) (hv : d.isVoid v = true) (ht : v = .text t) : t = [] := by
    subst ht
    exact List.isEmpty_iff.mp hv
  rw [prelude, IsPrelude]
  split
  · next h =>
    rw [gives_of_void h hempty]
    exact ⟨fun he => (Except.ok.inj he).symm, fun he => he ▸ rfl⟩
  · next s h => rw [gives_of_present h, Except.ok.injEq, Value.text.injEq]
  · next v ht h =>
    rw [gives_of_present h]
    exact ⟨nofun, fun he => absurd (he ▸ rfl) (ht t)⟩

theorem compiler_eq_ok {functions : Table Text} {e : Text × Text} {row : Text × CompileHook} :
    compiler functions e = .ok row ↔ functions.contains e.2 = true ∧ row = (e.1, .shell e.2) := by
  simp only [compiler, bind_eq_ok, functionNamed_eq_ok, Value.text.injEq]
  constructor
  · rintro ⟨n, ⟨rfl, hn⟩, he⟩
    cases he
    exact ⟨hn, rfl⟩
  · rintro ⟨hn, rfl⟩
    exact ⟨e.2, ⟨rfl, hn⟩, rfl⟩

theorem isKnown_iff {v : Value} : isKnown v = true ↔ ∃ k ∈ knownKeys, v = .text k := by
  cases v <;> simp [isKnown]

theorem unknown_isEmpty_iff :
    ((config.map (·.1)).filter (!isKnown ·)).isEmpty = true ↔ KeysKnown config := by
  simp only [List.isEmpty_iff, List.filter_eq_nil_iff, List.forall_mem_map, KeysKnown, Bool.not_eq_true',
    Bool.not_eq_false, isKnown_iff]

/-- A file is accepted exactly if its entries give the parts of the bindings. -/
theorem bindings_eq_ok {path : Text} {b : Bindings} :
    bindings path d config = .ok b ↔ ∃ p : Parts, p.Fits d config ∧ b = p.bindings path := by
  simp only [bindings]
  split
  · next h =>
    refine ⟨nofun, ?_⟩
    rintro ⟨p, hp, -⟩
    simp [unknown_isEmpty_iff.mpr hp.known] at h
  · next h =>
    have hk : KeysKnown config := unknown_isEmpty_iff.mp (by simpa using h)
    simp only [bind_eq_ok, texts_eq_ok, mapM_checked_eq_ok fun _ _ => compiler_eq_ok, hook?_eq_ok, prelude_eq_ok]
    constructor
    · rintro ⟨functions, hf, ⟨⟩, hd, languages, hl, after, ha, names, hc, rows, ⟨hn, rfl⟩, misc, hm, header, hh,
        footer, hfoot, prelude, hp, he⟩
      refine ⟨⟨functions, languages, after, names, misc, header, footer, prelude⟩,
        ⟨hk, hf, checkFunctions_eq_ok.mp hd, hl, ha, hc, hn, hm, hh, hfoot, hp⟩, ?_⟩
      cases he
      rw [Parts.bindings, Table.ofList_map names fun _ n => CompileHook.shell n]
    · rintro ⟨p, hp, rfl⟩
      refine ⟨p.functions, hp.functions, (), checkFunctions_eq_ok.mpr hp.defined, p.templates, hp.templates,
        p.after, hp.after, p.compilers, hp.compilers, _, ⟨hp.compiled, rfl⟩, p.misc, hp.misc,
        p.fileHeader, hp.fileHeader, p.fileFooter, hp.fileFooter, p.prelude, hp.prelude, ?_⟩
      rw [Table.ofList_map p.compilers fun _ n => CompileHook.shell n]
      rfl

end
end Tangle.HookFile
