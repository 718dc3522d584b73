import Tangle.Proofs.Files.Tree
import Tangle.Proofs.HookFile.Schema

/-! # How hook files are refused

A hook file that is not accepted is refused with a fault that names what is wrong with it. This fails for a file that
is no text, for keys at the top that are no texts, and for integers that are too long to be written out as keys: such
a failure escapes, as do those that come about while the values of scalars are made. -/
namespace Tangle.HookFile
open Yaml (Value Document)

section
variable {d : Document} {config : Entries} {key : Text}

/-! Failures -/

/-- A failure with a fault that is none of the file. -/
def Escapes {α : Type} (x : Except Fault α) : Prop := ∃ f, x = .error f ∧ f.isOfFile = false

section
variable {α β : Type}

@[simp] theorem not_escapes_ok (a : α) : ¬ Escapes (.ok a) := nofun

@[simp] theorem not_escapes_pure (a : α) : ¬ Escapes (pure a) := not_escapes_ok a

@[simp] theorem escapes_error {f : Fault} : Escapes (.error f : Except Fault α) ↔ f.isOfFile = false :=
  ⟨fun ⟨_, he, hf⟩ => Except.error.inj he ▸ hf, fun h => ⟨f, rfl, h⟩⟩

@[simp] theorem escapes_throw {f : Fault} : Escapes (throw f : Except Fault α) ↔ f.isOfFile = false := escapes_error

instance (x : Except Fault α) : Decidable (Escapes x) :=
  match x with
  | .ok a => .isFalse (not_escapes_ok a)
  | .error _ => decidable_of_iff _ escapes_error.symm

theorem escapes_bind {x : Except Fault α} {g : α → Except Fault β} :
    Escapes (x >>= g) ↔ Escapes x ∨ ∃ a, x = .ok a ∧ Escapes (g a) := by
  cases x with
  | ok a => simp [bind, Except.bind]
  | error f => simp [bind, Except.bind]

theorem escapes_map {x : Except Fault α} {g : α → β} : Escapes (g <$> x) ↔ Escapes x := by
  cases x with
  | ok a => simp [Functor.map, Except.map]
  | error f => simp [Functor.map, Except.map]

theorem escapes_mapM {f : α → Except Fault β} {xs : List α} : Escapes (xs.mapM f) ↔
    ∃ before x after, xs = before ++ x :: after ∧ (∀ b ∈ before, ∃ y, f b = .ok y) ∧ Escapes (f x) := by
  simp only [Escapes, mapM_eq_error]
  constructor
  · rintro ⟨e, ⟨before, x, after, hx, hb, hf⟩, he⟩
    exact ⟨before, x, after, hx, hb, e, hf, he⟩
  · rintro ⟨before, x, after, hx, hb, e, hf, he⟩
    exact ⟨e, ⟨before, x, after, hx, hb, hf⟩, he⟩

theorem not_escapes_mapM {f : α → Except Fault β} (h : ∀ x, ¬ Escapes (f x)) (xs : List α) :
    ¬ Escapes (xs.mapM f) := by
  rw [escapes_mapM]
  rintro ⟨-, x, -, -, -, hx⟩
  exact h x hx

/-- If steps fail in no other way than to escape, so does the first of them that fails. -/
theorem escapes_mapM_of {f : α → Except Fault β} (h : ∀ x, (∃ y, f x = .ok y) ∨ Escapes (f x)) {xs : List α} :
    Escapes (xs.mapM f) ↔ ∃ x ∈ xs, Escapes (f x) := by
  rw [escapes_mapM]
  constructor
  · rintro ⟨before, x, after, rfl, -, hx⟩
    exact ⟨x, by simp, hx⟩
  · rintro ⟨x, hx, he⟩
    induction xs with
    | nil => cases hx
    | cons y ys ih =>
      rcases h y with hy | hy
      · rcases List.mem_cons.mp hx with rfl | hx
        · exact ⟨[], x, ys, rfl, nofun, he⟩
        · obtain ⟨before, z, after, rfl, hb, hz⟩ := ih hx
          exact ⟨y :: before, z, after, rfl, List.forall_mem_cons.mpr ⟨hy, hb⟩, hz⟩
      · exact ⟨[], y, ys, rfl, nofun, hy⟩

theorem not_escapes_forM {f : α → Except Fault Unit} (h : ∀ x, ¬ Escapes (f x)) (xs : List α) :
    ¬ Escapes (xs.forM f) := by
  induction xs with
  | nil => exact not_escapes_ok ()
  | cons x xs ih =>
    rw [List.forM_eq_forM, List.forM_cons, escapes_bind]
    rintro (hx | ⟨-, -, hxs⟩)
    · exact h x hx
    · exact ih hxs

end

/-- An integer of too many digits to be written out. -/
def IsLong (v : Value) : Prop := ∃ n : Int, v = .int n ∧ 10 ^ Value.mostDigits ≤ n.natAbs

theorem escapes_keyText {v : Value} : Escapes (keyText v) ↔ IsLong v := by
  cases v with
  | int n =>
    simp only [keyText, Value.keyText, IsLong, Value.int.injEq, exists_eq_left']
    split
    · next h => simp [h, Except.mapError, Fault.isOfFile]
    · next h => simp [h, Except.mapError]
  | _ => simp [keyText, Value.keyText, Except.mapError, IsLong]

/-- A key is written out unless it is too long. -/
theorem keyText_ends (v : Value) : (∃ t, keyText v = .ok t) ∨ Escapes (keyText v) := by
  cases h : keyText v with
  | ok t => exact .inl ⟨t, rfl⟩
  | error f =>
    right
    cases v with
    | int n =>
      rw [keyText, Value.keyText] at h
      split at h <;> cases h
      exact escapes_error.mpr rfl
    | _ => cases h

theorem exists_textEntry {e : Value × Value} : (∃ r, textEntry key e = .ok r) ↔ ∃ s, e.2 = .text s := by
  simp only [textEntry_eq_ok]
  constructor
  · rintro ⟨r, rfl⟩
    exact ⟨r.2, rfl⟩
  · rintro ⟨s, h⟩
    exact ⟨(e.1, s), Prod.ext rfl h⟩

/-- A fault of a value names its key, which may be too long for that. -/
theorem escapes_textEntry {e : Value × Value} :
    Escapes (textEntry key e) ↔ (∀ s, e.2 ≠ .text s) ∧ IsLong e.1 := by
  obtain ⟨k, v⟩ := e
  by_cases h : ∃ s, v = .text s
  · obtain ⟨s, rfl⟩ := h
    exact ⟨fun he => absurd he (not_escapes_ok (k, s)), fun he => absurd rfl (he.1 s)⟩
  · have he : textEntry key (k, v) = keyText k >>= fun n => .error (.entryNotText key n) := by
      cases v with
      | text s => exact absurd ⟨s, rfl⟩ h
      | _ => rfl
    simp only [he, escapes_bind, escapes_keyText, escapes_error, Fault.isOfFile]
    simpa using fun _ => not_exists.mp h

/-- A key of a section is met that cannot be written out: that of the first value that is no text, or any key if all
values are texts. -/
inductive MeetsLong (d : Document) (config : Entries) (key : Text) : Prop
  | faulty {i : Nat} {before behind : Entries} {e : Value × Value} (h : Value.get? config key = some (.map i))
      (hs : d.entries i = before ++ e :: behind) (ht : ∀ r ∈ before, ∃ s, r.2 = .text s) (hv : ∀ s, e.2 ≠ .text s)
      (hl : IsLong e.1)
  | among {i : Nat} {e : Value × Value} (h : Value.get? config key = some (.map i)) (he : e ∈ d.entries i)
      (ht : ∀ r ∈ d.entries i, ∃ s, r.2 = .text s) (hl : IsLong e.1)

section
variable {r : Value × Text}

theorem escapes_named : Escapes (do return (← keyText r.1, r.2) : Except Fault (Text × Text)) ↔ IsLong r.1 := by
  rw [escapes_bind, escapes_keyText]
  exact or_iff_left fun ⟨_, _, h⟩ => not_escapes_pure _ h

theorem named_ends (r : Value × Text) :
    (∃ row, (do return (← keyText r.1, r.2) : Except Fault (Text × Text)) = .ok row) ∨
      Escapes (do return (← keyText r.1, r.2) : Except Fault (Text × Text)) := by
  rcases keyText_ends r.1 with ⟨t, ht⟩ | hl
  · exact .inl ⟨(t, r.2), by rw [ht]; rfl⟩
  · exact .inr (escapes_bind.mpr (.inl hl))

end

/-- The first pass over the entries of a section stops at a value that is no text, so the second one only meets the
keys of texts. -/
theorem escapes_rows {es : List (Value × Value)} :
    Escapes (es.mapM (textEntry key) >>= fun es => es.mapM fun e => do return (← keyText e.1, e.2)) ↔
      (∃ before e behind, es = before ++ e :: behind ∧ (∀ r ∈ before, ∃ s, r.2 = .text s) ∧
        (∀ s, e.2 ≠ .text s) ∧ IsLong e.1) ∨
      (∀ r ∈ es, ∃ s, r.2 = .text s) ∧ ∃ e ∈ es, IsLong e.1 := by
  have hok (rs : List (Value × Text)) :
      es.mapM (textEntry key) = .ok rs ↔ es = rs.map fun r => (r.1, .text r.2) := by
    rw [mapM_eq_ok, ← List.forall₂_eq_eq_eq, List.forall₂_map_right_iff]
    simp only [textEntry_eq_ok]
  rw [escapes_bind, escapes_mapM]
  simp only [exists_textEntry, escapes_textEntry, escapes_mapM_of named_ends, escapes_named, hok]
  refine or_congr Iff.rfl ⟨?_, ?_⟩
  · rintro ⟨rs, rfl, r, hr, hl⟩
    refine ⟨fun e he => ?_, _, List.mem_map_of_mem hr, hl⟩
    obtain ⟨q, -, rfl⟩ := List.mem_map.mp he
    exact ⟨q.2, rfl⟩
  · rintro ⟨ht, e, he, hl⟩
    have hes : es.map (fun e => (e.1, Value.text ((text? e.2).getD []))) = es := by
      conv_rhs => rw [← List.map_id es]
      refine List.map_congr_left fun r hr => ?_
      obtain ⟨s, hs⟩ := ht r hr
      exact Prod.ext rfl (by simp [hs, text?])
    exact ⟨es.map fun e => (e.1, (text? e.2).getD []), by rw [List.map_map]; exact hes.symm, _,
      List.mem_map_of_mem he, hl⟩

/-- The texts of a section are read without an escape unless a long key is met. -/
theorem escapes_texts : Escapes (texts d config key) ↔ MeetsLong d config key := by
  rw [texts]
  split
  · next h =>
    have hv := present?_eq_none_iff.mp h
    refine ⟨fun he => absurd he (not_escapes_pure _), ?_⟩
    rintro (⟨hg, hs, -⟩ | ⟨hg, he, -⟩)
    · rw [List.isEmpty_iff.mp (hv _ hg)] at hs
      simp at hs
    · rw [List.isEmpty_iff.mp (hv _ hg)] at he
      cases he
  · next i h =>
    obtain ⟨hg, -⟩ := present?_eq_some_iff.mp h
    rw [table_eq, escapes_bind, escapes_rows]
    constructor
    · rintro ((⟨before, e, behind, hs, ht, hv, hl⟩ | ⟨ht, e, he, hl⟩) | ⟨rows, -, hp⟩)
      · exact .faulty hg hs ht hv hl
      · exact .among hg he ht hl
      · exact absurd hp (not_escapes_pure _)
    · rintro (⟨hi, hs, ht, hv, hl⟩ | ⟨hi, he, ht, hl⟩)
      · cases hg.symm.trans hi
        exact .inl (.inl ⟨_, _, _, hs, ht, hv, hl⟩)
      · cases hg.symm.trans hi
        exact .inl (.inr ⟨ht, _, he, hl⟩)
  · next v hm h =>
    obtain ⟨hg, -⟩ := present?_eq_some_iff.mp h
    refine ⟨fun he => absurd (escapes_throw.mp he) (by simp [Fault.isOfFile]), ?_⟩
    rintro (⟨hi, -⟩ | ⟨hi, -⟩)
    · exact absurd (Option.some.inj (hg.symm.trans hi)) (hm _)
    · exact absurd (Option.some.inj (hg.symm.trans hi)) (hm _)

/-- A section can be read, and if it is that of the functions, they define themselves. -/
def InOrder (d : Document) (config : Entries) (key : Text) : Prop :=
  ∃ t, IsSection d config key t ∧ (key = ("functions" : Text) → DefineThemselves t)

/-- One of some sections meets a long key, and those before it are in order. -/
def MeetsFirst (d : Document) (config : Entries) : List Text → Prop
  | [] => False
  | key :: keys => MeetsLong d config key ∨ InOrder d config key ∧ MeetsFirst d config keys

/-- The sections, as they are read one after the other. -/
def sectionKeys : List Text := ["functions", "templates", "after", "compilers"]

theorem classOf_eq_text_iff {v : Value} : classOf v = .text ↔ ∃ t, v = .text t := by
  cases v with
  | moment m =>
    simp only [classOf]
    split
    · simp
    · split <;> simp
  | _ => simp [classOf]

/-- Unknown keys are a fault of the file if all of them are texts. -/
theorem isOfFile_unknownFault {path : Text} {keys : List Value} :
    (unknownFault path keys).isOfFile = false ↔ ∃ k ∈ keys, ∀ t, k ≠ .text t := by
  cases keys with
  | nil => simp [unknownFault, Fault.isOfFile]
  | cons k ks =>
    have hclass (v : Value) : (∀ t, v ≠ .text t) ↔ classOf v ≠ .text := by
      rw [ne_eq, classOf_eq_text_iff, not_exists]
    simp only [hclass, unknownFault]
    split
    · next h =>
      obtain ⟨v, hv, hne⟩ := List.any_eq_true.mp h
      have hne : classOf v ≠ classOf k := of_decide_eq_true hne
      refine ⟨fun _ => ?_, fun _ => rfl⟩
      by_cases hk : classOf k = .text
      · exact ⟨v, List.mem_cons_of_mem k hv, fun ht => hne (ht.trans hk.symm)⟩
      · exact ⟨k, List.mem_cons_self, hk⟩
    · next h =>
      have hall : ∀ v ∈ k :: ks, classOf v = classOf k := by
        refine List.forall_mem_cons.mpr ⟨rfl, fun v hv => ?_⟩
        by_contra hne
        exact h (List.any_eq_true.mpr ⟨v, hv, decide_eq_true hne⟩)
      have hiff : (∃ v ∈ k :: ks, classOf v ≠ .text) ↔ classOf k ≠ .text := by
        constructor
        · rintro ⟨v, hv, hne⟩
          rwa [hall v hv] at hne
        · exact fun hne => ⟨k, List.mem_cons_self, hne⟩
      rw [hiff]
      split
      · next hk => simp [hk, Fault.isOfFile]
      · next hk => simp [hk, Fault.isOfFile]
      · next hk _ => exact ⟨fun _ => hk, fun _ => rfl⟩

theorem not_escapes_checkFunction (f : Text × Text) : ¬ Escapes (checkFunction f) := by
  rw [checkFunction]
  split
  · simp [Fault.isOfFile]
  · split <;> simp [Fault.isOfFile]

theorem not_escapes_functionNamed (functions : Table Text) (v : Value) :
    ¬ Escapes (functionNamed functions key v) := by
  cases v with
  | text n =>
    rw [functionNamed]
    split <;> simp [Fault.isOfFile]
  | _ => simp [functionNamed, Fault.isOfFile]

theorem not_escapes_compiler (functions : Table Text) (e : Text × Text) : ¬ Escapes (compiler functions e) := by
  rw [compiler, escapes_bind]
  rintro (h | ⟨n, -, h⟩)
  · exact not_escapes_functionNamed functions _ h
  · exact not_escapes_pure _ h

theorem not_escapes_hook? (functions : Table Text) : ¬ Escapes (hook? config functions key) := by
  rw [hook?]
  split
  · exact not_escapes_ok none
  · exact not_escapes_ok none
  · rw [escapes_map]
    exact not_escapes_functionNamed functions _

theorem not_escapes_prelude : ¬ Escapes (prelude d config) := by
  rw [prelude]
  split <;> simp [Fault.isOfFile]

/-- Unknown keys are looked for first, and then the sections are read in their order. No other part of a file lets a
failure escape. -/
theorem escapes_bindings {path : Text} : Escapes (bindings path d config) ↔
    (∃ e ∈ config, ∀ k, e.1 ≠ .text k) ∨ KeysKnown config ∧ MeetsFirst d config sectionKeys := by
  simp only [bindings]
  split
  · next h =>
    have hk : ¬ KeysKnown config := fun hk => by simp [unknown_isEmpty_iff.mpr hk] at h
    have hthrow {α : Type} (f : Fault) (g : PUnit → Except Fault α) : (throw f >>= g) = throw f := rfl
    rw [hthrow, escapes_throw, isOfFile_unknownFault, or_iff_left fun h => hk h.1]
    constructor
    · rintro ⟨v, hv, ht⟩
      obtain ⟨e, he, rfl⟩ := List.mem_map.mp (List.mem_filter.mp hv).1
      exact ⟨e, he, ht⟩
    · rintro ⟨e, he, ht⟩
      have hu : isKnown e.1 = false := by
        by_contra hne
        obtain ⟨k, -, hk⟩ := isKnown_iff.mp (by simpa using hne)
        exact ht k hk
      exact ⟨e.1, List.mem_filter.mpr ⟨List.mem_map_of_mem he, by simp [hu]⟩, ht⟩
  · next h =>
    have hk : KeysKnown config := unknown_isEmpty_iff.mp (by simpa using h)
    have hn : ¬ ∃ e ∈ config, ∀ k, e.1 ≠ .text k := by
      rintro ⟨e, he, ht⟩
      obtain ⟨k, -, hk⟩ := hk e he
      exact ht k hk
    have hdefine (functions : Table Text) :
        (∃ u, functions.toList.forM checkFunction = .ok u) ↔ DefineThemselves functions := by
      rw [← checkFunctions_eq_ok]
      exact Unique.exists_iff
    have hfunctions : InOrder d config "functions" ↔
        ∃ t, IsSection d config "functions" t ∧ DefineThemselves t := by simp [InOrder]
    have hother {key : Text} (h : key ≠ ("functions" : Text)) : InOrder d config key ↔ ∃ t, IsSection d config key t := by
      simp [InOrder, h]
    simp only [escapes_bind, escapes_texts, not_escapes_forM not_escapes_checkFunction, false_or, or_false,
      not_escapes_mapM (not_escapes_compiler _), not_escapes_hook?, not_escapes_prelude, not_escapes_pure,
      and_false, exists_false, texts_eq_ok]
    simp only [hn, hk, false_or, true_and, MeetsFirst, sectionKeys, hfunctions,
      hother (show ("templates" : Text) ≠ "functions" by decide), hother (show ("after" : Text) ≠ "functions" by decide),
      or_false, and_false, exists_and_right, hdefine]
    simp only [← and_assoc, exists_and_right]

end

/-! Files -/

/-- The characters of a file, whose lines all end in a newline. -/
def charsOf (t : Tree) (cwd : Place) (p : Path) : Except Fault (List Char) :=
  match t.read cwd p with
  | .error e => .error (.unloadable p.text e)
  | .ok bytes =>
    match (Text.decode bytes).chars? with
    | none => .error (.failed "UnicodeDecodeError" "invalid text")
    | some cs => .ok (newlinesOnly cs)

/-- The bindings of what has been made of the characters of a file. -/
def ofParsed (path : Text) : Except Yaml.ValueFault Document → Except Fault Bindings
  | .error f => .error ((ParseFault.ofValue f).fault path)
  | .ok d => topLevel path d >>= bindings path d

/-- The bindings of a file, with any function in the place of the one that makes a document of its characters. -/
def loadBy (parse : List Char → Except Yaml.ValueFault Document) : Tree → Place → Path → Except Fault Bindings :=
  loadWith (decoding parse)

theorem loadBy_eq (parse : List Char → Except Yaml.ValueFault Document) (t : Tree) (cwd : Place) (p : Path) :
    loadBy parse t cwd p = charsOf t cwd p >>= fun cs => ofParsed p.text (parse cs) := by
  rw [loadBy, loadWith, charsOf]
  cases t.read cwd p with
  | error e => rfl
  | ok bytes =>
    simp only [decoding]
    cases (Text.decode bytes).chars? with
    | none => rfl
    | some cs =>
      simp only
      show _ = ofParsed p.text (parse (newlinesOnly cs))
      cases parse (newlinesOnly cs) <;> rfl

theorem load_of_charsOf {t : Tree} {cwd : Place} {p : Path} {cs : List Char} (h : charsOf t cwd p = .ok cs) :
    load t cwd p = ofParsed p.text (Document.ofText cs) := by
  rw [show load t cwd p = loadBy Document.ofText t cwd p from rfl, loadBy_eq, h]
  rfl

section
variable (parse : List Char → Except Yaml.ValueFault Document) (t : Tree) (cwd : Place) (p : Path)

/-- A file can be read, and as text. -/
def Holds (cs : List Char) : Prop :=
  ∃ bytes ds, t.read cwd p = .ok bytes ∧ (Text.decode bytes).chars? = some ds ∧ cs = newlinesOnly ds

/-- The entries at the top of a document; a document of nothing has none. -/
inductive IsTop (d : Document) : Entries → Prop
  | nothing (h : d.root = .null) : IsTop d []
  | mapping {i : Nat} (h : d.root = .map i) : IsTop d (d.entries i)

/-- The entries at the top of a file, with the document that they belong to. -/
def Reads (d : Document) (config : Entries) : Prop := ∃ cs, Holds t cwd p cs ∧ parse cs = .ok d ∧ IsTop d config

/-- What refuses a file without a fault of the file: it cannot be named or is no text, the value of a scalar cannot be
made, a key at the top is no text, or a long key is met. -/
inductive Unreported : Prop
  | path {e : FileError} (h : t.read cwd p = .error e) (he : e.isOfSystem = false)
  | bytes {bytes : Bytes} (h : t.read cwd p = .ok bytes) (hc : (Text.decode bytes).chars? = none)
  | scalar {cs : List Char} {f : Yaml.ScalarFault} (h : Holds t cwd p cs) (hp : parse cs = .error (.scalar f))
  | codePoint {cs : List Char} {isHuge : Bool} (h : Holds t cwd p cs)
      (hp : parse cs = .error (.fault (.codePoint isHuge)))
  | key {d : Document} {config : Entries} {e : Value × Value} (h : Reads parse t cwd p d config) (he : e ∈ config)
      (hk : ∀ k, e.1 ≠ .text k)
  | long {d : Document} {config : Entries} (h : Reads parse t cwd p d config) (hk : KeysKnown config)
      (hm : MeetsFirst d config sectionKeys)

end

section
variable {parse : List Char → Except Yaml.ValueFault Document} {t : Tree} {cwd : Place} {p : Path} {path : Text}
variable {d : Document} {config : Entries}

theorem charsOf_eq_ok {cs : List Char} : charsOf t cwd p = .ok cs ↔ Holds t cwd p cs := by
  rw [charsOf, Holds]
  cases t.read cwd p with
  | error e => simp
  | ok bytes =>
    simp only [Except.ok.injEq, exists_and_left, exists_eq_left']
    cases (Text.decode bytes).chars? with
    | none => simp
    | some ds => simp [eq_comm]

theorem escapes_charsOf : Escapes (charsOf t cwd p) ↔
    (∃ e, t.read cwd p = .error e ∧ e.isOfSystem = false) ∨
      ∃ bytes, t.read cwd p = .ok bytes ∧ (Text.decode bytes).chars? = none := by
  rw [charsOf]
  cases t.read cwd p with
  | error e => simp [Fault.isOfFile]
  | ok bytes =>
    simp only [Except.ok.injEq, exists_eq_left', reduceCtorEq, false_and, exists_false, false_or]
    cases (Text.decode bytes).chars? with
    | none => simp [Fault.isOfFile]
    | some ds => simp

theorem topLevel_eq_ok : topLevel path d = .ok config ↔ IsTop d config := by
  rw [topLevel]
  constructor
  · intro h
    split at h
    · next hr =>
      cases h
      exact .nothing hr
    · next i hr =>
      cases h
      exact .mapping hr
    · cases h
  · rintro (h | h)
    · rw [h]
    · rw [h]

theorem not_escapes_topLevel : ¬ Escapes (topLevel path d) := by
  rw [topLevel]
  split <;> simp [Fault.isOfFile]

theorem ofParsed_eq_ok {x : Except Yaml.ValueFault Document} {b : Bindings} : ofParsed path x = .ok b ↔
    ∃ d config, x = .ok d ∧ IsTop d config ∧ ∃ parts : Parts, parts.Fits d config ∧ b = parts.bindings path := by
  cases x with
  | error f => simp [ofParsed]
  | ok d => simp only [ofParsed, bind_eq_ok, topLevel_eq_ok, bindings_eq_ok, Except.ok.injEq, exists_and_left, exists_eq_left']

theorem escapes_ofParsed {x : Except Yaml.ValueFault Document} : Escapes (ofParsed path x) ↔
    (∃ f, x = .error (.scalar f)) ∨ (∃ isHuge, x = .error (.fault (.codePoint isHuge))) ∨
    ∃ d config, x = .ok d ∧ IsTop d config ∧
      ((∃ e ∈ config, ∀ k, e.1 ≠ .text k) ∨ KeysKnown config ∧ MeetsFirst d config sectionKeys) := by
  rcases x with (f | f) | d
  · cases f with
    | codePoint isHuge => cases isHuge <;> simp [ofParsed, ParseFault.ofValue, ParseFault.fault, Fault.isOfFile]
    | _ => simp [ofParsed, ParseFault.ofValue, ParseFault.fault, Fault.isOfFile]
  · simp [ofParsed, ParseFault.ofValue, ParseFault.ofScalar, ParseFault.fault, Fault.isOfFile]
  · simp only [ofParsed, escapes_bind, not_escapes_topLevel, topLevel_eq_ok, escapes_bindings, Except.ok.injEq,
      exists_and_left, exists_eq_left', reduceCtorEq, exists_false, false_or]

theorem loadBy_eq_ok {b : Bindings} : loadBy parse t cwd p = .ok b ↔
    ∃ d config, Reads parse t cwd p d config ∧ ∃ parts : Parts, parts.Fits d config ∧ b = parts.bindings p.text := by
  simp only [loadBy_eq, bind_eq_ok, charsOf_eq_ok, ofParsed_eq_ok, Reads]
  constructor
  · rintro ⟨cs, hcs, d, config, hd, ht, hp⟩
    exact ⟨d, config, ⟨cs, hcs, hd, ht⟩, hp⟩
  · rintro ⟨d, config, ⟨cs, hcs, hd, ht⟩, hp⟩
    exact ⟨cs, hcs, d, config, hd, ht, hp⟩

theorem escapes_loadBy : Escapes (loadBy parse t cwd p) ↔ Unreported parse t cwd p := by
  simp only [loadBy_eq, escapes_bind, escapes_charsOf, charsOf_eq_ok, escapes_ofParsed]
  constructor
  · rintro ((⟨e, h, he⟩ | ⟨bytes, h, hc⟩) | ⟨cs, hcs, ⟨f, hf⟩ | ⟨isHuge, hf⟩ | ⟨d, config, hd, ht, ⟨e, he, hk⟩ | ⟨hk, hm⟩⟩⟩)
    · exact .path h he
    · exact .bytes h hc
    · exact .scalar hcs hf
    · exact .codePoint hcs hf
    · exact .key ⟨cs, hcs, hd, ht⟩ he hk
    · exact .long ⟨cs, hcs, hd, ht⟩ hk hm
  · rintro (⟨h, he⟩ | ⟨h, hc⟩ | ⟨h, hf⟩ | ⟨h, hf⟩ | ⟨⟨cs, hcs, hd, ht⟩, he, hk⟩ | ⟨⟨cs, hcs, hd, ht⟩, hk, hm⟩)
    · exact .inl (.inl ⟨_, h, he⟩)
    · exact .inl (.inr ⟨_, h, hc⟩)
    · exact .inr ⟨_, h, .inl ⟨_, hf⟩⟩
    · exact .inr ⟨_, h, .inr (.inl ⟨_, hf⟩)⟩
    · exact .inr ⟨cs, hcs, .inr (.inr ⟨_, _, hd, ht, .inl ⟨_, he, hk⟩⟩)⟩
    · exact .inr ⟨cs, hcs, .inr (.inr ⟨_, _, hd, ht, .inr ⟨hk, hm⟩⟩)⟩

/-- For every way to make documents of characters, a file is accepted exactly if it can be read, its keys are known and
its parts fit; its bindings are then made of the parts. It is refused without a fault of the file exactly for one of
the reasons given, and in all other cases with one. -/
theorem load_outcomes (parse : List Char → Except Yaml.ValueFault Document) (t : Tree) (cwd : Place) (p : Path) :
    load t cwd p = loadBy Document.ofText t cwd p ∧
    (∀ b, loadBy parse t cwd p = .ok b ↔ ∃ d config, Reads parse t cwd p d config ∧
      ∃ parts : Parts, parts.Fits d config ∧ b = parts.bindings p.text) ∧
    (Escapes (loadBy parse t cwd p) ↔ Unreported parse t cwd p) ∧
    ((∃ f, loadBy parse t cwd p = .error f ∧ f.isOfFile = true) ↔ ¬ Unreported parse t cwd p ∧
      ¬ ∃ d config, Reads parse t cwd p d config ∧ ∃ parts : Parts, parts.Fits d config) := by
  refine ⟨rfl, fun b => loadBy_eq_ok, escapes_loadBy, ?_⟩
  have hok : (∃ d config, Reads parse t cwd p d config ∧ ∃ parts : Parts, parts.Fits d config) ↔
      ∃ b, loadBy parse t cwd p = .ok b := by
    simp only [loadBy_eq_ok]
    constructor
    · rintro ⟨d, config, hr, parts, hp⟩
      exact ⟨_, d, config, hr, parts, hp, rfl⟩
    · rintro ⟨b, d, config, hr, parts, hp, -⟩
      exact ⟨d, config, hr, parts, hp⟩
  rw [hok, ← escapes_loadBy]
  cases loadBy parse t cwd p with
  | ok b => simp
  | error f => simp

/-- A directory with a hook file of these bytes. -/
def directoryOf (bytes : Bytes) : Tree := ⟨[(["hooks.yml"], .file bytes 0o644)]⟩

theorem read_directoryOf (bytes : Bytes) : (directoryOf bytes).read [] ⟨.relative, ["hooks.yml"]⟩ = .ok bytes := by
  have hs : (directoryOf bytes).stepInto [] "hooks.yml" = .ok ["hooks.yml"] := rfl
  have hn : (directoryOf bytes).node? ["hooks.yml"] = some (.file bytes 0o644) := rfl
  have hf : (directoryOf bytes).follow Tree.mostLinks [] ["hooks.yml"] = .ok ["hooks.yml"] := by
    rw [Tree.follow_plain hs (by simp [hn]) (by simp [hn]), Tree.follow_nil, hn]
    rfl
  have hr : (directoryOf bytes).resolve [] ⟨.relative, ["hooks.yml"]⟩ = .ok ["hooks.yml"] :=
    Tree.resolve_eq_ok_iff.mpr ⟨rfl, hf⟩
  rw [Tree.read, Tree.lookup_eq, hr]
  simp only [hn]
  rfl

theorem charsOf_directoryOf {bytes : Bytes} {cs : List Char}
    (h : (Text.decode bytes).chars?.map newlinesOnly = some cs) :
    charsOf (directoryOf bytes) [] ⟨.relative, ["hooks.yml"]⟩ = .ok cs := by
  obtain ⟨ds, hd, rfl⟩ := Option.map_eq_some_iff.mp h
  rw [charsOf, read_directoryOf]
  simp only [hd]

/-- A number for a key and bytes that are no text are refused without a fault of the file, and an empty list passes
for a section. -/
theorem load_escapes :
    Escapes (load (directoryOf (Text.encode "1: x\n")) [] ⟨.relative, ["hooks.yml"]⟩) ∧
    Escapes (load (directoryOf [0xFF]) [] ⟨.relative, ["hooks.yml"]⟩) ∧
    ∃ b, load (directoryOf (Text.encode "templates: []\n")) [] ⟨.relative, ["hooks.yml"]⟩ = .ok b := by
  have hmap : (Text.decode (Text.encode "1: x\n")).chars?.map newlinesOnly = some "1: x\n".toList := by decide +kernel
  have hlist : (Text.decode (Text.encode "templates: []\n")).chars?.map newlinesOnly =
      some "templates: []\n".toList := by decide +kernel
  refine ⟨?_, ?_, ?_⟩
  · rw [load_of_charsOf (charsOf_directoryOf hmap)]
    decide +kernel
  · rw [show load = loadBy Document.ofText from rfl, loadBy_eq, charsOf, read_directoryOf]
    exact escapes_error.mpr rfl
  · have hb : (ofParsed "hooks.yml" (Document.ofText "templates: []\n".toList)).isOk = true := by decide +kernel
    rw [load_of_charsOf (charsOf_directoryOf hlist)]
    show ∃ b, ofParsed "hooks.yml" (Document.ofText "templates: []\n".toList) = .ok b
    cases h : ofParsed "hooks.yml" (Document.ofText "templates: []\n".toList) with
    | ok b => exact ⟨b, rfl⟩
    | error f =>
      rw [h] at hb
      cases hb

end

end Tangle.HookFile
