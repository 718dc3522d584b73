import Tangle.Fragment
import Tangle.Proofs.Session.Overlay

/-! # The bindings of a session

Built-in hooks can be installed and dumps loaded in any order. A dump that cannot be read changes nothing, and else
neither fails; the bindings stay
those of the caller, of the installed hooks and of the hook functions in the current table. -/
namespace Tangle

namespace Bindings

/-- The bindings with hooks for the languages that have no compile hook. -/
def withDefaults (b : Bindings) (hooks : List (Text × CompileHook)) : Bindings :=
  { b with compilers := b.compilers.setDefaults hooks }

/-- The first hook for a language. -/
def default? (hooks : List (Text × CompileHook)) (language : Text) : Option CompileHook :=
  (hooks.find? (·.1 = language)).map (·.2)

theorem withDefaults_append (b : Bindings) (hooks more : List (Text × CompileHook)) :
    b.withDefaults (hooks ++ more) = (b.withDefaults hooks).withDefaults more := by
  simp [withDefaults, Table.setDefaults]

/-- What a slot holds by default. -/
def defaultHandler? (hooks : List (Text × CompileHook)) : Slot → Option Handler
  | .compiler l => (default? hooks l).map .compiler
  | _ => none

theorem handler?_withDefaults (b : Bindings) (hooks : List (Text × CompileHook)) (slot : Slot) :
    (b.withDefaults hooks).handler? slot = (b.handler? slot).or (defaultHandler? hooks slot) := by
  cases slot with
  | compiler l =>
    simp only [withDefaults, handler?, Table.get?_setDefaults, Option.map_or]
    rfl
  | template | after | misc | fileHeader | fileFooter => exact (Option.or_none).symm

end Bindings

namespace Session

theorem install_eq (s : Session) (hooks : List (Text × CompileHook)) : s.install hooks =
    { s with base := s.base.withDefaults hooks, bindings := s.bindings.withDefaults hooks } := by
  induction hooks generalizing s with
  | nil => rfl
  | cons h hooks ih =>
    rw [install, List.foldl_cons]
    exact ih _

theorem Overlaid.install {s : Session} (hs : s.Overlaid) (hooks : List (Text × CompileHook)) :
    (s.install hooks).Overlaid := by
  rw [install_eq]
  exact {
    handler := fun slot hm => by
      rw [Bindings.handler?_withDefaults, Bindings.handler?_withDefaults, hs.handler slot hm]
    functions := hs.functions
    prelude := hs.prelude
    overlay := fun slot => by
      rw [Bindings.handler?_withDefaults, Bindings.handler?_withDefaults, hs.overlay, Option.or_assoc]
      rfl
    readable := hs.readable }

theorem start_ok {site : Site} {settings : Settings} {path : List Text} {caller : Bindings}
    {s : Session} (h : start site settings path caller = .ok s) :
    s.Overlaid ∧ s.base = caller ∧ s.settings = settings := by
  obtain ⟨hs, b, slots, rfl⟩ := harvest_ok h ⟨fun _ _ => rfl, rfl, rfl⟩
  exact ⟨hs, rfl, rfl⟩

/-- Holds of a table whose sources all define a function. -/
def Defines (t : Table Text) : Prop :=
  ∀ name source, t.get? name = some source → ∃ d, Definition.read source = .ok d

theorem exists_harvest {s : Session} (h : Defines s.functions) : ∃ s', s.harvest = .ok s' := by
  rw [harvest_eq]
  exact exists_foldlM_bindFunction (fun e he => h e.1 e.2 (Table.get?_eq_some_iff.mpr he)) _

theorem defines_addFunction {fs : Table Text × Journal} (h : Defines fs.1) (source : Text) :
    Defines (addFunction fs source).1 := by
  rw [addFunction]
  split
  · next name hn =>
    obtain ⟨d, hd, -⟩ := map_eq_ok.mp hn
    intro n v hv
    rw [Table.get?_set] at hv
    split at hv
    · cases hv
      exact ⟨d, hd⟩
    · exact h n v hv
  · exact h

theorem defines_readFunctions (t : Text) (j : Journal) : Defines (readFunctions t j).1 := by
  have hf : ∀ (cs : List Text) (fs : Table Text × Journal), Defines fs.1 →
      Defines (cs.foldl addFunction fs).1 := by
    intro cs
    induction cs with
    | nil => exact fun _ h => h
    | cons c cs ih => exact fun fs h => ih _ (defines_addFunction h c)
  exact hf _ _ fun n v hv => by cases hv

/-- A dump is taken over without a fault if its files can be read, whatever they hold. -/
theorem load_ok {s : Session} (hs : s.Overlaid) {d : Dump} {c : Option Dump.Contents} (hd : d.contents? = .ok c)
    (j : Journal) :
    ∃ saved s' j', s.load d j = .ok (saved, s', j') ∧ s'.Overlaid ∧ s'.base = s.base ∧
      s'.settings = s.settings := by
  rw [load, hd]
  cases c with
  | none => exact ⟨false, s, j, rfl, hs, rfl, rfl⟩
  | some c =>
    simp only
    have hf := defines_readFunctions (Text.decode c.functions) j
    generalize readFunctions (Text.decode c.functions) j = r at hf ⊢
    obtain ⟨fs, j'⟩ := r
    let s₁ : Session := { s with
      functions := fs
      options := readOptions (Text.decode c.options)
      state := Text.decode c.values ++ "\n" ++ Text.join "\n" fs.values }
    obtain ⟨s', hs'⟩ := exists_harvest (s := s₁) hf
    obtain ⟨ho, b, slots, rfl⟩ := harvest_ok hs' ⟨hs.handler, hs.functions, hs.prelude⟩
    refine ⟨true, _, j', ?_, ho, rfl, rfl⟩
    simp only
    rw [hs']

theorem load_unreadable {d : Dump} {e : FileError} (hd : d.contents? = .error e) (s : Session) (j : Journal) :
    s.load d j = .error (.file e) := by
  rw [load, hd]

/-- What can happen to the bindings of a session after its start. -/
inductive Step where
  | install (hooks : List (Text × CompileHook))
  | load (d : Dump) (j : Journal)

def Step.hooks : Step → List (Text × CompileHook)
  | install hooks => hooks
  | load _ _ => []

/-- A dump that cannot be read leaves the session as it was. -/
def perform (s : Session) : Step → Except DefinitionFault Session
  | .install hooks => .ok (s.install hooks)
  | .load d j => match s.load d j with
    | .ok r => .ok r.2.1
    | .error (.file _) => .ok s
    | .error (.definition f) => .error f

theorem perform_ok {s : Session} (hs : s.Overlaid) (step : Step) :
    ∃ s', s.perform step = .ok s' ∧ s'.Overlaid ∧ s'.base = s.base.withDefaults step.hooks ∧
      s'.settings = s.settings := by
  cases step with
  | install hooks =>
    refine ⟨_, rfl, hs.install hooks, ?_, ?_⟩ <;> rw [install_eq]
    rfl
  | load d j =>
    cases hd : d.contents? with
    | error e => exact ⟨s, by rw [perform, load_unreadable hd], hs, rfl, rfl⟩
    | ok c =>
      obtain ⟨saved, s', j', hl, ho, hb, hset⟩ := load_ok hs hd j
      exact ⟨s', by rw [perform, hl], ho, hb, hset⟩

theorem run_ok {s : Session} (hs : s.Overlaid) (steps : List Step) :
    ∃ s', steps.foldlM perform s = .ok s' ∧ s'.Overlaid ∧
      s'.base = s.base.withDefaults (steps.flatMap Step.hooks) ∧ s'.settings = s.settings := by
  induction steps generalizing s with
  | nil => exact ⟨s, rfl, hs, rfl, rfl⟩
  | cons step steps ih =>
    obtain ⟨s₁, hp, ho, hb, hset⟩ := perform_ok hs step
    obtain ⟨s₂, hr, ho₂, hb₂, hset₂⟩ := ih ho
    refine ⟨s₂, ?_, ho₂, ?_, hset₂.trans hset⟩
    · rw [List.foldlM_cons, hp]
      exact hr
    · rw [hb₂, hb, List.flatMap_cons, Bindings.withDefaults_append]

/-- The source of the function of a kind for a language, if there is one in the table. -/
def source? (s : Session) (kind language : Text) : Option Text :=
  if language = [] then none else s.functions.get? (s.settings.hookName kind language)

def template? (s : Session) (kind language : Text) : Option Template :=
  (s.source? kind language).bind fun source =>
    (Slot.templateOf (s.settings.hookName kind language) source).toOption

/-- The name of the function that compiles the blocks of a language. -/
def compiler? (s : Session) (language : Text) : Option Text :=
  (s.source? "compile" language).map fun _ => s.settings.hookName "compile" language

/-- The name of the function of a kind that belongs to no language. -/
def global? (s : Session) (kind : Text) : Option Text :=
  (s.functions.get? (s.settings.hookName kind [])).map fun _ => s.settings.hookName kind []

section Hooks
variable {s : Session} {slot : Slot} {kind l : Text}

theorem hook?_language {f : Text → Text → Except DefinitionFault Handler}
    (hn : slot.functionName? s.settings = if l = [] then none else some (s.settings.hookName kind l))
    (hf : ∀ name source, slot.handler name source = f name source) :
    s.hook? slot = (s.source? kind l).bind fun source =>
      (f (s.settings.hookName kind l) source).toOption := by
  rw [hook?, hn, source?]
  by_cases hl : l = []
  · rw [if_pos hl, if_pos hl]
    rfl
  · rw [if_neg hl, if_neg hl, Option.bind_some]
    simp only [hf]

theorem hook?_template
    (hn : slot.functionName? s.settings = if l = [] then none else some (s.settings.hookName kind l))
    (hf : ∀ name source, slot.handler name source = Handler.template <$> Slot.templateOf name source) :
    s.hook? slot = (s.template? kind l).map .template := by
  rw [hook?_language hn hf, template?]
  cases s.source? kind l with
  | none => rfl
  | some source =>
    simp only [Option.bind_some]
    cases Slot.templateOf (s.settings.hookName kind l) source <;> rfl

variable (slot) in
theorem exists_read (hs : s.Overlaid)
    (hn : slot.functionName? s.settings = if l = [] then none else some (s.settings.hookName kind l))
    (hf : ∀ name source, slot.handler name source = Handler.template <$> Slot.templateOf name source)
    {source : Text} (h : s.source? kind l = some source) : ∃ d, Definition.read source = .ok d := by
  rw [source?] at h
  split at h
  · cases h
  · next hl =>
    rw [if_neg hl] at hn
    obtain ⟨v, hv⟩ := hs.readable slot _ source hn h
    rw [hf] at hv
    exact Slot.exists_read_of_templateOf hv

theorem hook?_compiler : s.hook? (.compiler l) = ((s.compiler? l).map .shell).map .compiler := by
  have h : (Slot.compiler l).functionName? s.settings =
      if l = [] then none else some (s.settings.hookName "compile" l) := rfl
  rw [hook?_language h fun _ _ => rfl, compiler?]
  cases s.source? "compile" l <;> rfl

theorem hook?_global {α : Type} {f : Text → α} {g : α → Handler}
    (hn : slot.functionName? s.settings = some (s.settings.hookName kind []))
    (hf : ∀ name source, slot.handler name source = .ok (g (f name))) :
    s.hook? slot = ((s.global? kind).map f).map g := by
  rw [hook?, hn, Option.bind_some, global?]
  cases s.functions.get? (s.settings.hookName kind []) with
  | none => rfl
  | some source =>
    rw [Option.bind_some, hf]
    rfl

end Hooks

/-- The bindings are those of the caller, with the built-in hooks behind them, and the hook functions of
the current table before them. -/
structure Follows (s : Session) (caller : Bindings) (builtins : List (Text × CompileHook)) : Prop where
  templates : ∀ l, s.bindings.templates.get? l = (s.template? "lang" l).or (caller.templates.get? l)
  compilers : ∀ l, s.bindings.compilers.get? l =
    ((s.compiler? l).map .shell).or ((caller.compilers.get? l).or (Bindings.default? builtins l))
  after : ∀ l, s.bindings.after.get? l = (s.template? "after" l).or (caller.after.get? l)
  misc : s.bindings.misc = ((s.global? "misc").map .shell).or caller.misc
  fileHeader : s.bindings.fileHeader = ((s.global? "file-header").map .shell).or caller.fileHeader
  fileFooter : s.bindings.fileFooter = ((s.global? "file-footer").map .shell).or caller.fileFooter
  functions : s.bindings.functions = caller.functions
  prelude : s.bindings.prelude = caller.prelude
  readable : ∀ kind : Text, kind = "lang" ∨ kind = "after" → ∀ l source, s.source? kind l = some source →
    ∃ d, Definition.read source = .ok d

theorem Overlaid.follows {s : Session} (hs : s.Overlaid) {caller : Bindings}
    {builtins : List (Text × CompileHook)} (hb : s.base = caller.withDefaults builtins) :
    s.Follows caller builtins where
  templates l := by
    have h := hs.overlay (.template l)
    rw [hook?_template rfl fun _ _ => rfl, hb] at h
    exact Option.map_injective (fun _ _ => Handler.template.inj) (h.trans Option.map_or.symm)
  compilers l := by
    have h := hs.overlay (.compiler l)
    rw [hook?_compiler, hb, Bindings.handler?_withDefaults] at h
    refine Option.map_injective (fun _ _ => Handler.compiler.inj) (h.trans ?_)
    rw [Option.map_or, Option.map_or]
    rfl
  after l := by
    have h := hs.overlay (.after l)
    rw [hook?_template rfl fun _ _ => rfl, hb] at h
    exact Option.map_injective (fun _ _ => Handler.template.inj) (h.trans Option.map_or.symm)
  misc := by
    have h := hs.overlay .misc
    rw [hook?_global (f := MiscHook.shell) (g := Handler.misc) rfl fun _ _ => rfl, hb] at h
    exact Option.map_injective (fun _ _ => Handler.misc.inj) (h.trans Option.map_or.symm)
  fileHeader := by
    have h := hs.overlay .fileHeader
    rw [hook?_global (f := FileHook.shell) (g := Handler.file) rfl fun _ _ => rfl, hb] at h
    exact Option.map_injective (fun _ _ => Handler.file.inj) (h.trans Option.map_or.symm)
  fileFooter := by
    have h := hs.overlay .fileFooter
    rw [hook?_global (f := FileHook.shell) (g := Handler.file) rfl fun _ _ => rfl, hb] at h
    exact Option.map_injective (fun _ _ => Handler.file.inj) (h.trans Option.map_or.symm)
  functions := by
    rw [hs.functions, hb]
    rfl
  prelude := by
    rw [hs.prelude, hb]
    rfl
  readable kind hk l source h := by
    obtain rfl | rfl := hk
    · exact exists_read (.template l) hs rfl (fun _ _ => rfl) h
    · exact exists_read (.after l) hs rfl (fun _ _ => rfl) h

/-- What a block without a command resolves to: the first that is bound of the document's template, the
caller's template, the document's compile hook, the caller's, a built-in one, and else the fallback. -/
def precedence (s : Session) (caller : Bindings) (builtins : List (Text × CompileHook)) (l : Text) :
    Policy :=
  ((s.template? "lang" l).map Policy.template
    |>.or ((caller.templates.get? l).map .template)
    |>.or ((s.compiler? l).map fun name => .hook (.shell name))
    |>.or ((caller.compilers.get? l).map .hook)
    |>.or ((Bindings.default? builtins l).map .hook)).getD .fallback

theorem Follows.resolve {s : Session} {caller : Bindings} {builtins : List (Text × CompileHook)}
    (h : s.Follows caller builtins) {tag : Tag} {words : List Text} (ht : tag.request = .plain words) :
    Policy.resolve tag s.bindings = s.precedence caller builtins tag.language := by
  simp only [Policy.resolve, ht, Policy.ofLanguage, h.templates, h.compilers, precedence]
  cases s.template? "lang" tag.language with
  | some t => rfl
  | none =>
  cases caller.templates.get? tag.language with
  | some t => rfl
  | none =>
  cases s.compiler? tag.language with
  | some name => rfl
  | none =>
  cases caller.compilers.get? tag.language with
  | some c => rfl
  | none => cases Bindings.default? builtins tag.language <;> rfl

/-- Whatever is installed and loaded after the start of a session, its bindings are a function of the
caller's bindings, of the installed hooks and of the current function table. -/
theorem bindings_follow {site : Site} {settings : Settings} {path : List Text} {caller : Bindings}
    {s₀ : Session} (h : start site settings path caller = .ok s₀) (steps : List Step) :
    ∃ s, steps.foldlM perform s₀ = .ok s ∧ s.settings = settings ∧
      s.Follows caller (steps.flatMap Step.hooks) ∧
      ∀ tag words, tag.request = .plain words →
        Policy.resolve tag s.bindings = s.precedence caller (steps.flatMap Step.hooks) tag.language := by
  obtain ⟨ho, hb, hset⟩ := start_ok h
  obtain ⟨s, hr, hs, hbase, hsettings⟩ := run_ok ho steps
  have hf : s.Follows caller (steps.flatMap Step.hooks) := hs.follows (hbase.trans (hb ▸ rfl))
  exact ⟨s, hr, hsettings.trans hset, hf, fun tag words ht => hf.resolve ht⟩

/-- The caller's template comes back once the function that replaced it is gone. -/
theorem bindings_follow_unset : ∃ (caller : Bindings) (s₀ s : Session),
    start ⟨"/tmp", "mdsh"⟩ {} [] caller = .ok s₀ ∧
    s₀.bindings.templates.get? "awk" = some ⟨"gawk;", "mdsh-lang-awk"⟩ ∧
    [Step.install builtinHooks, .load (.files [] [] []) {}].foldlM perform s₀ = .ok s ∧
    s.bindings.templates.get? "awk" = some ⟨"cat", []⟩ := by
  let caller : Bindings := {
    templates := Table.empty.set "awk" ⟨"cat", []⟩
    functions := Table.empty.set "mdsh-lang-awk" "mdsh-lang-awk () \x7b gawk; \x7d" }
  have hstart : ((start ⟨"/tmp", "mdsh"⟩ {} [] caller).map fun s => s.bindings.templates.get? "awk") =
      .ok (some ⟨"gawk;", "mdsh-lang-awk"⟩) := by decide
  have hload : ((start ⟨"/tmp", "mdsh"⟩ {} [] caller).bind fun s =>
      ([Step.install builtinHooks, .load (.files [] [] []) {}].foldlM perform s).map
        fun s => s.template? "lang" "awk") = .ok none := by decide
  cases h₀ : start ⟨"/tmp", "mdsh"⟩ {} [] caller with
  | error f =>
    rw [h₀] at hstart
    cases hstart
  | ok s₀ =>
    rw [h₀] at hstart hload
    obtain ⟨s, hr, -, hf, -⟩ :=
      bindings_follow h₀ [.install builtinHooks, .load (.files [] [] []) {}]
    simp only [Except.bind, hr] at hload
    refine ⟨caller, s₀, s, h₀, Except.ok.inj hstart, hr, ?_⟩
    have hn : s.template? "lang" "awk" = none := Except.ok.inj hload
    rw [hf.templates, hn]
    rfl

end Session
end Tangle
