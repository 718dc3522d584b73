import Tangle.Compiler
import Tangle.Proofs.Advice
import Tangle.Proofs.Fragment

/-! # Advised blocks

A block that comes to a host hook ends in the same failure with advice as without, or in the same text between
the texts of the advice. There is one exception: a value that is no text fails the block, but advice makes a text
of it. -/
namespace Tangle

/-- The status that a block is blamed with. -/
def HookError.status : HookError → Option Int
  | raised _ => none
  | failed f => f.status

/-- The detail that a block is blamed with. -/
def HookError.detail : HookError → Text
  | raised e => e.shown
  | failed f => f.detail

/-- What is said of a hook that hands back a value of another kind. -/
def HostHook.complaint (h : HostHook) (kind : Text) : Text :=
  (if h.name.isEmpty then ("hook" : Text) else h.name) ++ " returned " ++ kind ++ ", not str"

/-- The bench with other bindings in effect. -/
def Bench.rebind {σ : Type} (m : Bench σ) (b : Bindings) : Bench σ :=
  { m with session := { m.session with bindings := b } }

namespace Fragment
variable {σ : Type} {b : Block} {tag : Tag} {h : HostHook}

theorem hosted_error {e : HookError} (he : h.run b.content tag = .error e) :
    hosted h b tag = .error (blame b tag e.status e.detail) := by
  unfold hosted
  cases e with
  | raised e => simp only [he]; rfl
  | failed f => simp only [he]; rfl

theorem hosted_text {t : Text} (ht : h.run b.content tag = .ok (.text t)) :
    hosted h b tag = .ok (.text t) := by
  unfold hosted
  simp only [ht]

theorem hosted_other {kind shown : Text} (hv : h.run b.content tag = .ok (.other kind shown)) :
    hosted h b tag = .error (blame b tag none (h.complaint kind)) := by
  unfold hosted
  simp only [hv]
  rfl

/-- A block whose language has a host hook, and no template, ends in what the hook comes to. -/
theorem ofBlock_host (shell : Shell σ) {m : Bench σ} {words : List Text}
    (ht : (Tag.ofText b.rawTag).request = .plain words)
    (hn : m.session.bindings.templates.get? (Tag.ofText b.rawTag).language = none)
    (hh : m.session.bindings.compilers.get? (Tag.ofText b.rawTag).language = some (.host h)) :
    ∃ j, ofBlock shell b m =
      (((hosted h b (Tag.ofText b.rawTag)).mapError CompileError.hook).map fun v =>
        v :: following m.session (Tag.ofText b.rawTag).language, { m with journal := j }) := by
  obtain ⟨j, hj⟩ := ofBlock_eq shell b m
  have hp : Policy.resolve (Tag.ofText b.rawTag) m.session.bindings = .hook (.host h) := by
    simp only [Policy.resolve, ht, Policy.ofLanguage, hn, hh]
  have ha : actionOf m.session b = .done ((hosted h b (Tag.ofText b.rawTag)).mapError .hook) := by
    rw [actionOf, hp]
    rfl
  refine ⟨j, ?_⟩
  rw [hj, outcome, ha]
  rfl

/-- A failed hook fails alike under any advice, and a text is framed. But a value that is no text, for which the
block fails without advice, becomes a text by it: so advice changes whether a block fails exactly if the hook hands
back such a value. -/
theorem advised_block_ends (shell : Shell σ) {m : Bench σ} {words : List Text}
    (ht : (Tag.ofText b.rawTag).request = .plain words)
    (hn : m.session.bindings.templates.get? (Tag.ofText b.rawTag).language = none)
    (hh : m.session.bindings.compilers.get? (Tag.ofText b.rawTag).language = some (.host h))
    {calls : List Advice} (hc : Advice.on (Tag.ofText b.rawTag).language calls ≠ []) :
    let tag := Tag.ofText b.rawTag
    let texts := Advice.on tag.language calls
    let more := following m.session tag.language
    let m' := m.rebind (calls.foldl Bindings.behind m.session.bindings)
    ∃ r r' j k, ofBlock shell b m = (r, { m with journal := j }) ∧
      ofBlock shell b m' = (r', { m' with journal := k }) ∧
      (∀ e, h.run b.content tag = .error e →
        r = .error (.hook (blame b tag e.status e.detail)) ∧ r' = r) ∧
      (∀ t, h.run b.content tag = .ok (.text t) →
        r = .ok (.text t :: more) ∧ r' = .ok (.text (Advice.around texts t) :: more)) ∧
      (∀ kind shown, h.run b.content tag = .ok (.other kind shown) →
        r = .error (.hook (blame b tag none (h.complaint kind))) ∧
        r' = .ok (.text (Advice.around texts shown) :: more)) ∧
      (((∃ e, r = .error e) ↔ ∃ e, r' = .error e) ↔
        ∀ kind shown, h.run b.content tag ≠ .ok (.other kind shown)) := by
  intro tag texts more m'
  let k := texts.foldl (fun h a => h.advised a.before a.after) h
  have hn' : m'.session.bindings.templates.get? tag.language = none := by
    show (calls.foldl Bindings.behind m.session.bindings).templates.get? tag.language = none
    rw [Bindings.foldl_templates, hn, Option.map_none]
  have hh' : m'.session.bindings.compilers.get? tag.language = some (.host k) := by
    show (calls.foldl Bindings.behind m.session.bindings).compilers.get? tag.language = _
    rw [Bindings.foldl_compilers, if_pos hn, hh, Option.map_some, CompileHook.foldl_advised_host]
  have hf : following m'.session tag.language = more := by
    have ha : m'.session.bindings.after = m.session.bindings.after := by
      show (calls.foldl Bindings.behind m.session.bindings).after = _
      rw [(Bindings.foldl_reworks m.session.bindings calls).rest]
    rw [following, ha]
    rfl
  have hrun : k.run b.content tag = (h.run b.content tag).map (Advice.frame texts) :=
    h.run_foldl_advised texts b.content tag
  obtain ⟨j, hj⟩ := ofBlock_host shell ht hn hh
  obtain ⟨j', hj'⟩ := ofBlock_host shell ht hn' hh'
  rw [hf] at hj'
  -- What the block ends in with and without advice is read off from what the hook comes to.
  cases hr : h.run b.content tag with
  | error e =>
    rw [hr] at hrun
    rw [hosted_error hr] at hj
    rw [hosted_error hrun] at hj'
    refine ⟨_, _, j, j', hj, hj', ?_, ?_, ?_, by simp [Except.map, Except.mapError]⟩
    · rintro _ ⟨⟩
      exact ⟨rfl, rfl⟩
    · rintro _ ⟨⟩
    · rintro _ _ ⟨⟩
  | ok v =>
    rw [hr] at hrun
    have ho : k.run b.content tag = .ok (.text (Advice.around texts v.shown)) :=
      hrun.trans (congrArg Except.ok (Advice.frame_of_ne_nil hc v))
    rw [hosted_text ho] at hj'
    cases v with
    | text t =>
      rw [hosted_text hr] at hj
      refine ⟨_, _, j, j', hj, hj', ?_, ?_, ?_, by simp [Except.map, Except.mapError]⟩
      · rintro _ ⟨⟩
      · rintro _ ⟨⟩
        exact ⟨rfl, rfl⟩
      · rintro _ _ ⟨⟩
    | other kind shown =>
      rw [hosted_other hr] at hj
      refine ⟨_, _, j, j', hj, hj', ?_, ?_, ?_, by simp [Except.map, Except.mapError]⟩
      · rintro _ ⟨⟩
      · rintro _ ⟨⟩
      · rintro _ _ ⟨⟩
        exact ⟨rfl, rfl⟩

/-- Bindings with a hook that hands back no text. -/
def wordless : Bindings where
  compilers := Table.empty.set "x" (.host ⟨[], fun _ _ => .ok (.other "NoneType" "None")⟩)

/-- A bench in a pass over these bindings. -/
def wordlessBench : Bench Unit where
  session := {
    site := ⟨"/tmp", "mdsh"⟩, settings := {}, searchPath := []
    base := wordless, bindings := wordless, functions := {} }
  world := ()

/-- A block of their language. -/
def wordlessBlock : Block where
  tag := "x"
  rawTag := "x"
  content := "a\n"
  kind := .fenced
  width := 3
  line := 1

/-- Two calls for the language, with one for another between them. -/
def nestedCalls : List Advice := [⟨"x", "<", ">"⟩, ⟨"y", "(", ")"⟩, ⟨"x", "[", "]"⟩]

theorem advised_block_ends_nested : ∃ r r' j k,
    ofBlock (Shell.ofFiles fun _ => .unstartable []) wordlessBlock wordlessBench =
      (r, { wordlessBench with journal := j }) ∧
    ofBlock (Shell.ofFiles fun _ => .unstartable []) wordlessBlock
        (wordlessBench.rebind (nestedCalls.foldl Bindings.behind wordless)) =
      (r', { wordlessBench.rebind (nestedCalls.foldl Bindings.behind wordless) with journal := k }) ∧
    r = .error (.hook ⟨"x", 1, none, "hook returned NoneType, not str"⟩) ∧
    r' = .ok [.text "[<None>]"] := by
  have hc : Advice.on (Tag.ofText wordlessBlock.rawTag).language nestedCalls ≠ [] := by decide
  obtain ⟨r, r', j, k, hj, hk, -, -, ho, -⟩ :=
    advised_block_ends (Shell.ofFiles fun _ => .unstartable []) (m := wordlessBench) rfl rfl rfl hc
  obtain ⟨hr, hr'⟩ := ho _ _ rfl
  exact ⟨r, r', j, k, hj, hk, hr, hr'⟩

/-- The whole document: it fails without advice, and compiles with it. -/
theorem advised_notText :
    let script (b : Bindings) := (Compiler.compile { bindings := b } (Shell.ofFiles fun _ => .unstartable [])
      ⟨"/tmp", "mdsh"⟩ {} () {} "\x60\x60\x60x\na\n\x60\x60\x60\n" false).script
    script wordless = .error (.hook ⟨"x", 1, none, "hook returned NoneType, not str"⟩) ∧
    ((wordless.advise "x" "<" ">").toOption.map script) = some (.ok "<None>") := by
  decide +kernel

end Fragment
end Tangle
