import Tangle.Proofs.Fragment
import Tangle.Proofs.Pass.Eager
import Mathlib.Data.List.Forall2

/-! # Blocks at other lines

The line of a block is nowhere but in the failures that are blamed on it and in the journal. So blocks with
the same tags and contents are translated alike wherever they stand, on benches that differ in their
journals and in what they have collected. -/
namespace Tangle

/-- The same error, blamed on a line that is related to the first. -/
inductive CompileError.Moved (R : Nat → Nat → Prop) : CompileError → CompileError → Prop
  | hook {language detail : Text} {line line' : Nat} {status : Option Int} (h : R line line') :
    Moved R (.hook ⟨language, line, status, detail⟩) (.hook ⟨language, line', status, detail⟩)
  | delimiter (f : Heredoc.Fault) : Moved R (.delimiter f) (.delimiter f)
  | file (e : FileError) : Moved R (.file e) (.file e)

/-- A block with the same tag and content, at a line that is related to the first. -/
structure Block.Moved (R : Nat → Nat → Prop) (b b' : Block) : Prop where
  tag : Tag.ofText b.rawTag = Tag.ofText b'.rawTag
  content : b.content = b'.content
  line : R b.line b'.line

/-- Benches with the same session and the same world, and with related collections. -/
structure Bench.Alike {σ : Type} (D : Collection → Collection → Prop) (m n : Bench σ) : Prop where
  session : m.session = n.session
  world : m.world = n.world
  data : D m.data n.data

/-- Relations of collections that stay when the same is added to both. -/
def Collection.Stable (D : Collection → Collection → Prop) : Prop :=
  ∀ c d language content, D c d → D (c.add language content) (d.add language content)

variable {σ : Type} {R : Nat → Nat → Prop} {D : Collection → Collection → Prop} {m n : Bench σ}
  (shell : Shell σ) {b b' : Block}

namespace Action

/-- The same action, but for a failure that is there at once. -/
inductive Moved (R : Nat → Nat → Prop) : Action → Action → Prop
  | run (code : Text) (args : List Text) (caught : Bool) : Moved R (.run code args caught) (.run code args caught)
  | keep (fragment : Text) : Moved R (.keep fragment) (.keep fragment)
  | done (v : HookValue) : Moved R (.done (.ok v)) (.done (.ok v))
  | failed {e e' : CompileError} (h : CompileError.Moved R e e') : Moved R (.done (.error e)) (.done (.error e'))

theorem Moved.session_eq {a a' : Action} (h : Moved R a a') (s : Session) (w : σ) :
    a.session shell s w = a'.session shell s w := by
  cases h <;> rfl

theorem moved_compileError {blame blame' : Option Int → Text → HookFailure} (hb : ∀ status detail,
    CompileError.Moved R (.hook (blame status detail)) (.hook (blame' status detail))) (caught : Bool)
    (f : RunFault) : CompileError.Moved R (f.compileError caught blame) (f.compileError caught blame') := by
  cases f with
  | failed status detail => exact hb status detail
  | file e =>
    cases caught with
    | false => exact .file e
    | true => exact hb none e.shown

theorem Moved.matches {a a' : Action} (h : Moved R a a') (hD : Collection.Stable D) (hm : m.Alike D n)
    {blame blame' : Option Int → Text → HookFailure} (hb : ∀ status detail,
      CompileError.Moved R (.hook (blame status detail)) (.hook (blame' status detail)))
    (language content : Text) (j j' : Journal) :
    Work.Matches (Bench.Alike D) (CompileError.Moved R)
      (a.result shell m.session m.world blame, a.bench shell language content m j)
      (a'.result shell n.session n.world blame', a'.bench shell language content n j') := by
  obtain ⟨s, w, i, c⟩ := m
  obtain ⟨s', w', i', c'⟩ := n
  obtain ⟨rfl, rfl, hc⟩ := hm
  cases h with
  | keep fragment => exact .ok ⟨rfl, rfl, hD _ _ _ _ hc⟩
  | done v => exact .ok ⟨rfl, rfl, hc⟩
  | failed h => exact .error h ⟨rfl, rfl, hc⟩
  | run code args caught =>
    simp only [result]
    cases (s.attempt shell code args w).1 with
    | ok t => exact .ok ⟨rfl, rfl, hc⟩
    | error f => exact .error (moved_compileError hb caught f) ⟨rfl, rfl, hc⟩

end Action

namespace Fragment

theorem moved_blame (h : b.Moved R b') (tag : Tag) (status : Option Int) (detail : Text) :
    CompileError.Moved R (.hook (blame b tag status detail)) (.hook (blame b' tag status detail)) :=
  .hook h.line

theorem moved_wrapper (base body content : Text) :
    Action.Moved R (.done (((wrapper base body content).mapError .delimiter).map .text))
      (.done (((wrapper base body content).mapError .delimiter).map .text)) := by
  cases wrapper base body content with
  | ok t => exact .done _
  | error f => exact .failed (.delimiter f)

theorem moved_hosted (h : b.Moved R b') (hook : HostHook) (tag : Tag) :
    Action.Moved R (.done ((hosted hook b tag).mapError .hook)) (.done ((hosted hook b' tag).mapError .hook)) := by
  rw [hosted, hosted, h.content]
  cases hook.run b'.content tag with
  | ok v =>
    cases v with
    | text t => exact .done _
    | other => exact .failed (moved_blame h tag _ _)
  | error e => cases e <;> exact .failed (moved_blame h tag _ _)

theorem moved_action (h : b.Moved R b') (s : Session) : (actionOf s b).Moved R (actionOf s b') := by
  rw [actionOf, actionOf, h.tag]
  generalize Tag.ofText b'.rawTag = tag
  cases Policy.resolve tag s.bindings with
  | runCommand | template =>
    simp only [action, h.content]
    exact moved_wrapper _ _ _
  | compileCommand =>
    simp only [action, h.content]
    exact .run _ _ _
  | hook f =>
    cases f with
    | host f => exact moved_hosted h f tag
    | evaluate | shell =>
      simp only [action, h.content]
      exact .run _ _ _
  | fallback =>
    simp only [action, h.content]
    cases s.bindings.misc with
    | none =>
      simp only
      cases Quoting.word b'.content with
      | ok quoted => exact .keep _
      | error e => exact .failed (moved_blame h tag _ _)
    | some f =>
      cases f with
      | shell f => exact .run _ _ _
      | host run =>
        simp only
        cases run tag.language b'.content with
        | ok v => exact .done v
        | error e => exact .failed (moved_blame h tag _ _)

theorem ofBlock_moved (h : b.Moved R b') (hD : Collection.Stable D) (hm : m.Alike D n) :
    Work.Matches (Bench.Alike D) (CompileError.Moved R) (ofBlock shell b m) (ofBlock shell b' n) := by
  obtain ⟨j, hj⟩ := ofBlock_eq shell b m
  obtain ⟨j', hj'⟩ := ofBlock_eq shell b' n
  have ha := moved_action h m.session
  rw [hj, hj', outcome, outcome, ← h.tag, ← h.content, ← hm.session, ← hm.world,
    ← ha.session_eq shell m.session m.world]
  have hw := ha.matches shell hD hm (moved_blame h (Tag.ofText b.rawTag))
    (Tag.ofText b.rawTag).language b.content j j'
  rw [← hm.session, ← hm.world] at hw
  exact hw.map _

theorem fileText_alike (hD : Collection.Stable D) (hm : m.Alike D n) (hook : Option FileHook) (label : Text) :
    Work.Matches (Bench.Alike D) (CompileError.Moved Eq) (Pass.fileText shell hook label m)
      (Pass.fileText shell hook label n) := by
  obtain ⟨j, hj⟩ := fileText_eq shell hook label m
  obtain ⟨j', hj'⟩ := fileText_eq shell hook label n
  have ha : (fileAction hook label).Moved Eq (fileAction hook label) := by
    rcases hook with _ | ⟨_ | _⟩ | f
    · exact .done _
    · exact .failed (.hook rfl)
    · exact .done _
    · exact .run _ _ _
  rw [hj, hj']
  exact ha.matches shell hD hm (fun _ _ => .hook rfl) [] [] j j'

end Fragment

theorem CompileError.Moved.eq {e e' : CompileError} (h : Moved Eq e e') : e = e' := by
  cases h with
  | hook h => rw [h]
  | delimiter | file => rfl

theorem Collection.stable_eq : Stable Eq := fun _ _ _ _ h => h ▸ rfl

namespace Pass

/-- Documentation leaves nothing but notes. -/
theorem translate_filter (hD : Collection.Stable D) (hm : m.Alike D n) (bs : List Block) :
    Work.Matches (Bench.Alike D) (CompileError.Moved Eq) (translate shell bs m)
      (translate shell (bs.filter Block.isEmittable) n) := by
  induction bs generalizing m n with
  | nil => exact .ok hm
  | cons b bs ih =>
    rw [translate_cons]
    cases hb : b.isEmittable with
    | false =>
      rw [List.filter_cons_of_neg (by simp [hb]), Work.bind_of_ok (contribution_skip hb m)]
      simp only [List.nil_append, id_map']
      exact ih ⟨hm.session, hm.world, hm.data⟩
    | true =>
      rw [List.filter_cons_of_pos hb, translate_cons, contribution_block hb]
      refine (Fragment.ofBlock_moved shell ⟨rfl, rfl, rfl⟩ hD hm).bind fun ps k l hk => ?_
      rw [Work.map_apply, Work.map_apply]
      exact (ih hk).map _

theorem translate_moved (hD : Collection.Stable D) (hm : m.Alike D n) {bs bs' : List Block}
    (h : List.Forall₂ (Block.Moved R) bs bs') (hb : ∀ b ∈ bs, b.isEmittable = true)
    (hb' : ∀ b ∈ bs', b.isEmittable = true) :
    Work.Matches (Bench.Alike D) (CompileError.Moved R) (translate shell bs m) (translate shell bs' n) := by
  induction h generalizing m n with
  | nil => exact .ok hm
  | cons hbb _ ih =>
    rw [translate_cons, translate_cons, contribution_block (hb _ (by simp)),
      contribution_block (hb' _ (by simp))]
    refine (Fragment.ofBlock_moved shell hbb hD hm).bind fun ps k l hk => ?_
    rw [Work.map_apply, Work.map_apply]
    exact (ih hk (fun b hm => hb b (by simp [hm])) fun b hm => hb' b (by simp [hm])).map _

/-- Documents whose code blocks agree in tags and contents are translated alike. -/
theorem translate_alike (hD : Collection.Stable D) (hm : m.Alike D n) {bs bs' : List Block}
    (h : List.Forall₂ (Block.Moved R) (bs.filter Block.isEmittable) (bs'.filter Block.isEmittable)) :
    Work.Matches (Bench.Alike D) (CompileError.Moved R) (translate shell bs m) (translate shell bs' n) := by
  have hf : ∀ cs : List Block, ∀ b ∈ cs.filter Block.isEmittable, b.isEmittable = true :=
    fun cs b hb => (List.mem_filter.mp hb).2
  have hl := translate_filter shell (m := m) Collection.stable_eq ⟨rfl, rfl, rfl⟩ bs
  have hr := translate_filter shell (m := n) Collection.stable_eq ⟨rfl, rfl, rfl⟩ bs'
  have hc := translate_moved shell hD hm h (hf bs) (hf bs')
  have hlc : Work.Matches (Bench.Alike D) (CompileError.Moved R) (translate shell bs m)
      (translate shell (bs'.filter Block.isEmittable) n) :=
    hl.trans hc (fun h k => ⟨h.session.trans k.session, h.world.trans k.world, h.data ▸ k.data⟩)
      fun he hf => he.eq ▸ hf
  exact hlc.trans hr.symm (fun h k => ⟨h.session.trans k.session.symm, h.world.trans k.world.symm,
    k.data ▸ h.data⟩) fun he hf => hf.eq ▸ he

theorem translate_append (bs cs : List Block) :
    translate shell (bs ++ cs) = (do
      let ps ← translate shell bs
      let qs ← translate shell cs
      return ps ++ qs) := by
  induction bs with
  | nil => simp [translate]
  | cons b bs ih =>
    rw [List.cons_append, translate_cons, translate_cons, ih]
    simp only [map_bind, map_pure, bind_map_left, bind_assoc, List.append_assoc]

variable {shell} in
/-- A pass whose blocks are done fails in a file hook, and is blamed on no line, or for a file. -/
theorem conclude_fault {evalMode : Bool} {done : Progress} {e : CompileError}
    (h : conclude shell evalMode done m = (.error e, n)) :
    (∃ (label : Text) (status : Option Int) (detail : Text), (label = "file-header" ∨ label = "file-footer") ∧
      e = .hook ⟨label, 0, status, detail⟩) ∨ ∃ f, e = .file f := by
  rw [conclude_apply] at h
  rcases Work.bind_error_iff.mp h with hh | ⟨header, k, -, h⟩
  · exact (Fragment.fileText_error hh).imp_left fun ⟨status, detail, he⟩ => ⟨_, status, detail, .inl rfl, he⟩
  rcases Work.bind_error_iff.mp h with hf | ⟨footer, l, -, h⟩
  · exact (Fragment.fileText_error hf).imp_left fun ⟨status, detail, he⟩ => ⟨_, status, detail, .inr rfl, he⟩
  · cases h

end Pass
end Tangle
