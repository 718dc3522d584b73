import Tangle.Proofs.Feeding
import Tangle.Proofs.Pass.Stage

/-! # The ends of blocks and of file hooks

A block at its turn ends in a text, or in a fault: a failure that is blamed on it, or an error of a file of its run,
which is blamed on nothing. There are two exceptions: a here-document whose delimiter cannot be quoted, and a hook of
the host for left-over blocks that hands back what is no text. A file hook has the second exception only. -/
namespace Tangle

/-- What runs on the input of a block under a policy that makes it a here-document. -/
def Policy.body? : Policy → Option Text
  | .runCommand code => some code
  | .template t => some t.body
  | _ => none

namespace Pass
variable {σ : Type}

/-- Why a block fails at its turn, with the fault that this is. -/
inductive BlockFault (shell : Shell σ) (b : Block) (m : Bench σ) : RunFault → Prop
  | command {code : Text} {f : RunFault} (hp : policyOf m b = .compileCommand code)
      (h : m.session.Fault shell code [b.content, (Tag.ofText b.rawTag).language] m.world f) :
      BlockFault shell b m f
  | function {name : Text} {f : RunFault} (hp : policyOf m b = .hook (.shell name))
      (h : m.session.Fault shell (name ++ " \"$@\"") [b.content, (Tag.ofText b.rawTag).language] m.world f) :
      BlockFault shell b m f
  | evaluated {status : Option Int} {detail : Text} (hp : policyOf m b = .hook .evaluate)
      (h : m.session.Fault shell b.content [] m.world (.failed status detail)) :
      BlockFault shell b m (.failed status detail)
  /-- A block that runs itself is blamed for the errors of files, too. -/
  | evaluatedFile {e : FileError} (hp : policyOf m b = .hook .evaluate)
      (h : m.session.Fault shell b.content [] m.world (.file e)) :
      BlockFault shell b m (.failed none e.shown)
  /-- The failure that a hook raises may name another block; only its status and detail count. -/
  | failed {h : HostHook} {f : HookFailure} (hp : policyOf m b = .hook (.host h))
      (he : h.run b.content (Tag.ofText b.rawTag) = .error (.failed f)) :
      BlockFault shell b m (.failed f.status f.detail)
  | raised {h : HostHook} {e : Raised} (hp : policyOf m b = .hook (.host h))
      (he : h.run b.content (Tag.ofText b.rawTag) = .error (.raised e)) :
      BlockFault shell b m (.failed none e.shown)
  | notText {h : HostHook} {kind shown : Text} (hp : policyOf m b = .hook (.host h))
      (he : h.run b.content (Tag.ofText b.rawTag) = .ok (.other kind shown)) :
      BlockFault shell b m (.failed none
        ((if h.name.isEmpty then ("hook" : Text) else h.name) ++ " returned " ++ kind ++ ", not str"))
  | leftFunction {name : Text} {f : RunFault} (hp : policyOf m b = .fallback)
      (hm : m.session.bindings.misc = some (.shell name))
      (h : m.session.Fault shell (name ++ " \"$@\"") [(Tag.ofText b.rawTag).language, b.content] m.world f) :
      BlockFault shell b m f
  | leftRaised {run : Text → Text → HookResult} {e : HookError} (hp : policyOf m b = .fallback)
      (hm : m.session.bindings.misc = some (.host run))
      (he : run (Tag.ofText b.rawTag).language b.content = .error e) :
      BlockFault shell b m (.failed none e.shown)
  | nul (hp : policyOf m b = .fallback) (hm : m.session.bindings.misc = none)
      (hn : Symbol.nul ∈ b.content) :
      BlockFault shell b m (.failed none QuoteFault.nul.message)

/-- Why a file hook fails. -/
inductive FileFault (shell : Shell σ) (hook : Option FileHook) (m : Bench σ) : RunFault → Prop
  | function {name : Text} {f : RunFault} (hh : hook = some (.shell name))
      (h : m.session.Fault shell (name ++ " \"$@\"") [] m.world f) : FileFault shell hook m f
  | raised {e : HookError} (hh : hook = some (.host (.error e))) : FileFault shell hook m (.failed none e.shown)

/-- Holds of a left-over block whose hook hands back a value of a kind that is no text. -/
def HandsBack (m : Bench σ) (b : Block) (kind : Text) : Prop :=
  policyOf m b = .fallback ∧ ∃ run shown, m.session.bindings.misc = some (.host run) ∧
    run (Tag.ofText b.rawTag).language b.content = .ok (.other kind shown)

/-- The end of the translation of a block at its turn. -/
inductive BlockEnd (shell : Shell σ) (b : Block) (m : Bench σ) : Except CompileError HookValue → Prop
  | text (t : Text) : BlockEnd shell b m (.ok (.text t))
  | fault {f : RunFault} (h : BlockFault shell b m f) :
      BlockEnd shell b m (.error (f.compileError false (Fragment.blame b (Tag.ofText b.rawTag))))
  | unusable {body : Text} {f : Heredoc.Fault} (hp : (policyOf m b).body? = some body)
      (hd : Fragment.wrapper m.session.settings.heredocDelimiter body b.content = .error f) :
      BlockEnd shell b m (.error (.delimiter f))
  | other {kind shown : Text} (h : HandsBack m b kind) : BlockEnd shell b m (.ok (.other kind shown))

/-- The end of a file hook. -/
inductive FileEnd (shell : Shell σ) (hook : Option FileHook) (label : Text) (m : Bench σ) :
    Except CompileError HookValue → Prop
  | text (t : Text) : FileEnd shell hook label m (.ok (.text t))
  | fault {f : RunFault} (h : FileFault shell hook m f) :
      FileEnd shell hook label m (.error (f.compileError false (HookFailure.mk label 0)))
  | other {kind shown : Text} (h : hook = some (.host (.ok (.other kind shown)))) :
      FileEnd shell hook label m (.ok (.other kind shown))

section Ends
variable {shell : Shell σ} {m n : Bench σ} {b : Block}

theorem run_end {code : Text} {args : List Text}
    (hf : ∀ f, m.session.Fault shell code args m.world f → BlockFault shell b m f) :
    BlockEnd shell b m ((Action.run code args false).result shell m.session m.world
      (Fragment.blame b (Tag.ofText b.rawTag))) := by
  rw [Action.result]
  cases h : (m.session.attempt shell code args m.world).1 with
  | ok t => exact .text t
  | error f => exact .fault (hf f (Session.attempt_error_iff.mp h))

theorem evaluated_end (hp : policyOf m b = .hook .evaluate) :
    BlockEnd shell b m ((Action.run b.content [] true).result shell m.session m.world
      (Fragment.blame b (Tag.ofText b.rawTag))) := by
  rw [Action.result]
  cases h : (m.session.attempt shell b.content [] m.world).1 with
  | ok t => exact .text t
  | error f =>
    have hf := Session.attempt_error_iff.mp h
    cases f with
    | failed status detail => exact .fault (.evaluated hp hf)
    | file e => exact .fault (.evaluatedFile hp hf)

theorem wrapper_end {body : Text} (hp : (policyOf m b).body? = some body) :
    BlockEnd shell b m
      (((Fragment.wrapper m.session.settings.heredocDelimiter body b.content).mapError .delimiter).map .text) := by
  cases hw : Fragment.wrapper m.session.settings.heredocDelimiter body b.content with
  | ok t => exact .text t
  | error f => exact .unusable hp hw

theorem hosted_end {h : HostHook} (hp : policyOf m b = .hook (.host h)) :
    BlockEnd shell b m ((Fragment.hosted h b (Tag.ofText b.rawTag)).mapError .hook) := by
  rw [Fragment.hosted]
  cases hr : h.run b.content (Tag.ofText b.rawTag) with
  | ok v =>
    cases v with
    | text t => exact .text t
    | other kind shown => exact .fault (.notText hp hr)
  | error e =>
    cases e with
    | raised e => exact .fault (.raised hp hr)
    | failed f => exact .fault (.failed hp hr)

theorem block_end (shell : Shell σ) (m : Bench σ) (b : Block) :
    BlockEnd shell b m ((Fragment.actionOf m.session b).result shell m.session m.world
      (Fragment.blame b (Tag.ofText b.rawTag))) := by
  rw [Fragment.actionOf]
  cases hp : Policy.resolve (Tag.ofText b.rawTag) m.session.bindings with
  | runCommand code | template t => exact wrapper_end (congrArg Policy.body? hp)
  | compileCommand code => exact run_end fun _ => .command hp
  | hook h =>
    cases h with
    | host h => exact hosted_end hp
    | evaluate => exact evaluated_end hp
    | shell f => exact run_end fun _ => .function hp
  | fallback =>
    rw [Fragment.action]
    cases hm : m.session.bindings.misc with
    | none =>
      simp only
      cases hw : Quoting.word b.content with
      | ok quoted => exact .text _
      | error e =>
        rw [Quoting.word] at hw
        split at hw
        · next hn =>
          cases hw
          exact .fault (.nul hp hm hn)
        · cases hw
    | some h =>
      cases h with
      | shell f => exact run_end fun _ => .leftFunction hp hm
      | host run =>
        simp only [Action.result]
        cases hr : run (Tag.ofText b.rawTag).language b.content with
        | error e => exact .fault (.leftRaised hp hm hr)
        | ok v =>
          cases v with
          | text t => exact .text t
          | other kind shown => exact .other ⟨hp, run, shown, hm, hr⟩

theorem file_end (shell : Shell σ) (m : Bench σ) (hook : Option FileHook) (label : Text) :
    FileEnd shell hook label m ((Fragment.fileAction hook label).result shell m.session m.world
      (HookFailure.mk label 0)) := by
  rcases hook with _ | ⟨e | v⟩ | f
  · exact .text []
  · exact .fault (.raised rfl)
  · cases v with
    | text t => exact .text t
    | other kind shown => exact .other rfl
  · simp only [Fragment.fileAction, Action.result]
    cases h : (m.session.attempt shell (f ++ " \"$@\"") [] m.world).1 with
    | ok t => exact .text t
    | error d => exact .fault (.function rfl (Session.attempt_error_iff.mp h))

/-- The first piece of a block is what its translation ends in, and all others are texts. -/
theorem ofBlock_ok {ps : List HookValue} (h : Fragment.ofBlock shell b m = (.ok ps, n)) :
    ∃ v, ∃ ts : List Text, ps = v :: ts.map .text ∧ BlockEnd shell b m (.ok v) := by
  obtain ⟨v, hv, rfl⟩ := Fragment.ofBlock_pieces h
  obtain ⟨ts, hts⟩ := Fragment.exists_following n.session (Tag.ofText b.rawTag).language
  exact ⟨v, ts, by rw [hts], hv ▸ block_end shell m b⟩

theorem ofBlock_error {e : CompileError} (h : Fragment.ofBlock shell b m = (.error e, n)) : BlockEnd shell b m (.error e) := by
  obtain ⟨j, hj⟩ := Fragment.ofBlock_eq shell b m
  have he := block_end shell m b
  rw [hj, Fragment.outcome] at h
  generalize (Fragment.actionOf m.session b).result shell m.session m.world _ = r at he h
  cases r with
  | ok v => cases h
  | error e' =>
    cases h
    exact he

theorem fileText_end {hook : Option FileHook} {label : Text}
    {r : Except CompileError HookValue} (h : fileText shell hook label m = (r, n)) :
    FileEnd shell hook label m r := by
  obtain ⟨j, hj⟩ := Fragment.fileText_eq shell hook label m
  rw [hj] at h
  cases h
  exact file_end shell m hook label

/-- A block with a fault ends in it. -/
theorem BlockFault.ofBlock {f : RunFault} (h : BlockFault shell b m f) : ∃ n,
    Fragment.ofBlock shell b m = (.error (f.compileError false (Fragment.blame b (Tag.ofText b.rawTag))), n) := by
  have hresult : (Fragment.actionOf m.session b).result shell m.session m.world
      (Fragment.blame b (Tag.ofText b.rawTag)) =
        .error (f.compileError false (Fragment.blame b (Tag.ofText b.rawTag))) := by
    have hrun {code : Text} {args : List Text} {f : RunFault} (hf : m.session.Fault shell code args m.world f)
        (caught : Bool) : (Action.run code args caught).result shell m.session m.world
          (Fragment.blame b (Tag.ofText b.rawTag)) =
            .error (f.compileError caught (Fragment.blame b (Tag.ofText b.rawTag))) := by
      rw [Action.result, Session.attempt_error_iff.mpr hf]
      rfl
    cases h with
    | command hp hf | function hp hf =>
      rw [actionOf_eq hp]
      exact hrun hf false
    | evaluated hp hf | evaluatedFile hp hf =>
      rw [actionOf_eq hp]
      exact hrun hf true
    | failed hp he | raised hp he | notText hp he =>
      rw [actionOf_eq hp, Fragment.action, Action.result, Fragment.hosted, he]
      rfl
    | leftFunction hp hm hf =>
      rw [actionOf_eq hp, Fragment.action, hm]
      exact hrun hf false
    | leftRaised hp hm he =>
      rw [actionOf_eq hp, Fragment.action, hm]
      simp only [Action.result, he]
      rfl
    | nul hp hm hn =>
      rw [actionOf_eq hp, Fragment.action, hm, Quoting.word, if_pos hn]
      rfl
  obtain ⟨j, hj⟩ := Fragment.ofBlock_eq shell b m
  rw [hj, Fragment.outcome, hresult]
  exact ⟨_, rfl⟩

/-- A file hook with a fault ends in it. -/
theorem FileFault.fileText {hook : Option FileHook} {f : RunFault} (h : FileFault shell hook m f) (label : Text) :
    ∃ n, Pass.fileText shell hook label m = (.error (f.compileError false (HookFailure.mk label 0)), n) := by
  obtain ⟨j, hj⟩ := Fragment.fileText_eq shell hook label m
  rw [hj]
  cases h with
  | function hh hf =>
    subst hh
    refine ⟨_, Prod.ext ?_ rfl⟩
    simp only [Fragment.fileAction, Action.result, Session.attempt_error_iff.mpr hf]
    rfl
  | raised hh =>
    subst hh
    exact ⟨_, rfl⟩

end Ends

/-- Holds of a block at its turn whose delimiter cannot be quoted. -/
def Unquotable (m : Bench σ) (b : Block) (f : Heredoc.Fault) : Prop :=
  ∃ body, (policyOf m b).body? = some body ∧
    Fragment.wrapper m.session.settings.heredocDelimiter body b.content = .error f

theorem Unquotable.ofBlock {m : Bench σ} {b : Block} {f : Heredoc.Fault} (h : Unquotable m b f) (shell : Shell σ) :
    ∃ n, Fragment.ofBlock shell b m = (.error (.delimiter f), n) := by
  obtain ⟨body, hp, hw⟩ := h
  obtain ⟨j, hj⟩ := Fragment.ofBlock_eq shell b m
  have hresult : Fragment.actionOf m.session b = .done (.error (.delimiter f)) := by
    cases hq : policyOf m b <;> rw [hq] at hp <;> cases hp <;> rw [actionOf_eq hq, Fragment.action, hw] <;> rfl
  rw [hj, Fragment.outcome, hresult]
  exact ⟨_, rfl⟩

end Pass
end Tangle
