import Tangle.Pass
import Tangle.Proofs.Session.Run
import Tangle.Proofs.Success

/-! # The translation of a block

A policy comes to one of three actions: a run of the shell, a result that is there at once, or a
fragment that is kept in the collected data. What a translation ends in and what it leaves is read off
from the action; the line of the block is only in its failures. -/
namespace Tangle

/-- The error of a failed run. It is blamed on a block; an error of a file is so only if it is `caught`. -/
def RunFault.compileError (caught : Bool) (blame : Option Int → Text → HookFailure) : RunFault → CompileError
  | failed status detail => .hook (blame status detail)
  | file e => if caught then .hook (blame none e.shown) else .file e

/-- What is done for a block or for a file hook. A block that runs itself catches the errors of files. -/
inductive Action where
  | run (code : Text) (args : List Text) (caught : Bool)
  | done (result : Except CompileError HookValue)
  | keep (fragment : Text)

namespace Action
variable {σ : Type}

def result (shell : Shell σ) (s : Session) (w : σ) (blame : Option Int → Text → HookFailure) :
    Action → Except CompileError HookValue
  | run code args caught => ((s.attempt shell code args w).1.mapError (·.compileError caught blame)).map .text
  | done r => r
  | keep t => .ok (.text t)

def session (shell : Shell σ) (s : Session) (w : σ) : Action → Session
  | run code args _ => (s.attempt shell code args w).2.1
  | done _ | keep _ => s

def world (shell : Shell σ) (s : Session) (w : σ) : Action → σ
  | run code args _ => (s.attempt shell code args w).2.2
  | done _ | keep _ => w

def data (language content : Text) (c : Collection) : Action → Collection
  | run .. | done _ => c
  | keep _ => c.add language content

/-- The bench that is left, up to its journal. -/
def bench (shell : Shell σ) (language content : Text) (m : Bench σ) (a : Action) (j : Journal) : Bench σ where
  session := a.session shell m.session m.world
  world := a.world shell m.session m.world
  journal := j
  data := a.data language content m.data

end Action

namespace Fragment
variable {σ : Type}

/-- The action for a block under a policy. -/
def action (s : Session) (b : Block) (tag : Tag) : Policy → Action
  | .runCommand code =>
    .done (((wrapper s.settings.heredocDelimiter code b.content).mapError .delimiter).map .text)
  | .template t =>
    .done (((wrapper s.settings.heredocDelimiter t.body b.content).mapError .delimiter).map .text)
  | .compileCommand code => .run code [b.content, tag.language] false
  | .hook (.shell f) => .run (f ++ " \"$@\"") [b.content, tag.language] false
  | .hook .evaluate => .run b.content [] true
  | .hook (.host h) => .done ((hosted h b tag).mapError .hook)
  | .fallback =>
    match s.bindings.misc with
    | some (.shell f) => .run (f ++ " \"$@\"") [tag.language, b.content] false
    | some (.host run) =>
      .done ((run tag.language b.content).mapError fun e => .hook (blame b tag none e.shown))
    | none =>
      match Quoting.word b.content with
      | .error e => .done (.error (.hook (blame b tag none e.message)))
      | .ok quoted => .keep (append s.settings.dataStem (identifierFragment tag.language) quoted)

theorem ran_eq (shell : Shell σ) (c : Call) (caught : Bool) (f : RunError → CompileError)
    (blame : Option Int → Text → HookFailure) (hf : ∀ fault, f (c.error fault) = fault.compileError caught blame)
    (language content : Text) (m : Bench σ) :
    ∃ j, (HookValue.text <$> failing f (Bench.run shell c)) m =
      ((Action.run c.code c.args caught).result shell m.session m.world blame,
        (Action.run c.code c.args caught).bench shell language content m j) := by
  obtain ⟨j, hj⟩ := Session.run_eq shell c m
  refine ⟨j, ?_⟩
  rw [Work.map_apply, failing, Work.adapt_apply, hj]
  simp only [Action.result, Action.bench, Action.session, Action.world, Action.data]
  cases (m.session.attempt shell c.code c.args m.world).1 with
  | error e => simp only [Except.mapError, Except.map, hf]
  | ok t => rfl

theorem ofRun_error (c : Call) (fault : RunFault) :
    CompileError.ofRun (c.error fault) = fault.compileError false c.failure := by
  cases fault <;> rfl

theorem blamed_error (b : Block) (tag : Tag) (c : Call) (fault : RunFault) :
    blamed b tag (c.error fault) = fault.compileError true (blame b tag) := by
  cases fault <;> rfl

theorem leftOver_eq (shell : Shell σ) (b : Block) (tag : Tag) (m : Bench σ) :
    leftOver shell b tag m = match m.session.bindings.misc with
      | some (.shell f) => called shell f (callFor b tag [] [tag.language, b.content]) m
      | some (.host run) =>
        ((run tag.language b.content).mapError fun e => .hook (blame b tag none e.shown), m)
      | none => collected b tag m := by
  show (match m.session.bindings.misc with
    | some (.shell f) => called shell f (callFor b tag [] [tag.language, b.content])
    | some (.host run) => fun bench : Bench σ =>
      ((run tag.language b.content).mapError fun e => .hook (blame b tag none e.shown), bench)
    | none => collected b tag : Work σ CompileError HookValue) m = _
  rcases m.session.bindings.misc with _ | _ | f <;> rfl

/-- A translation is its action, carried out. -/
theorem translated_eq (shell : Shell σ) (b : Block) (tag : Tag) (p : Policy) (m : Bench σ) :
    ∃ j, translated shell b tag p m =
      ((action m.session b tag p).result shell m.session m.world (blame b tag),
        (action m.session b tag p).bench shell tag.language b.content m j) := by
  have hcall : ∀ (f : Text) (args : List Text), ∃ j, called shell f (callFor b tag [] args) m =
      ((Action.run (f ++ " \"$@\"") args false).result shell m.session m.world (blame b tag),
        (Action.run (f ++ " \"$@\"") args false).bench shell tag.language b.content m j) := fun f args =>
    ran_eq shell (callFor b tag (f ++ " \"$@\"") args) false .ofRun _ (ofRun_error _) _ _ m
  cases p with
  | runCommand | template => exact ⟨m.journal, rfl⟩
  | compileCommand code =>
    exact ran_eq shell (callFor b tag code [b.content, tag.language]) false .ofRun _ (ofRun_error _) _ _ m
  | hook h =>
    cases h with
    | host h => exact ⟨m.journal, rfl⟩
    | evaluate =>
      exact ran_eq shell { code := b.content, label := tag.language } true (blamed b tag) (blame b tag)
        (blamed_error b tag _) _ _ m
    | shell f => exact hcall f _
  | fallback =>
    rw [translated, leftOver_eq]
    unfold action
    cases m.session.bindings.misc with
    | none =>
      simp only [collected]
      cases Quoting.word b.content <;> exact ⟨m.journal, rfl⟩
    | some h =>
      cases h with
      | host run => exact ⟨m.journal, rfl⟩
      | shell f => exact hcall f _

/-- What is bound to follow the blocks of a language. -/
def following (s : Session) (language : Text) : List HookValue :=
  (s.bindings.after.get? language).toList.map fun t => .text t.body.terminated

theorem exists_following (s : Session) (language : Text) :
    ∃ ts : List Text, following s language = ts.map .text :=
  ⟨(s.bindings.after.get? language).toList.map fun t => t.body.terminated, by
    rw [following, List.map_map]
    rfl⟩

/-- The action for a block, under the policy that a session resolves its tag to. -/
def actionOf (s : Session) (b : Block) : Action :=
  action s b (Tag.ofText b.rawTag) (Policy.resolve (Tag.ofText b.rawTag) s.bindings)

/-- The pieces of a block on a session and a world. -/
def outcome (shell : Shell σ) (s : Session) (w : σ) (b : Block) : Except CompileError (List HookValue) :=
  ((actionOf s b).result shell s w (blame b (Tag.ofText b.rawTag))).map fun v =>
    v :: following ((actionOf s b).session shell s w) (Tag.ofText b.rawTag).language

theorem ofBlock_eq (shell : Shell σ) (b : Block) (m : Bench σ) :
    ∃ j, ofBlock shell b m = (outcome shell m.session m.world b,
      (actionOf m.session b).bench shell (Tag.ofText b.rawTag).language b.content m j) := by
  let tag := Tag.ofText b.rawTag
  let p := Policy.resolve tag m.session.bindings
  let n := m.note 2 ("Line " ++ Text.ofNat b.line ++ ": '" ++ tag.language ++ "' -> " ++ p.name)
  obtain ⟨j, hj⟩ : ∃ j, translated shell b tag p n =
      ((actionOf m.session b).result shell m.session m.world (blame b tag),
        (actionOf m.session b).bench shell tag.language b.content m j) := translated_eq shell b tag p n
  refine ⟨j, ?_⟩
  show (translated shell b tag p >>= _) n = _
  rw [Work.bind_apply, hj, outcome]
  have hget : ∀ (f : Bench σ → Work σ CompileError (List HookValue)) k, (get >>= f) k = f k k :=
    fun _ _ => rfl
  cases (actionOf m.session b).result shell m.session m.world (blame b tag) with
  | error e => rfl
  | ok v =>
    simp only [hget, following, Action.bench]
    cases Table.get? _ tag.language <;> rfl

/-- A block that is wrapped becomes a group with a here-document of its content. -/
theorem wrapped_ok {base body content : Text} {v : HookValue}
    (h : ((wrapper base body content).mapError CompileError.delimiter).map .text = .ok v) :
    v = .text (group body ++ " <<'" ++ Heredoc.delimiter content base ++ "'\n" ++ content.terminated ++
      Heredoc.delimiter content base ++ "\n") := by
  rw [wrapper, Heredoc.statement] at h
  split at h
  · cases h
    rfl
  · cases h

/-- The pieces of a block that is translated: what its action results in, and what is bound to follow. -/
theorem ofBlock_pieces {shell : Shell σ} {b : Block} {m n : Bench σ} {ps : List HookValue}
    (h : ofBlock shell b m = (.ok ps, n)) : ∃ v,
      (actionOf m.session b).result shell m.session m.world (blame b (Tag.ofText b.rawTag)) = .ok v ∧
      ps = v :: following n.session (Tag.ofText b.rawTag).language := by
  obtain ⟨j, hj⟩ := ofBlock_eq shell b m
  rw [hj, Prod.mk.injEq] at h
  obtain ⟨ho, rfl⟩ := h
  obtain ⟨v, hv, rfl⟩ := map_eq_ok.mp ho
  exact ⟨v, hv, rfl⟩

/-- The action for a file hook. -/
def fileAction : Option FileHook → Text → Action
  | none, _ => .done (.ok (.text []))
  | some (.shell f), _ => .run (f ++ " \"$@\"") [] false
  | some (.host r), label => .done (r.mapError fun e => .hook ⟨label, 0, none, e.shown⟩)

theorem fileText_eq (shell : Shell σ) (hook : Option FileHook) (label : Text) (m : Bench σ) :
    ∃ j, Pass.fileText shell hook label m =
      ((fileAction hook label).result shell m.session m.world fun status detail => ⟨label, 0, status, detail⟩,
        (fileAction hook label).bench shell [] [] m j) := by
  cases hook with
  | none => exact ⟨m.journal, rfl⟩
  | some h =>
    cases h with
    | host r => exact ⟨m.journal, rfl⟩
    | shell f =>
      exact ran_eq shell { code := f ++ " \"$@\"", label } false .ofRun _ (ofRun_error _) _ _ m

/-- A failure of a file hook is blamed on no line, or it is that of a file. -/
theorem fileText_error {shell : Shell σ} {hook : Option FileHook} {label : Text} {m n : Bench σ}
    {e : CompileError} (h : Pass.fileText shell hook label m = (.error e, n)) :
    (∃ status detail, e = .hook ⟨label, 0, status, detail⟩) ∨ ∃ f, e = .file f := by
  obtain ⟨j, hj⟩ := fileText_eq shell hook label m
  have hr := congrArg Prod.fst (hj.symm.trans h)
  rcases hook with _ | ⟨_ | v⟩ | f
  · cases hr
  · cases hr
    exact .inl ⟨_, _, rfl⟩
  · cases hr
  · simp only [fileAction, Action.result] at hr
    cases ha : (m.session.attempt shell (f ++ " \"$@\"") [] m.world).1 with
    | ok t =>
      rw [ha] at hr
      cases hr
    | error d =>
      rw [ha] at hr
      cases hr
      cases d with
      | failed status detail => exact .inl ⟨status, detail, rfl⟩
      | file f => exact .inr ⟨f, rfl⟩

/-- A file hook collects nothing. -/
theorem fileText_data (shell : Shell σ) (hook : Option FileHook) (label : Text) (m : Bench σ) :
    (Pass.fileText shell hook label m).2.data = m.data := by
  obtain ⟨j, hj⟩ := fileText_eq shell hook label m
  rw [hj]
  rcases hook with _ | _ | f <;> rfl

end Fragment
end Tangle
