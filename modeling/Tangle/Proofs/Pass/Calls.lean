import Tangle.Proofs.Pass.Stage

/-! # The calls of a pass

The world of a shell changes by what blocks and file hooks ask of it, and by nothing else: what each of these calls
preserves, a pass preserves. -/
namespace Tangle
variable {σ : Type}

/-- What a shell is asked to do. -/
inductive ShellCall where
  | openDirectory
  | write (path : Text) (content : Bytes)
  | start (i : Invocation)

/-- The world behind a call. -/
def Shell.after (shell : Shell σ) (w : σ) : ShellCall → σ
  | .openDirectory => (shell.openDirectory w).2
  | .write path content => (shell.writeFile path content w).2
  | .start i => (shell.start w i).2

/-- The calls that a run makes, each with the world that it acts on. -/
inductive Session.Calls (shell : Shell σ) (code : Text) (args : List Text) (s : Session) (w : σ) :
    σ → ShellCall → Prop
  | directory (h : s.isOpen = false) : Calls shell code args s w w .openDirectory
  | code {w₁ : σ} {bytes : Bytes} (he : s.enter shell w = (.ok (), s.nextRun, w₁))
      (hb : code.encoded = .ok bytes) : Calls shell code args s w w₁ (.write s.nextRun.codeFile bytes)
  | script {w₁ w₂ : σ} {script : Text} {bytes : Bytes} (he : s.enter shell w = (.ok (), s.nextRun, w₁))
      (hs : s.nextRun.script s.nextRun.codeFile args = .ok script)
      (hc : shell.writeText s.nextRun.codeFile code w₁ = (.ok (), w₂)) (hb : script.encoded = .ok bytes) :
      Calls shell code args s w w₂ (.write s.nextRun.scriptFile bytes)
  | start {w₁ : σ} {i : Invocation} (h : s.ready shell code args w = (.ok i, s.nextRun, w₁))
      (hc : i.check = .ok ()) : Calls shell code args s w w₁ (.start i)

/-- The calls that an action makes. -/
inductive Action.Calls (shell : Shell σ) (s : Session) (w : σ) : Action → σ → ShellCall → Prop
  | run {code : Text} {args : List Text} {caught : Bool} {w₁ : σ} {c : ShellCall}
      (h : s.Calls shell code args w w₁ c) : Action.Calls shell s w (.run code args caught) w₁ c

section Action
variable {R : σ → σ → Prop} {shell : Shell σ}

section Run
variable (hr : ∀ w, R w w) {s s' : Session} {code : Text} {args : List Text} {w w' : σ}
include hr

theorem Shell.writeText_world {path t : Text} {r : Except FileError Unit}
    (hc : ∀ bytes, t.encoded = .ok bytes → R w (shell.after w (.write path bytes)))
    (h : shell.writeText path t w = (r, w')) : R w w' := by
  rw [writeText] at h
  split at h
  · cases h
    exact hr w
  · next bytes hb =>
    have hw := hc bytes hb
    rw [after, h] at hw
    exact hw

theorem Session.makeDirectory_world {r : Except FileError Unit}
    (hc : ∀ w₁ c, s.Calls shell code args w w₁ c → R w₁ (shell.after w₁ c))
    (h : s.makeDirectory shell w = (r, w')) : R w w' := by
  cases hs : s.isOpen with
  | false =>
    have hw := hc w .openDirectory (.directory hs)
    simp only [makeDirectory, hs, Bool.false_eq_true, if_false] at h
    rw [Shell.after, h] at hw
    exact hw
  | true =>
    simp only [makeDirectory, hs, if_true] at h
    cases h
    exact hr w

variable (ht : ∀ {u v w}, R u v → R v w → R u w)
include ht

theorem Session.supply_world {script : Text} {r : Except FileError Unit} {w₁ : σ}
    (hc : ∀ w₁ c, s.Calls shell code args w w₁ c → R w₁ (shell.after w₁ c))
    (he : s.enter shell w = (.ok (), s.nextRun, w₁)) (hs : s.nextRun.script s.nextRun.codeFile args = .ok script)
    (h : s.nextRun.supply shell script code w₁ = (r, w')) : R w₁ w' := by
  rw [supply] at h
  rcases hcode : shell.writeText s.nextRun.codeFile code w₁ with ⟨e | ⟨⟩, w₂⟩ <;> rw [hcode] at h
  · cases h
    exact Shell.writeText_world hr (fun bytes hb => hc _ _ (.code he hb)) hcode
  · exact ht (Shell.writeText_world hr (fun bytes hb => hc _ _ (.code he hb)) hcode)
      (Shell.writeText_world hr (fun bytes hb => hc _ _ (.script he hs hcode hb)) h)

theorem Session.attempt_world
    (hc : ∀ w₁ c, s.Calls shell code args w w₁ c → R w₁ (shell.after w₁ c)) :
    R w (s.attempt shell code args w).2.2 := by
  have hanswer : ∀ {a : Answer} {w₁ : σ}, s.answer? shell code args w = some (a, w₁) → R w w₁ := by
    intro a w₁ h
    obtain ⟨i, w₂, hi, -, hcheck, ha⟩ := answer?_ok h
    obtain ⟨script, w₃, -, he, hs, hw, rfl⟩ := ready_ok hi
    have hstart := hc _ _ (.start hi hcheck)
    rw [Shell.after, ha] at hstart
    exact ht (makeDirectory_world hr hc (enter_ok he).2.1) (ht (supply_world hr ht hc he hs hw) hstart)
  have h := attempt_course shell code args s w
  generalize s.attempt shell code args w = a at h ⊢
  obtain ⟨r, s', w'⟩ := a
  cases h with
  | unhoused h | uncleared h => exact makeDirectory_world hr hc h
  | unquoted he h => exact makeDirectory_world hr hc (enter_ok he).2.1
  | unwritten he hs h => exact ht (makeDirectory_world hr hc (enter_ok he).2.1) (supply_world hr ht hc he hs h)
  | uncallable h =>
    obtain ⟨script, w₁, -, he, hs, hw, -⟩ := ready_ok h
    exact ht (makeDirectory_world hr hc (enter_ok he).2.1) (supply_world hr ht hc he hs hw)
  | unstarted h | unreadable h | unsaved h | saved h => exact hanswer h

theorem Action.world_related (a : Action)
    (hc : ∀ w₁ c, a.Calls shell s w w₁ c → R w₁ (shell.after w₁ c)) : R w (a.world shell s w) := by
  cases a with
  | run code args caught => exact Session.attempt_world hr ht fun w₁ c h => hc w₁ c (.run h)
  | done r | keep t => exact hr w

end Run
end Action

namespace Pass

/-- The calls of the shell that a pass over a document makes, each with the world that it acts on. -/
inductive Calls (shell : Shell σ) (document : Text) (m : Bench σ) : σ → ShellCall → Prop
  | block {before after : List Block} {b : Block} {ss : List (Stage σ)} {k : Bench σ} {w : σ} {c : ShellCall}
      (hs : (Document.scan document).1 = before ++ b :: after) (ht : Translates shell m before ss k)
      (hb : b.isEmittable = true) (hc : (Fragment.actionOf k.session b).Calls shell k.session k.world w c) :
      Calls shell document m w c
  | header {ss : List (Stage σ)} {k : Bench σ} {w : σ} {c : ShellCall} (hn : (Document.scan document).2 = none)
      (ht : Translates shell m (Document.scan document).1 ss k)
      (hc : (Fragment.fileAction k.session.bindings.fileHeader "file-header").Calls shell k.session k.world w c) :
      Calls shell document m w c
  | footer {ss : List (Stage σ)} {k l : Bench σ} {header : HookValue} {w : σ} {c : ShellCall}
      (hn : (Document.scan document).2 = none) (ht : Translates shell m (Document.scan document).1 ss k)
      (hh : fileText shell k.session.bindings.fileHeader "file-header" k = (.ok header, l))
      (hc : (Fragment.fileAction l.session.bindings.fileFooter "file-footer").Calls shell l.session l.world w c) :
      Calls shell document m w c

section Worlds
variable {R : σ → σ → Prop} (hr : ∀ w, R w w) (ht : ∀ {u v w}, R u v → R v w → R u w) {shell : Shell σ}
include hr ht

theorem ofBlock_world {b : Block} {m : Bench σ}
    (hc : ∀ w c, (Fragment.actionOf m.session b).Calls shell m.session m.world w c → R w (shell.after w c)) :
    R m.world (Fragment.ofBlock shell b m).2.world := by
  obtain ⟨j, hj⟩ := Fragment.ofBlock_eq shell b m
  rw [hj]
  exact Action.world_related hr ht _ hc

theorem fileText_world {hook : Option FileHook} {label : Text} {m : Bench σ}
    (hc : ∀ w c, (Fragment.fileAction hook label).Calls shell m.session m.world w c → R w (shell.after w c)) :
    R m.world (fileText shell hook label m).2.world := by
  obtain ⟨j, hj⟩ := Fragment.fileText_eq shell hook label m
  rw [hj]
  exact Action.world_related hr ht _ hc

theorem translate_world {bs : List Block} {m : Bench σ}
    (hc : ∀ before b after ss k, bs = before ++ b :: after → Translates shell m before ss k →
      b.isEmittable = true → ∀ w c, (Fragment.actionOf k.session b).Calls shell k.session k.world w c →
      R w (shell.after w c)) :
    R m.world (translate shell bs m).2.world := by
  induction bs generalizing m with
  | nil => exact hr m.world
  | cons b bs ih =>
    rw [translate_cons, Work.bind_apply]
    cases hb : b.isEmittable with
    | false =>
      rw [contribution_skip hb]
      simp only [Work.map_apply]
      refine @ih (m.note 3 _) fun before c after ss k hs hts => ?_
      exact hc (b :: before) c after ss k (by rw [hs, List.cons_append]) (.skip hb hts)
    | true =>
      have hfirst := ofBlock_world hr ht (hc [] b bs [] m rfl .nil hb)
      rw [contribution_block hb]
      rcases ho : Fragment.ofBlock shell b m with ⟨e | ps, n⟩ <;> rw [ho] at hfirst
      · exact hfirst
      · simp only [Work.map_apply]
        refine ht hfirst (ih fun before c after ss k hs hts => ?_)
        exact hc (b :: before) c after _ k (by rw [hs, List.cons_append]) (.block hb ho hts)

/-- A relation that each call of a pass respects holds of the worlds before and after the pass. -/
theorem eager_world {document : Text} {m : Bench σ}
    (hc : ∀ w c, Calls shell document m w c → R w (shell.after w c)) (evalMode : Bool) :
    R m.world (eager shell document evalMode m).2.world := by
  have hblocks : R m.world (translate shell (Document.scan document).1 m).2.world :=
    translate_world hr ht fun before b after ss k hs hts hb w c hi => hc w c (.block hs hts hb hi)
  rw [eager, Work.bind_apply]
  rcases htr : translate shell (Document.scan document).1 m with ⟨e | ps, k⟩ <;> rw [htr] at hblocks
  · exact hblocks
  obtain ⟨ss, hts⟩ := exists_translates htr
  simp only
  cases hn : (Document.scan document).2 with
  | some f => exact hblocks
  | none =>
    have hheader := fileText_world hr ht fun w c hi => hc w c (.header hn hts hi)
    simp only [conclude_apply]
    rw [Work.bind_apply]
    rcases hh : fileText shell k.session.bindings.fileHeader "file-header" k with ⟨e | header, l⟩ <;>
      rw [hh] at hheader
    · exact ht hblocks hheader
    have hfooter := fileText_world hr ht fun w c hi => hc w c (.footer hn hts hh hi)
    simp only
    rw [Work.bind_apply]
    rcases hf : fileText shell l.session.bindings.fileFooter "file-footer" l with ⟨e | footer, n⟩ <;>
      rw [hf] at hfooter
    all_goals exact ht (ht hblocks hheader) hfooter

end Worlds
end Pass

/-- The calls of the shell that a compilation makes, each with the world that it acts on. -/
inductive Compiler.Calls (c : Compiler) (shell : Shell σ) (site : Site) (settings : Settings) (world : σ)
    (journal : Journal) (document : Text) : σ → ShellCall → Prop
  | pass {s : Session} {w : σ} {call : ShellCall}
      (hs : Session.start site settings c.searchPath c.bindings = .ok s)
      (h : Pass.Calls shell document (Pass.opened s world journal) w call) :
      Compiler.Calls c shell site settings world journal document w call

/-- A relation that each call of a compilation respects holds of the worlds before and after it. -/
theorem Compiler.compile_world {R : σ → σ → Prop} (hr : ∀ w, R w w)
    (ht : ∀ {u v w}, R u v → R v w → R u w) {c : Compiler} {shell : Shell σ} {site : Site}
    {settings : Settings} {world : σ} {journal : Journal} {document : Text}
    (hc : ∀ w call, c.Calls shell site settings world journal document w call → R w (shell.after w call))
    (evalMode : Bool) :
    R world (c.compile shell site settings world journal document evalMode).world := by
  cases hs : Session.start site settings c.searchPath c.bindings with
  | error e =>
    rw [Compiler.compile, hs]
    exact hr world
  | ok s =>
    have h := Pass.eager_world hr ht (fun w call h => hc w call (.pass hs h)) evalMode
    rw [Pass.compile_eq c shell hs]
    rcases ho : Pass.eager shell document evalMode (Pass.opened s world journal) with ⟨e | o, n⟩ <;>
      rw [ho] at h
    · exact h
    · simp only
      split <;> exact h

end Tangle
