import Tangle.Proofs.Fragment
import Tangle.Proofs.Pass.Eager
import Tangle.Proofs.Session.Bindings

/-! # Benches and policies during a pass

Whatever the blocks of a document do, the bindings of the session stay overlaid over the caller's and the
built-in hooks, and the settings stay the same. A policy comes from the tag of its block, or from what is bound
to the language at the turn of the block. The action of a stage is read off from its policy. -/
namespace Tangle

namespace Pass
variable {σ : Type}

/-- The policy of a block at its turn. -/
def policyOf (m : Bench σ) (b : Block) : Policy := Policy.resolve (Tag.ofText b.rawTag) m.session.bindings

theorem actionOf_eq {m : Bench σ} {b : Block} {p : Policy} (h : policyOf m b = p) :
    Fragment.actionOf m.session b = Fragment.action m.session b (Tag.ofText b.rawTag) p :=
  congrArg (Fragment.action m.session b (Tag.ofText b.rawTag)) h

/-- What no block can change about a bench. -/
structure Settled (caller : Bindings) (settings : Settings) (m : Bench σ) : Prop where
  overlaid : m.session.Overlaid
  base : m.session.base = caller.withDefaults builtinHooks
  settings : m.session.settings = settings

section Settled
variable {caller : Bindings} {settings : Settings} {m : Bench σ}

theorem Settled.opened {site : Site} {path : List Text} {s : Session}
    (h : Session.start site settings path caller = .ok s) (world : σ) (journal : Journal) :
    Settled caller settings (Pass.opened s world journal) := by
  obtain ⟨ho, hb, hs⟩ := Session.start_ok h
  refine ⟨ho.install _, ?_, ?_⟩ <;> rw [Pass.opened, Session.install_eq]
  · rw [hb]
  · exact hs

theorem Settled.bench (h : Settled caller settings m) (shell : Shell σ) (language content : Text)
    (a : Action) (j : Journal) : Settled caller settings (a.bench shell language content m j) := by
  cases a with
  | done r | keep t => exact ⟨h.overlaid, h.base, h.settings⟩
  | run code args =>
    obtain ⟨hs, hb, -⟩ := Session.attempt_frame shell code args m.session m.world
    exact ⟨h.overlaid.attempt shell code args m.world, hb.trans h.base, hs.trans h.settings⟩

theorem Settled.ofBlock (h : Settled caller settings m) (shell : Shell σ) (b : Block) :
    Settled caller settings (Fragment.ofBlock shell b m).2 := by
  obtain ⟨j, hj⟩ := Fragment.ofBlock_eq shell b m
  rw [hj]
  exact h.bench shell _ _ _ j

theorem Settled.fileText (h : Settled caller settings m) (shell : Shell σ) (hook : Option FileHook)
    (label : Text) : Settled caller settings (Pass.fileText shell hook label m).2 := by
  obtain ⟨j, hj⟩ := Fragment.fileText_eq shell hook label m
  rw [hj]
  exact h.bench shell _ _ _ j

theorem Translates.settled {shell : Shell σ} {n : Bench σ} {bs : List Block} {ss : List (Stage σ)}
    (ht : Translates shell m bs ss n) (h : Settled caller settings m) : Settled caller settings n := by
  induction ht with
  | nil => exact h
  | skip _ _ ih => exact ih ⟨h.overlaid, h.base, h.settings⟩
  | @block b _ _ _ _ _ _ _ ho _ ih =>
    have hk := h.ofBlock shell b
    rw [ho] at hk
    exact ih hk

end Settled

end Pass

namespace Policy

/-- Where a policy comes from: the tag, or what is bound to its language. -/
inductive Source (tag : Tag) (b : Bindings) : Policy → Prop
  | run {code : Text} (h : tag.request = .run code) : Source tag b (.runCommand code)
  | compile {code : Text} (h : tag.request = .compile code) : Source tag b (.compileCommand code)
  | template {t : Template} (h : b.templates.get? tag.language = some t) : Source tag b (.template t)
  | hook {k : CompileHook} (h : b.compilers.get? tag.language = some k) : Source tag b (.hook k)
  | fallback : Source tag b .fallback

theorem source (tag : Tag) (b : Bindings) : Source tag b (resolve tag b) := by
  rw [resolve]
  split
  · next h => exact .run h
  · next h => exact .compile h
  · rw [ofLanguage]
    split
    · next h => exact .template h
    · split
      · next h => exact .hook h
      · exact .fallback

end Policy

/-- The hook that copies shell code into the script. -/
theorem default?_builtinHooks {l : Text} (h : l ∈ shellLanguages) : Bindings.default? builtinHooks l =
    some (.host ⟨"builtin-" ++ l, fun content tag => .ok (.text (passage content tag))⟩) := by
  rcases List.mem_cons.mp h with rfl | h
  · rfl
  rcases List.mem_cons.mp h with rfl | h
  · rfl
  obtain rfl := List.mem_singleton.mp h
  rfl

/-- A built-in hook of the host hands back a passage, for whatever block. -/
theorem run_of_default?_builtinHooks {l : Text} {h : HostHook}
    (hd : Bindings.default? builtinHooks l = some (.host h)) (content : Text) (tag : Tag) :
    h.run content tag = .ok (.text (passage content tag)) := by
  obtain ⟨e, he, hk⟩ := Option.map_eq_some_iff.mp hd
  rcases List.mem_append.mp (List.mem_of_find?_eq_some he) with hm | hm
  · obtain ⟨l', -, rfl⟩ := List.mem_map.mp hm
    cases hk
    rfl
  · rw [List.mem_singleton.mp hm] at hk
    cases hk

namespace Pass.Stage
variable {σ : Type} {st : Stage σ} {q : Policy}

/-- The tag of the block of a stage. -/
def tag (st : Stage σ) : Tag := Tag.ofText st.block.rawTag

theorem action_eq (h : policyOf st.bench st.block = q) :
    Fragment.actionOf st.bench.session st.block = Fragment.action st.bench.session st.block st.tag q :=
  actionOf_eq h

theorem source (h : policyOf st.bench st.block = q) :
    q.Source st.tag st.bench.session.bindings :=
  h ▸ Policy.source st.tag st.bench.session.bindings

end Pass.Stage

end Tangle
