import Tangle.Proofs.Pass.Documentation
import Tangle.Proofs.Session.Course

/-! # Calls one after the other

A compiler can be called again, whether the last call has succeeded or failed. No call has an effect on those
after it: each comes to what a fresh compiler comes to, and what has been counted and collected is that of
the last call that has a script. -/
namespace Tangle

namespace Compiler
variable {σ : Type}

/-- What a call is given besides the compiler. -/
structure Request where
  site : Site
  settings : Settings := {}
  document : Text
  evalMode : Bool := false

/-- A compiler over the same bindings that has not been called. -/
def fresh (c : Compiler) : Compiler := { bindings := c.bindings, searchPath := c.searchPath }

def call (c : Compiler) (shell : Shell σ) (world : σ) (journal : Journal) (q : Request) : Result σ :=
  c.compile shell q.site q.settings world journal q.document q.evalMode

/-- The results of calls, each on the compiler that the one before it leaves. -/
def calls (shell : Shell σ) : Compiler → σ → Journal → List Request → List (Result σ)
  | _, _, _, [] => []
  | c, world, journal, q :: qs =>
    let r := c.call shell world journal q
    r :: calls shell r.compiler r.world r.journal qs

/-- The count and the data of a call that has a script. -/
def Result.published? (r : Result σ) : Option (Nat × Collection) :=
  if r.script.isOk then some (r.compiler.blockCount, r.compiler.data) else none

end Compiler

namespace Pass
variable {σ : Type} {m n : Bench σ}

/-- A pass does not read the journal, and comes to the same on benches that are alike. -/
theorem eager_matches (shell : Shell σ) (document : Text) (evalMode : Bool) (hm : m.Alike Eq n) :
    Work.Matches (Bench.Alike Eq) Eq (eager shell document evalMode m) (eager shell document evalMode n) := by
  have hb : List.Forall₂ (Block.Moved Eq) ((Document.scan document).1.filter Block.isEmittable)
      ((Document.scan document).1.filter Block.isEmittable) :=
    List.forall₂_same.mpr fun _ _ => ⟨rfl, rfl, rfl⟩
  have ht := (translate_alike shell Collection.stable_eq hm hb).imp (F := Eq) CompileError.Moved.eq
  rw [eager]
  refine ht.bind fun ps k l hk => ?_
  cases (Document.scan document).2 with
  | some f => exact .error rfl hk
  | none => exact (conclude_alike shell evalMode hk _).imp CompileError.Moved.eq

end Pass

namespace Compiler
variable {σ : Type}

/-- A call comes to what a fresh compiler comes to. It leaves the bindings and the search path alone, and a
count and data of its own only if it has a script. -/
theorem call_fresh {c : Compiler} (hc : c.bindings.ReturnsText) (shell : Shell σ) (world : σ)
    (journal journal' : Journal) (q : Request) :
    let r := c.call shell world journal q
    let r' := c.fresh.call shell world journal' q
    r.script = r'.script ∧ r.world = r'.world ∧ r.compiler.fresh = c.fresh ∧
      (r.compiler.blockCount, r.compiler.data) = r'.published?.getD (c.blockCount, c.data) := by
  simp only [call]
  cases hs : Session.start q.site q.settings c.searchPath c.bindings with
  | error f =>
    have hs' : Session.start q.site q.settings c.fresh.searchPath c.fresh.bindings = .error f := hs
    rw [compile, compile, hs, hs']
    exact ⟨rfl, rfl, rfl, rfl⟩
  | ok s =>
    have hs' : Session.start q.site q.settings c.fresh.searchPath c.fresh.bindings = .ok s := hs
    rw [Pass.compile_eq c shell hs, Pass.compile_eq c.fresh shell hs']
    have hm : (Pass.opened s world journal).Alike Eq (Pass.opened s world journal') := ⟨rfl, rfl, rfl⟩
    have he := Pass.eager_matches shell q.document q.evalMode hm
    rcases ho : Pass.eager shell q.document q.evalMode (Pass.opened s world journal) with ⟨e | o, n⟩ <;>
      rw [ho] at he
    · obtain ⟨e', n', ho', rfl, hn⟩ := he.of_error
      rw [ho']
      exact ⟨rfl, hn.world, rfl, rfl⟩
    · obtain ⟨n', ho', hn⟩ := he.of_ok
      have hset : Pass.Settled c.bindings q.settings (Pass.opened s world journal) := .opened hs world journal
      obtain ⟨ts, hts⟩ := hset.eager_texts hc ho
      have ha : Pass.assemble o.pieces = .ok ts.flatten := hts ▸ Pass.assemble_texts ts
      rw [ho']
      simp only [ha, true_and]
      exact ⟨hn.world, rfl, rfl⟩

/-- The last of some values that are there is that of the tail, if there is one in it. -/
theorem getLast?_filterMap_cons {α β : Type} (f : α → Option β) (a : α) (as : List α) :
    ((a :: as).filterMap f).getLast? = ((as.filterMap f).getLast?).or (f a) := by
  cases hf : f a with
  | none => simp [hf]
  | some b => cases ht : (as.filterMap f).getLast? <;> simp [hf, List.getLast?_cons, ht]

theorem calls_fresh {c : Compiler} (hc : c.bindings.ReturnsText) (answer : Invocation → Answer)
    (journal journal' : Journal) {qs : List Request} {i : Nat} {q : Request} (hq : qs[i]? = some q) :
    let fresh := c.fresh.call (Shell.ofFiles answer) () journal'
    ∃ r, (c.calls (Shell.ofFiles answer) () journal qs)[i]? = some r ∧
      r.script = (fresh q).script ∧ r.compiler.fresh = c.fresh ∧
      (r.compiler.blockCount, r.compiler.data) =
        ((qs.take (i + 1)).filterMap fun q => (fresh q).published?).getLast?.getD (c.blockCount, c.data) := by
  intro fresh
  -- Each call leaves another compiler; what they share is the fresh compiler, which carries the induction.
  induction qs generalizing c journal i with
  | nil => cases hq
  | cons p qs ih =>
    let first := c.call (Shell.ofFiles answer) () journal p
    obtain ⟨hscript, -, hfresh, hpublished⟩ := call_fresh hc (Shell.ofFiles answer) () journal journal' p
    rw [List.take_succ_cons, getLast?_filterMap_cons]
    cases i with
    | zero =>
      cases hq
      exact ⟨first, rfl, hscript, hfresh, hpublished⟩
    | succ i =>
      have hc' : first.compiler.bindings.ReturnsText := (congrArg Compiler.bindings hfresh : _) ▸ hc
      obtain ⟨r, hr, hs, hf, hp⟩ := ih (c := first.compiler) hc' first.journal hq
      have hfirst : first.compiler.fresh = c.fresh := hfresh
      rw [hfirst] at hs hf hp
      refine ⟨r, hr, hs, hf, ?_⟩
      rw [hp, Option.getD_or, ← hpublished]

theorem length_calls (c : Compiler) (shell : Shell σ) (world : σ) (journal : Journal) (qs : List Request) :
    (c.calls shell world journal qs).length = qs.length := by
  induction qs generalizing c world journal with
  | nil => rfl
  | cons q qs ih => exact congrArg (· + 1) (ih _ _ _)

/-- Every call on a compiler comes to what a fresh compiler over the same bindings comes to, whatever the calls
before it have come to. The bindings stay, and the count and the data are those of the last call with a
script. -/
theorem calls_apart {b : Bindings} (hb : b.ReturnsText) (path : List Text) (answer : Invocation → Answer)
    (journal journal' : Journal) (qs : List Request) :
    let c : Compiler := { bindings := b, searchPath := path }
    let results := c.calls (Shell.ofFiles answer) () journal qs
    let fresh := c.call (Shell.ofFiles answer) () journal'
    results.length = qs.length ∧ ∀ i q, qs[i]? = some q → ∃ r, results[i]? = some r ∧
      r.script = (fresh q).script ∧ r.compiler.bindings = b ∧ r.compiler.searchPath = path ∧
      (r.compiler.blockCount, r.compiler.data) =
        ((qs.take (i + 1)).filterMap fun q => (fresh q).published?).getLast?.getD (0, {}) := by
  intro c results fresh
  refine ⟨length_calls c _ _ _ qs, fun i q hq => ?_⟩
  obtain ⟨r, hr, hs, hf, hp⟩ := calls_fresh (c := c) hb answer journal journal' hq
  exact ⟨r, hr, hs, congrArg Compiler.bindings hf, congrArg Compiler.searchPath hf, hp⟩

section Failed

/-- A caller with a hook function, and a document whose first block leaves no function behind. -/
def hookedCaller : Bindings := { functions := Table.empty.set "mdsh-lang-awk" "mdsh-lang-awk () \x7b gawk; \x7d" }

def forgetting : Text := "~~~mdsh\n:\n~~~\n~~~awk\none\n~~~\n"

theorem call_forgetting (shell : Shell Unit) (hshell : shell = .ofFiles fun _ => .ended 0 [] (.files [] [] [])) :
    let r := call { bindings := hookedCaller } shell () {} { site := ⟨"/tmp", "mdsh"⟩, document := forgetting }
    r.script = .ok "mdsh_raw_awk+=($'one\\n')\n" ∧ r.compiler.blockCount = 2 ∧
      r.compiler.data = ({} : Collection).add "awk" "one\n" := by
  intro r
  let s : Session := {
    site := ⟨"/tmp", "mdsh"⟩, settings := {}, searchPath := [], base := hookedCaller
    bindings := { hookedCaller with templates := Table.empty.set "awk" ⟨"gawk;", "mdsh-lang-awk"⟩ }
    functions := hookedCaller.functions, harvested := [.template "awk"] }
  have hs : Session.start ⟨"/tmp", "mdsh"⟩ {} [] hookedCaller = .ok s := rfl
  let m : Bench Unit := Pass.opened s () {}
  let b : Block := ⟨"mdsh", "mdsh", ":\n", .fenced, 3, 1⟩
  let b' : Block := ⟨"awk", "awk", "one\n", .fenced, 3, 4⟩
  have hscan : Document.scan forgetting = ([b, b'], none) := by decide +kernel
  -- The run of the first block leaves a session without the function and without its template.
  let d : Dump := .files [] [] []
  obtain ⟨script, hscript⟩ := (m.session.nextRun.exists_script_iff (by decide) []).mpr ⟨nofun, nofun⟩
  have he : m.session.nextRun.Encodable m.session.nextRun.codeFile [] :=
    ⟨rfl, rfl, nofun, rfl, by decide, rfl, rfl, by decide, nofun⟩
  obtain ⟨i, ha⟩ : ∃ i : Invocation, m.session.answer? shell ":\n" [] () = some (.ended 0 [] d, ()) :=
    hshell ▸ Session.answer?_ofFiles (by decide) hscript he rfl (by decide) (by decide)
  let s' : Session := { m.session.nextRun with
    dump := d, bindings := { m.session.bindings with templates := Table.empty }, functions := {}
    harvested := [], state := "\n" }
  have hsaved : (({ m.session.nextRun with dump := d } : Session).resumed d).harvest = .ok s' := rfl
  have hattempt := (Session.Course.saved ha rfl hsaved).attempt_eq
  obtain ⟨j, hj⟩ := Fragment.ofBlock_eq shell b m
  have hb : Fragment.ofBlock shell b m = (.ok [.text []], ⟨s', (), j, {}⟩) := by
    have haction : Fragment.actionOf m.session b = .run ":\n" [] true := rfl
    rw [hj, Fragment.outcome, haction]
    simp only [Action.result, Action.bench, Action.session, Action.world, hattempt]
    rfl
  let fragment : Text := "mdsh_raw_awk+=($'one\\n')\n"
  obtain ⟨j', hj'⟩ := Fragment.ofBlock_eq shell b' ⟨s', (), j, {}⟩
  have hb' : Fragment.ofBlock shell b' ⟨s', (), j, {}⟩ =
      (.ok [.text fragment], ⟨s', (), j', ({} : Collection).add "awk" "one\n"⟩) := hj'
  have hpass : Pass.eager shell forgetting false m = (.ok ⟨[.text [], .text [], .text fragment, .text []], 2,
      ({} : Collection).add "awk" "one\n"⟩, ⟨s', (), j', ({} : Collection).add "awk" "one\n"⟩) := by
    have ht : Pass.Translates shell m [b, b'] _ _ := .block rfl hb (.block rfl hb' .nil)
    rw [Pass.eager, hscan, Work.bind_of_ok ht.translate]
    exact Pass.conclude_bare shell rfl rfl _
  have hr := Pass.compile_eq { bindings := hookedCaller } shell hs () {} forgetting false
  rw [hpass] at hr
  have hr : r = _ := hr
  rw [hr]
  exact ⟨rfl, rfl, rfl⟩

/-- The first call drops the function of a hook, and the second has it again. The third one fails behind a
block that it has collected. -/
theorem calls_apart_failed :
    let b : Bindings := { functions := Table.empty.set "mdsh-lang-awk" "mdsh-lang-awk () \x7b gawk; \x7d" }
    let site : Site := ⟨"/tmp", "mdsh"⟩
    let qs : List Request := [
      { site, document := "~~~mdsh\n:\n~~~\n~~~awk\none\n~~~\n" },
      { site, document := "~~~awk\none\n~~~\n" },
      { site, document := "~~~x\ntwo\n~~~\n~~~y\n\x00\n~~~\n" }]
    let results := Compiler.calls (Shell.ofFiles fun _ => .ended 0 [] (.files [] [] []))
      { bindings := b } () {} qs
    b.ReturnsText ∧ ∃ r₁ r₂ r₃, results[0]? = some r₁ ∧ results[1]? = some r₂ ∧ results[2]? = some r₃ ∧
      r₁.script = .ok "mdsh_raw_awk+=($'one\\n')\n" ∧ r₁.compiler.blockCount = 2 ∧
      r₂.script = .ok "\x7b\ngawk;\n\x7d <<'\x60\x60\x60'\none\n\x60\x60\x60\n" ∧
      r₃.script = .error (.hook ⟨"y", 4, none, QuoteFault.nul.message⟩) ∧
      r₃.compiler.blockCount = 1 ∧ r₃.compiler.data.get? "x" = none := by
  intro b site qs results
  have hb : b.ReturnsText := ⟨nofun, nofun, nofun⟩
  let shell : Shell Unit := .ofFiles fun _ => .ended 0 [] (.files [] [] [])
  obtain ⟨-, h⟩ := calls_apart hb [] (fun _ => .ended 0 [] (.files [] [] [])) {} {} qs
  obtain ⟨r₁, hr₁, hs₁, -, -, hp₁⟩ := h 0 _ rfl
  obtain ⟨r₂, hr₂, hs₂, -⟩ := h 1 _ rfl
  obtain ⟨r₃, hr₃, hs₃, -, -, hp₃⟩ := h 2 _ rfl
  obtain ⟨hscript, hcount, hdata⟩ := call_forgetting shell rfl
  let publish (q : Request) := (call { bindings := b } shell () {} q).published?
  have hpublished : publish { site, document := forgetting } = some (2, ({} : Collection).add "awk" "one\n") := by
    show Result.published? (call { bindings := hookedCaller } shell () {} { site, document := forgetting }) = _
    rw [Result.published?, hscript, hcount, hdata]
    rfl
  have hlast (qs : List Request) : (({ site, document := forgetting } :: qs).filterMap publish).getLast? =
      ((qs.filterMap publish).getLast?).or (some (2, ({} : Collection).add "awk" "one\n")) :=
    hpublished ▸ getLast?_filterMap_cons publish _ qs
  have hp₁ : _ = (([{ site, document := forgetting }].filterMap publish).getLast?).getD (0, {}) := hp₁
  have hp₃ : _ = ((({ site, document := forgetting } :: qs.tail).filterMap publish).getLast?).getD (0, {}) := hp₃
  rw [hlast] at hp₁ hp₃
  refine ⟨hb, r₁, r₂, r₃, hr₁, hr₂, hr₃, hs₁.trans hscript, congrArg Prod.fst hp₁, ?_⟩
  have hcount₃ : r₃.compiler.blockCount = _ := congrArg Prod.fst hp₃
  have hdata₃ : r₃.compiler.data = _ := congrArg Prod.snd hp₃
  rw [hcount₃, hdata₃, hs₂, hs₃]
  decide +kernel

end Failed

end Compiler
end Tangle
