import Tangle.Proofs.Collection
import Tangle.Proofs.Pass.Stage
import Mathlib.Data.List.Forall2

/-! # What a pass collects

The blocks that no hook handles are appended to arrays of the script, and recorded beside it. Both are the
work of one stage, so the arrays that the script builds are those that are recorded. -/
namespace Tangle.Pass
variable {σ : Type}

namespace Stage

/-- Holds of a block that is left over, with no hook for such blocks. -/
def isCollected (s : Stage σ) : Bool :=
  match policyOf s.bench s.block, s.bench.session.bindings.misc with
  | .fallback, none => true
  | _, _ => false

/-- The language and the content of a block. -/
def entry (s : Stage σ) : Text × Text := ((Tag.ofText s.block.rawTag).language, s.block.content)

end Stage

/-- The languages and contents of the blocks that are collected. -/
def collected (ss : List (Stage σ)) : List (Text × Text) := (ss.filter Stage.isCollected).map Stage.entry

/-- The first piece of a stage is the command that appends its block. -/
def Emits (stem : Text) (s : Stage σ) (t : Text) : Prop :=
  s.pieces.head? = some (.text t) ∧ Collection.Appends stem s.entry t

section Stages
variable {shell : Shell σ} {m k : Bench σ} {b : Block} {ps : List HookValue}

theorem ofBlock_isCollected (ho : Fragment.ofBlock shell b m = (.ok ps, k))
    (hc : (⟨m, b, ps⟩ : Stage σ).isCollected = true) :
    k.data = m.data.add (Tag.ofText b.rawTag).language b.content ∧
      ∃ t, Emits m.session.settings.dataStem ⟨m, b, ps⟩ t := by
  obtain ⟨j, hj⟩ := Fragment.ofBlock_eq shell b m
  rw [hj, Fragment.outcome] at ho
  rw [Stage.isCollected] at hc
  split at hc
  · next hp hm =>
    have ha := actionOf_eq hp
    simp only at hm
    simp only [Fragment.action, hm] at ha
    cases hw : Quoting.word b.content with
    | error e =>
      rw [ha, hw] at ho
      cases ho
    | ok quoted =>
      rw [ha, hw] at ho
      cases ho
      exact ⟨rfl, _, rfl, quoted, hw, rfl⟩
  · cases hc

theorem ofBlock_not_isCollected (ho : Fragment.ofBlock shell b m = (.ok ps, k))
    (hc : (⟨m, b, ps⟩ : Stage σ).isCollected = false) : k.data = m.data := by
  obtain ⟨j, hj⟩ := Fragment.ofBlock_eq shell b m
  obtain rfl : (Fragment.actionOf m.session b).bench shell _ b.content m j = k :=
    congrArg Prod.snd (hj.symm.trans ho)
  have ha : Fragment.actionOf m.session b = Fragment.action m.session b (Tag.ofText b.rawTag) (policyOf m b) :=
    rfl
  rw [Stage.isCollected] at hc
  simp only at hc
  rw [Action.bench, ha]
  cases h : policyOf m b with
  | runCommand | template | compileCommand => rfl
  | hook f => rcases f with _ | _ | f <;> rfl
  | fallback =>
    rw [Fragment.action]
    cases hm : m.session.bindings.misc with
    | none =>
      rw [h, hm] at hc
      cases hc
    | some h => rcases h with _ | f <;> rfl

/-- A translation records the collected blocks, and has a command for each of them. -/
theorem Translates.collects {caller : Bindings} {settings : Settings} {bs : List Block}
    {ss : List (Stage σ)} {n : Bench σ} (ht : Translates shell m bs ss n)
    (h : Settled caller settings m) :
    n.data = m.data.recorded (collected ss) ∧
      ∃ ts, List.Forall₂ (Emits settings.dataStem) (ss.filter Stage.isCollected) ts := by
  induction ht with
  | nil => exact ⟨rfl, [], .nil⟩
  | skip _ _ ih => exact ih ⟨h.overlaid, h.base, h.settings⟩
  | @block b _ m k _ ps ss _ ho _ ih =>
    have hk := h.ofBlock shell b
    rw [ho] at hk
    obtain ⟨hd, ts, hts⟩ := ih hk
    cases hc : (⟨m, b, ps⟩ : Stage σ).isCollected with
    | false =>
      rw [collected, List.filter_cons_of_neg (by simp [hc]), ← ofBlock_not_isCollected ho hc]
      exact ⟨hd, ts, hts⟩
    | true =>
      obtain ⟨hb, t, he⟩ := ofBlock_isCollected ho hc
      rw [h.settings] at he
      rw [collected, List.filter_cons_of_pos hc]
      refine ⟨?_, t :: ts, .cons he hts⟩
      rw [hd, hb]
      rfl

end Stages

/-- The commands for collected blocks, taken from a script in order, build the arrays that are recorded:
for each name the contents of the collected blocks whose languages are reduced to it. -/
theorem compile_collects {c : Compiler} {shell : Shell σ} {site : Site} {settings : Settings} {world : σ}
    {journal : Journal} {document script : Text} {evalMode : Bool}
    (h : (c.compile shell site settings world journal document evalMode).script = .ok script) :
    ∃ s ss k header ends ts arrays, Session.start site settings c.searchPath c.bindings = .ok s ∧
      Translates shell (opened s world journal) (Document.scan document).1 ss k ∧
      ss.map (·.block) = (Document.scan document).1.filter Block.isEmittable ∧
      assemble (header :: ss.flatMap (·.pieces) ++ ends) = .ok script ∧
      List.Forall₂ (fun (s : Stage σ) t => s.pieces.head? = some (.text t))
        (ss.filter Stage.isCollected) ts ∧
      Collection.evaluate settings.dataStem ts = some arrays ∧
      Collection.Mirrors settings.dataStem (collected ss) arrays
        (c.compile shell site settings world journal document evalMode).compiler.data := by
  obtain ⟨s, o, n, hs, ho, ha, hc⟩ := compile_ok h
  have hm : Settled c.bindings settings (opened s world journal) := .opened hs world journal
  obtain ⟨ss, header, footer, k, l, -, hts, hh, hf, rfl⟩ := eager_ok ho
  obtain ⟨hd, ts, hem⟩ := hts.collects hm
  have hl : l.data = k.data := by rw [← Fragment.fileText_data shell _ "file-header" k, hh]
  have hn : n.data = l.data := by rw [← Fragment.fileText_data shell _ "file-footer" l, hf]
  have hdata : n.data = Collection.recorded {} (collected ss) := (hn.trans hl).trans hd
  have happ : List.Forall₂ (Collection.Appends settings.dataStem) (collected ss) ts :=
    List.forall₂_map_left_iff.mpr (hem.imp fun _ _ he => he.2)
  obtain ⟨arrays, hev, hmir⟩ := Collection.mirrors_recorded happ
  refine ⟨s, ss, k, header, _, ts, arrays, hs, hts, hts.blocks, ha, hem.imp fun _ _ he => he.1, hev, ?_⟩
  rw [hc]
  exact hdata ▸ hmir

/-- Two languages with one name, and a block between them that a hook handles. -/
theorem compile_collects_shared : ∃ (ss : List (Stage Unit)) (ts : List Text) (arrays : Table (List Bytes))
    (data : Collection),
    List.Forall₂ (fun s t => s.pieces.head? = some (.text t)) (ss.filter Stage.isCollected) ts ∧
    Collection.evaluate "mdsh_raw_" ts = some arrays ∧
    Collection.Mirrors "mdsh_raw_" (collected ss) arrays data ∧
    arrays.get? "mdsh_raw_c__" = some [Text.encode "a\n", Text.encode "'b\n"] := by
  let document : Text := "\x60\x60\x60c++\na\n\x60\x60\x60\n~~~sh\nx\n~~~\n\x60\x60\x60c--\n'b\n\x60\x60\x60\n"
  have hs : (Compiler.compile {} (Shell.ofFiles fun _ => .unstartable []) ⟨"/tmp", "mdsh"⟩ {} () {}
      document false).script = .ok "mdsh_raw_c__+=($'a\\n')\nx\nmdsh_raw_c__+=($'\\'b\\n')\n" := by
    decide +kernel
  have hd : (Compiler.compile {} (Shell.ofFiles fun _ => .unstartable []) ⟨"/tmp", "mdsh"⟩ {} () {}
      document false).compiler.data.get? "c__" = some (["a\n", "'b\n"] : List Text) := by decide +kernel
  obtain ⟨s, ss, k, header, ends, ts, arrays, -, -, -, -, hts, hev, hm⟩ := compile_collects hs
  refine ⟨ss, ts, arrays, _, hts, hev, hm, ?_⟩
  have he := hm.elements "c__"
  rw [hd] at he
  exact he

end Tangle.Pass
