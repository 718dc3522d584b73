import Tangle.Proofs.Pass.Failure

/-! # The outcomes of a compilation

A compilation has a script, or fails of a scan or of a hook, with two exceptions. A here-document whose
delimiter cannot be quoted ends the pass by an error of its own; and a value that is no text, handed back by
a hook of the host for left-over blocks or for an end of the script, is found only when the pieces are put
together. By then the compiler has taken over the count and the data of the pass. A compile hook that hands
back no text fails its own block. -/
namespace Tangle.Pass
variable {σ : Type}

/-- A value of a kind that is no text is among the pieces of a pass: it comes from a block at its turn, or
from the file hooks on the benches `k` and `l`. -/
inductive Foreign (ss : List (Stage σ)) (k l : Bench σ) (kind : Text) : Prop
  | block {st : Stage σ} (hs : st ∈ ss) (h : HandsBack st.bench st.block kind)
  | header {shown : Text} (h : k.session.bindings.fileHeader = some (.host (.ok (.other kind shown))))
  | footer {shown : Text} (h : l.session.bindings.fileFooter = some (.host (.ok (.other kind shown))))

section Stages
variable {shell : Shell σ} {caller : Bindings} {settings : Settings} {m k l n : Bench σ}
  {bs : List Block} {ss : List (Stage σ)} {kind : Text}

theorem Translates.stage (ht : Translates shell m bs ss n) (h : Settled caller settings m) {st : Stage σ}
    (hst : st ∈ ss) : Settled caller settings st.bench ∧
      ∃ k, Fragment.ofBlock shell st.block st.bench = (.ok st.pieces, k) := by
  induction ht with
  | nil => cases hst
  | skip _ _ ih => exact ih ⟨h.overlaid, h.base, h.settings⟩ hst
  | @block b _ _ k _ ps ss hb ho _ ih =>
    rcases List.mem_cons.mp hst with rfl | hst
    · exact ⟨h, k, ho⟩
    · have hk := h.ofBlock shell b
      rw [ho] at hk
      exact ih hk hst

theorem HandsBack.result {b : Block} (h : HandsBack m b kind) (shell : Shell σ) : ∃ shown,
    (Fragment.actionOf m.session b).result shell m.session m.world (Fragment.blame b (Tag.ofText b.rawTag)) =
      .ok (.other kind shown) := by
  obtain ⟨hp, run, shown, hm, hr⟩ := h
  refine ⟨shown, ?_⟩
  rw [actionOf_eq hp, Fragment.action, hm]
  simp only [Action.result, hr, Except.mapError]

theorem other_mem_pieces (ht : Translates shell m bs ss n) (h : Settled caller settings m) (kind : Text) :
    (∃ shown, .other kind shown ∈ ss.flatMap (·.pieces)) ↔ ∃ st ∈ ss, HandsBack st.bench st.block kind := by
  constructor
  · rintro ⟨shown, hv⟩
    obtain ⟨st, hst, hv⟩ := List.mem_flatMap.mp hv
    obtain ⟨-, k, ho⟩ := ht.stage h hst
    obtain ⟨v, ts, hps, he⟩ := ofBlock_ok ho
    rw [hps] at hv
    rcases List.mem_cons.mp hv with rfl | hv
    · cases he with
      | other hb => exact ⟨st, hst, hb⟩
    · simp at hv
  · rintro ⟨st, hst, hb⟩
    obtain ⟨-, k, ho⟩ := ht.stage h hst
    obtain ⟨shown, hr⟩ := hb.result shell
    obtain ⟨j, hj⟩ := Fragment.ofBlock_eq shell st.block st.bench
    rw [hj, Fragment.outcome, hr] at ho
    refine ⟨shown, List.mem_flatMap.mpr ⟨st, hst, ?_⟩⟩
    rw [← Except.ok.inj (congrArg Prod.fst ho)]
    exact List.mem_cons_self

theorem fileText_other {hook : Option FileHook} {label : Text} {v : HookValue}
    (h : fileText shell hook label m = (.ok v, n)) (kind : Text) :
    (∃ shown, v = .other kind shown) ↔ ∃ shown, hook = some (.host (.ok (.other kind shown))) := by
  constructor
  · rintro ⟨shown, rfl⟩
    cases fileText_end h with
    | other hh => exact ⟨shown, hh⟩
  · rintro ⟨shown, rfl⟩
    cases h
    exact ⟨shown, rfl⟩

/-- The values of a pass that are no texts, and where they come from. -/
theorem foreign_iff {header footer : HookValue}
    (ht : Translates shell m bs ss k) (h : Settled caller settings m)
    (hh : fileText shell k.session.bindings.fileHeader "file-header" k = (.ok header, l))
    (hf : fileText shell l.session.bindings.fileFooter "file-footer" l = (.ok footer, n)) (evalMode : Bool)
    (kind : Text) :
    (∃ shown, .other kind shown ∈ header :: ss.flatMap (·.pieces) ++ footer :: (if evalMode then
      [.text (n.session.settings.evalTrailer ++ "\n")] else [])) ↔ Foreign ss k l kind := by
  have hb := other_mem_pieces ht h kind
  have hheader := fileText_other hh kind
  have hfooter := fileText_other hf kind
  have htrailer : ∀ shown, HookValue.other kind shown ∉ (if evalMode then
      [HookValue.text (n.session.settings.evalTrailer ++ "\n")] else []) := by
    intro shown
    cases evalMode <;> simp
  constructor
  · rintro ⟨shown, hv⟩
    rw [List.cons_append, List.mem_cons, List.mem_append, List.mem_cons] at hv
    rcases hv with hv | hv | hv | hv
    · obtain ⟨shown, hh⟩ := hheader.mp ⟨shown, hv.symm⟩
      exact .header hh
    · obtain ⟨st, hst, hb⟩ := hb.mp ⟨shown, hv⟩
      exact .block hst hb
    · obtain ⟨shown, hf⟩ := hfooter.mp ⟨shown, hv.symm⟩
      exact .footer hf
    · exact absurd hv (htrailer shown)
  · intro hv
    cases hv with
    | block hst hv =>
      obtain ⟨shown, hm⟩ := hb.mpr ⟨_, hst, hv⟩
      exact ⟨shown, by simp [hm]⟩
    | header hv =>
      obtain ⟨shown, rfl⟩ := hheader.mpr ⟨_, hv⟩
      exact ⟨shown, by simp⟩
    | footer hv =>
      obtain ⟨shown, rfl⟩ := hfooter.mpr ⟨_, hv⟩
      exact ⟨shown, by simp⟩

/-- At a turn that succeeds, a compile hook of the host has handed back a text. -/
theorem Translates.hosted (ht : Translates shell m bs ss n) (h : Settled caller settings m) {st : Stage σ}
    (hst : st ∈ ss) {hook : HostHook} (hp : policyOf st.bench st.block = .hook (.host hook)) :
    ∃ t, hook.run st.block.content (Tag.ofText st.block.rawTag) = .ok (.text t) := by
  obtain ⟨-, k, ho⟩ := ht.stage h hst
  obtain ⟨v, hv, -⟩ := Fragment.ofBlock_pieces ho
  rw [actionOf_eq hp, Fragment.action, Action.result, Fragment.hosted] at hv
  split at hv
  · next t hr => exact ⟨t, hr⟩
  all_goals cases hv

end Stages

/-- A value that is no text is not why a pass fails. -/
theorem not_fails_notText {shell : Shell σ} {document : Text} {m : Bench σ} {index : Nat} {kind : Text} :
    ¬ Fails shell document m (.notText index kind) := by
  have hf (f : RunFault) (blame : Option Int → Text → HookFailure) :
      CompileError.notText index kind ≠ f.compileError false blame := by
    cases f <;> nofun
  generalize he : CompileError.notText index kind = e
  intro h
  cases h with
  | scan => cases he
  | block | header | footer => exact hf _ _ he

theorem assemble_eq_ok_iff {vs : List HookValue} :
    (∃ script, assemble vs = .ok script) ↔ ∀ kind shown, .other kind shown ∉ vs := by
  constructor
  · rintro ⟨script, hs⟩ kind shown hv
    obtain ⟨ts, rfl, -⟩ := assemble_ok hs
    simp at hv
  · intro h
    cases ha : assemble vs with
    | ok script => exact ⟨script, rfl⟩
    | error e =>
      obtain ⟨ts, kind, shown, rest, rfl, -⟩ := assemble_error ha
      exact absurd (by simp) (h kind shown)

/-- All the ends of a compilation. Before all blocks and file hooks are done it leaves the compiler alone, and it ends
in the first failure, which is blamed on a line unless it is an error of a file of a run, or at a delimiter that cannot
be quoted. After that it fails exactly if a value among the pieces is no text. -/
theorem compile_outcomes (c : Compiler) (shell : Shell σ) {site : Site} {settings : Settings} {s : Session}
    (hs : Session.start site settings c.searchPath c.bindings = .ok s) (world : σ) (journal : Journal)
    (document : Text) (evalMode : Bool) :
    let m := opened s world journal
    let r := c.compile shell site settings world journal document evalMode
    (∀ e, Fails shell document m e → r.script = .error e) ∧
    (∀ f, StopsUnquotable shell document m f → r.script = .error (.delimiter f)) ∧
    ((∃ e, r.script = .error e ∧ r.compiler = c ∧ Fails shell document m e) ∨
    (∃ f, r.script = .error (.delimiter f) ∧ r.compiler = c ∧
      Heredoc.isUsable settings.heredocDelimiter = false ∧ StopsUnquotable shell document m f) ∨
    ∃ ss k l data, (Document.scan document).2 = none ∧
      Translates shell m (Document.scan document).1 ss k ∧
      (fileText shell k.session.bindings.fileHeader "file-header" k).2 = l ∧
      r.compiler = { c with blockCount := ss.length, data } ∧
      (∀ st ∈ ss, ∀ hook, policyOf st.bench st.block = .hook (.host hook) →
        ∃ t, hook.run st.block.content (Tag.ofText st.block.rawTag) = .ok (.text t)) ∧
      ((∃ script, r.script = .ok script) ∧ (∀ kind, ¬ Foreign ss k l kind) ∨
        ∃ index kind, r.script = .error (.notText index kind) ∧ Foreign ss k l kind)) := by
  intro m r
  refine ⟨fun e hf => hf.compile hs evalMode, fun f hu => ?_, ?_⟩
  · obtain ⟨n, hn⟩ := hu.eager evalMode
    show (c.compile shell site settings world journal document evalMode).script = _
    rw [compile_script c shell hs, hn]
    rfl
  have hm : Settled c.bindings settings m := .opened hs world journal
  have hr : r = _ := compile_eq c shell hs world journal document evalMode
  rcases ho : eager shell document evalMode m with ⟨e | o, n⟩
  · rw [ho] at hr
    rcases eager_error ho with hf | ⟨f, rfl, hu⟩
    · exact .inl ⟨e, by rw [hr], by rw [hr], hf⟩
    · exact .inr (.inl ⟨f, by rw [hr], by rw [hr], hm.isUsable_eq_false hu, hu⟩)
  obtain ⟨ss, header, footer, k, l, hfault, hts, hh, hf, rfl⟩ := eager_ok ho
  have hforeign := foreign_iff hts hm hh hf evalMode
  rw [ho] at hr
  simp only at hr
  refine .inr (.inr ⟨ss, k, l, n.data, hfault, hts, by rw [hh], ?_, fun st hst hook hp => hts.hosted hm hst hp,
    ?_⟩)
  · rw [← List.length_map (·.block), hts.blocks, hr]
    split <;> rfl
  · cases ha : assemble (header :: ss.flatMap (·.pieces) ++ footer :: (if evalMode then
      [.text (n.session.settings.evalTrailer ++ "\n")] else [])) with
    | ok script =>
      rw [ha] at hr
      refine .inl ⟨⟨script, by rw [hr]⟩, fun kind hk => ?_⟩
      obtain ⟨shown, hv⟩ := (hforeign kind).mpr hk
      exact assemble_eq_ok_iff.mp ⟨script, ha⟩ kind shown hv
    | error e =>
      rw [ha] at hr
      obtain ⟨ts, kind, shown, rest, hv, rfl⟩ := assemble_error ha
      exact .inr ⟨ts.length, kind, by rw [hr], (hforeign kind).mp ⟨shown, hv ▸ by simp⟩⟩

/-- A hook for left-over blocks that hands back nothing: the pass goes on to its end. -/
theorem compile_outcomes_misc :
    let c : Compiler := { bindings := { misc := some (.host fun _ _ => .ok (.other "NoneType" "None")) } }
    ∃ s, Session.start ⟨"/tmp", "mdsh"⟩ {} c.searchPath c.bindings = .ok s ∧
      ∃ (ss : List (Stage Unit)) (k l : Bench Unit), ss.length = 2 ∧ Foreign ss k l "NoneType" := by
  intro c
  let document : Text := "\x60\x60\x60sh\na\n\x60\x60\x60\n~~~x\nb\n~~~\n"
  let s : Session := {
    site := ⟨"/tmp", "mdsh"⟩, settings := {}, searchPath := []
    base := c.bindings, bindings := c.bindings, functions := {} }
  have hs : Session.start ⟨"/tmp", "mdsh"⟩ {} c.searchPath c.bindings = .ok s := rfl
  have h := compile_outcomes c (Shell.ofFiles fun _ => .unstartable []) hs () {} document false
  have hr : (c.compile (Shell.ofFiles fun _ => .unstartable []) ⟨"/tmp", "mdsh"⟩ {} () {} document
      false).script = .error (.notText 2 "NoneType") := by decide +kernel
  have hb : (c.compile (Shell.ofFiles fun _ => .unstartable []) ⟨"/tmp", "mdsh"⟩ {} () {} document
      false).compiler.blockCount = 2 := by decide +kernel
  simp only at h
  generalize c.compile _ _ _ _ _ document false = r at h hr hb
  refine ⟨s, hs, ?_⟩
  rcases h.2.2 with ⟨e, he, -, hf⟩ | ⟨f, he, -⟩ |
    ⟨ss, k, l, data, -, -, -, hc, -, ⟨⟨script, he⟩, -⟩ | ⟨index, kind, he, hk⟩⟩
  · cases hr.symm.trans he
    exact absurd hf not_fails_notText
  · cases hr.symm.trans he
  · cases hr.symm.trans he
  · cases hr.symm.trans he
    rw [hc] at hb
    exact ⟨ss, k, l, hb, hk⟩

/-- A pass that ends in neither a failure of a hook nor one of the scan, and has been counted; and a
delimiter that no block is blamed for. -/
theorem compile_misc_notText :
    let c : Compiler := { bindings := { misc := some (.host fun _ _ => .ok (.other "NoneType" "None")) } }
    let r := c.compile (Shell.ofFiles fun _ => .unstartable []) ⟨"/tmp", "mdsh"⟩ {} () {}
      "\x60\x60\x60x\na\n\x60\x60\x60\n" false
    r.script = .error (.notText 1 "NoneType") ∧ c.blockCount = 0 ∧ r.compiler.blockCount = 1 ∧
    (c.compile (Shell.ofFiles fun _ => .unstartable []) ⟨"/tmp", "mdsh"⟩ { heredocDelimiter := "a'b" } () {}
      "\x60\x60\x60x |cat\na\n\x60\x60\x60\n" false).script = .error (.delimiter ⟨"a'b"⟩) := by
  decide +kernel

end Tangle.Pass
