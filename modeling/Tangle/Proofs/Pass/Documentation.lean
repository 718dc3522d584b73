import Tangle.Proofs.Pass.Displacement
import Tangle.Proofs.Pass.Failure

/-! # Documentation

Two documents with the same code are compiled alike, whatever stands around it and wherever it stands. If
one of them fails at a block, the other one fails at the block in the same turn, of the same. Only the line
that is blamed may differ. -/
namespace Tangle.Pass
variable {σ : Type}

/-- The code blocks of two documents have the same tags and the same contents, one by one. -/
def SameCode (document document' : Text) : Prop :=
  List.Forall₂ (fun b b' : Block => Tag.ofText b.rawTag = Tag.ofText b'.rawTag ∧ b.content = b'.content)
    ((Document.scan document).1.filter Block.isEmittable)
    ((Document.scan document').1.filter Block.isEmittable)

/-- Lines of which nothing is known. -/
abbrev anyLines (_ _ : Nat) : Prop := True

theorem SameCode.moved {document document' : Text} (h : SameCode document document') :
    List.Forall₂ (Block.Moved anyLines) ((Document.scan document).1.filter Block.isEmittable)
      ((Document.scan document').1.filter Block.isEmittable) :=
  h.imp fun _ _ hb => ⟨hb.1, hb.2, trivial⟩

/-- The block of another document in the same turn. -/
theorem exists_counterpart {R : Block → Block → Prop} {before after bs : List Block} {b : Block}
    (hb : b.isEmittable = true)
    (h : List.Forall₂ R ((before ++ b :: after).filter Block.isEmittable) (bs.filter Block.isEmittable)) :
    ∃ before' b' after', bs = before' ++ b' :: after' ∧ b'.isEmittable = true ∧ R b b' ∧
      List.Forall₂ R (before.filter Block.isEmittable) (before'.filter Block.isEmittable) := by
  let n := (before.filter Block.isEmittable).length
  rw [List.filter_append, List.filter_cons_of_pos hb] at h
  have hbefore := List.forall₂_take n h
  have hafter := List.forall₂_drop n h
  rw [List.take_left] at hbefore
  rw [List.drop_left] at hafter
  obtain ⟨b', rest, hbb, -, hrest⟩ := List.forall₂_cons_left_iff.mp hafter
  have hs : bs.filter Block.isEmittable = (bs.filter Block.isEmittable).take n ++ b' :: rest := by
    rw [← hrest, List.take_append_drop]
  obtain ⟨before', bs', rfl, hbs, hbs'⟩ := List.filter_eq_append_iff.mp hs
  obtain ⟨skipped, after', rfl, hskip, hb', -⟩ := List.filter_eq_cons_iff.mp hbs'
  refine ⟨before' ++ skipped, b', after', (List.append_assoc _ _ _).symm, hb', hbb, ?_⟩
  rw [List.filter_append, hbs, List.filter_eq_nil_iff.mpr hskip, List.append_nil]
  exact hbefore

section Translations
variable {shell : Shell σ} {m m' n : Bench σ} {bs bs' : List Block} {ss : List (Stage σ)}

/-- A translation that succeeds has one beside it with the same turns and the same pieces. -/
theorem Translates.alike (ht : Translates shell m bs ss n) (hm : m.Alike Eq m')
    (h : List.Forall₂ (Block.Moved anyLines) (bs.filter Block.isEmittable) (bs'.filter Block.isEmittable)) :
    ∃ ss' n', Translates shell m' bs' ss' n' ∧ n.Alike Eq n' ∧ ss.length = ss'.length ∧
      ss.flatMap (·.pieces) = ss'.flatMap (·.pieces) := by
  have hw := translate_alike shell Collection.stable_eq hm h
  rw [ht.translate] at hw
  obtain ⟨n', ht', hn⟩ := hw.of_ok
  obtain ⟨ss', hts'⟩ := exists_translates ht'
  refine ⟨ss', n', hts', hn, ?_, Except.ok.inj (congrArg Prod.fst (ht'.symm.trans hts'.translate))⟩
  have hl := h.length_eq
  rwa [← ht.blocks, ← hts'.blocks, List.length_map, List.length_map] at hl

theorem Translates.translate_error (ht : Translates shell m bs ss n) {b : Block} (hb : b.isEmittable = true)
    {e : CompileError} {k : Bench σ} (ho : Fragment.ofBlock shell b n = (.error e, k)) (after : List Block) :
    Pass.translate shell (bs ++ b :: after) m = (.error e, k) := by
  rw [translate_append, Work.bind_of_ok ht.translate, translate_cons, contribution_block hb]
  exact Work.bind_of_error (Work.bind_of_error ho _) _

end Translations

/-- Two passes fail in the same turn of their documents, or in the same file hook, or for the same file behind all
blocks. -/
inductive FailAlike (shell : Shell σ) (document document' : Text) (m m' : Bench σ) :
    CompileError → CompileError → Prop
  | block {before after before' after' : List Block} {b b' : Block} {ss ss' : List (Stage σ)}
      {k k' n n' : Bench σ} {e e' : CompileError}
      (hs : (Document.scan document).1 = before ++ b :: after) (hb : b.isEmittable = true)
      (hs' : (Document.scan document').1 = before' ++ b' :: after') (hb' : b'.isEmittable = true)
      (ht : Translates shell m before ss k) (ht' : Translates shell m' before' ss' k')
      (hl : ss.length = ss'.length)
      (ho : Fragment.ofBlock shell b k = (.error e, n)) (ho' : Fragment.ofBlock shell b' k' = (.error e', n'))
      (he : CompileError.Moved (fun line line' => line = b.line ∧ line' = b'.line) e e') :
      FailAlike shell document document' m m' e e'
  | file {ss ss' : List (Stage σ)} {k k' : Bench σ} {label detail : Text} {status : Option Int}
      (ht : Translates shell m (Document.scan document).1 ss k)
      (ht' : Translates shell m' (Document.scan document').1 ss' k')
      (hl : label = "file-header" ∨ label = "file-footer") :
      FailAlike shell document document' m m' (.hook ⟨label, 0, status, detail⟩)
        (.hook ⟨label, 0, status, detail⟩)
  | lapse {ss ss' : List (Stage σ)} {k k' : Bench σ} {f : FileError}
      (ht : Translates shell m (Document.scan document).1 ss k)
      (ht' : Translates shell m' (Document.scan document').1 ss' k') :
      FailAlike shell document document' m m' (.file f) (.file f)

section Passes
variable {shell : Shell σ} {document document' : Text} {m m' n : Bench σ} {evalMode : Bool}

theorem conclude_alike (shell : Shell σ) (evalMode : Bool) (hm : m.Alike Eq m') (done : Progress) :
    Work.Matches (Bench.Alike Eq) (CompileError.Moved Eq) (conclude shell evalMode done m)
      (conclude shell evalMode done m') := by
  rw [conclude_apply, conclude_apply, hm.session]
  refine (Fragment.fileText_alike shell Collection.stable_eq hm _ _).bind fun header k k' hk => ?_
  show Work.Matches _ _ ((_ : Work σ CompileError Outcome) k) ((_ : Work σ CompileError Outcome) k')
  rw [hk.session]
  refine (Fragment.fileText_alike shell Collection.stable_eq hk _ _).bind fun footer n n' hn => ?_
  rw [hn.session, hn.data]
  exact .ok hn

/-- The passes over two documents with the same code. -/
theorem eager_alike (shell : Shell σ) (hs : (Document.scan document).2 = none)
    (hs' : (Document.scan document').2 = none)
    (hb : SameCode document document') (hm : m.Alike Eq m') (evalMode : Bool) :
    (∃ o n n', eager shell document evalMode m = (.ok o, n) ∧ eager shell document' evalMode m' = (.ok o, n') ∧
      n.Alike Eq n') ∨
    ∃ e e' n n', eager shell document evalMode m = (.error e, n) ∧
      eager shell document' evalMode m' = (.error e', n') ∧ n.Alike Eq n' ∧
      FailAlike shell document document' m m' e e' := by
  rcases ht : translate shell (Document.scan document).1 m with ⟨e | ps, k⟩
  · obtain ⟨before, b, after, ss, l, hsplit, hts, hbe, ho⟩ := exists_failing ht
    have hcode := hb
    rw [SameCode, hsplit] at hcode
    obtain ⟨before', b', after', hsplit', hbe', ⟨htag, hcontent⟩, hbefore⟩ := exists_counterpart hbe hcode
    obtain ⟨ss', l', hts', hl, hlen, -⟩ := hts.alike hm (hbefore.imp fun _ _ hb => ⟨hb.1, hb.2, trivial⟩)
    have hf := Fragment.ofBlock_moved shell (R := fun line line' => line = b.line ∧ line' = b'.line)
      ⟨htag, hcontent, rfl, rfl⟩ Collection.stable_eq hl
    rw [ho] at hf
    obtain ⟨e', k', ho', he, hk⟩ := hf.of_error
    have ht' := hts'.translate_error hbe' ho' after'
    rw [← hsplit'] at ht'
    exact .inr ⟨e, e', k, k', Work.bind_of_error ht _, Work.bind_of_error ht' _, hk,
      .block hsplit hbe hsplit' hbe' hts hts' hlen ho ho' he⟩
  obtain ⟨ss, hts⟩ := exists_translates ht
  cases hts.translate.symm.trans ht
  obtain ⟨ss', k', hts', hk, -, hpieces⟩ := hts.alike hm hb.moved
  have hn := hb.length_eq
  rw [eager, eager, Work.bind_of_ok ht, Work.bind_of_ok hts'.translate, hs, hs', ← hpieces, ← hn]
  simp only
  have hc := conclude_alike shell evalMode hk
    ⟨ss.flatMap (·.pieces), ((Document.scan document).1.filter Block.isEmittable).length⟩
  rcases hr : conclude shell evalMode
      ⟨ss.flatMap (·.pieces), ((Document.scan document).1.filter Block.isEmittable).length⟩ k with ⟨e | o, n⟩
  · rw [hr] at hc
    obtain ⟨e', n', hr', he, hn⟩ := hc.of_error
    cases he.eq
    refine .inr ⟨_, _, n, n', hr, hr', hn, ?_⟩
    rcases conclude_fault hr with ⟨label, status, detail, hl, rfl⟩ | ⟨f, rfl⟩
    · exact .file hts hts' hl
    · exact .lapse hts hts'
  · rw [hr] at hc
    obtain ⟨n', hr', hn⟩ := hc.of_ok
    exact .inl ⟨o, n, n', hr, hr', hn⟩

end Passes

/-- What two documents with the same code are compiled to. Their scripts, counts and data are the same, and
so is all that their shells leave; or both fail for the same reason, each blamed on its own line. -/
theorem compile_alike (c : Compiler) (hc : c.bindings.ReturnsText) (shell : Shell σ) (site : Site)
    (settings : Settings) (world : σ) (journal journal' : Journal) (evalMode : Bool)
    {document document' : Text} (hs : (Document.scan document).2 = none)
    (hs' : (Document.scan document').2 = none) (hb : SameCode document document') :
    let r := c.compile shell site settings world journal document evalMode
    let r' := c.compile shell site settings world journal' document' evalMode
    r'.compiler = r.compiler ∧ r'.world = r.world ∧
    ((∃ script, r.script = .ok script ∧ r'.script = .ok script) ∨
      (∃ f, Session.start site settings c.searchPath c.bindings = .error f ∧
        r.script = .error (.definition f) ∧ r'.script = .error (.definition f)) ∨
      ∃ s e e', Session.start site settings c.searchPath c.bindings = .ok s ∧
        r.script = .error e ∧ r'.script = .error e' ∧
        FailAlike shell document document' (opened s world journal) (opened s world journal') e e') := by
  intro r r'
  cases hstart : Session.start site settings c.searchPath c.bindings with
  | error f =>
    have hf : ∀ journal document, c.compile shell site settings world journal document evalMode =
        ⟨.error (.definition f), c, world, journal.note 2 "Starting compilation..."⟩ := by
      intro journal document
      rw [Compiler.compile, hstart]
    have hr : r = _ := hf journal document
    have hr' : r' = _ := hf journal' document'
    rw [hr, hr']
    exact ⟨rfl, rfl, .inr (.inl ⟨f, rfl, rfl, rfl⟩)⟩
  | ok s =>
    have hr : r = _ := compile_eq c shell hstart world journal document evalMode
    have hr' : r' = _ := compile_eq c shell hstart world journal' document' evalMode
    have hm : Settled c.bindings settings (opened s world journal) := .opened hstart world journal
    have hm' : (opened s world journal).Alike Eq (opened s world journal') := ⟨rfl, rfl, rfl⟩
    rcases eager_alike shell hs hs' hb hm' evalMode with
      ⟨o, n, n', ho, ho', hn⟩ | ⟨e, e', n, n', ho, ho', hn, hf⟩
    · obtain ⟨ts, hts⟩ := hm.eager_texts hc ho
      rw [ho] at hr
      rw [ho'] at hr'
      simp only [hts, assemble_texts] at hr hr'
      rw [hr, hr']
      exact ⟨rfl, hn.world.symm, .inl ⟨_, rfl, rfl⟩⟩
    · rw [ho] at hr
      rw [ho'] at hr'
      rw [hr, hr']
      exact ⟨rfl, hn.world.symm, .inr (.inr ⟨s, e, e', rfl, rfl, rfl, hf⟩)⟩

/-- Around the blocks of the second document stand prose, an indented line, a wide fence and one without a
tag. The last block cannot be quoted. -/
theorem compile_alike_nul :
    let document : Text := "\x60\x60\x60c\nx\n\x60\x60\x60\n\x60\x60\x60d |cat\n\x60\x60\x60\n\x60\x60\x60d\n\x00\n\x60\x60\x60\n"
    let document' : Text :=
      "# c\n\n ~~~ c\nx\n~~~\n    sh\n~~~~sh\ny\n~~~~\n~~~ d  |cat\n~~~\n\x60\x60\x60\nz\n\x60\x60\x60\n\x60\x60\x60d\n\x00\n\x60\x60\x60\n"
    ∃ s, Session.start ⟨"/tmp", "mdsh"⟩ {} [] {} = .ok s ∧
      (Document.scan document).2 = none ∧ (Document.scan document').2 = none ∧ SameCode document document' ∧
      FailAlike (Shell.ofFiles fun _ => .unstartable []) document document' (opened s () {}) (opened s () {})
        (.hook ⟨"d", 6, none, QuoteFault.nul.message⟩) (.hook ⟨"d", 15, none, QuoteFault.nul.message⟩) := by
  intro document document'
  let s : Session := {
    site := ⟨"/tmp", "mdsh"⟩, settings := {}, searchPath := []
    base := {}, bindings := {}, functions := {} }
  have hstart : Session.start ⟨"/tmp", "mdsh"⟩ {} [] {} = .ok s := rfl
  have hs : (Document.scan document).2 = none := by decide +kernel
  have hs' : (Document.scan document').2 = none := by decide +kernel
  have hb : SameCode document document' := by
    have hblocks : (Document.scan document).1.filter Block.isEmittable =
      [⟨"c", "c", "x\n", .fenced, 3, 1⟩, ⟨"d |cat", "d |cat", "", .fenced, 3, 4⟩,
        ⟨"d", "d", "\x00\n", .fenced, 3, 6⟩] := by decide +kernel
    have hblocks' : (Document.scan document').1.filter Block.isEmittable =
      [⟨"c", " c", "x\n", .fenced, 3, 3⟩, ⟨"d  |cat", " d  |cat", "", .fenced, 3, 10⟩,
        ⟨"d", "d", "\x00\n", .fenced, 3, 15⟩] := by decide +kernel
    rw [SameCode, hblocks, hblocks']
    exact .cons ⟨by decide, rfl⟩ (.cons ⟨by decide, rfl⟩ (.cons ⟨by decide, rfl⟩ .nil))
  have hc : Bindings.ReturnsText {} := ⟨nofun, nofun, nofun⟩
  have h := compile_alike {} hc (Shell.ofFiles fun _ => .unstartable []) ⟨"/tmp", "mdsh"⟩ {} () {} {} false
    hs hs' hb
  have hr : (Compiler.compile {} (Shell.ofFiles fun _ => .unstartable []) ⟨"/tmp", "mdsh"⟩ {} () {} document
      false).script = .error (.hook ⟨"d", 6, none, QuoteFault.nul.message⟩) := by decide +kernel
  have hr' : (Compiler.compile {} (Shell.ofFiles fun _ => .unstartable []) ⟨"/tmp", "mdsh"⟩ {} () {} document'
      false).script = .error (.hook ⟨"d", 15, none, QuoteFault.nul.message⟩) := by decide +kernel
  simp only at h
  generalize Compiler.compile _ _ _ _ _ _ document false = r at h hr
  generalize Compiler.compile _ _ _ _ _ _ document' false = r' at h hr'
  refine ⟨s, hstart, hs, hs', hb, ?_⟩
  rcases h with ⟨-, -, ⟨script, he, -⟩ | ⟨f, he, -⟩ | ⟨s', e, e', hstart', he, he', hf⟩⟩
  · cases hr.symm.trans he
  · cases hstart.symm.trans he
  · cases hstart.symm.trans hstart'
    cases hr.symm.trans he
    cases hr'.symm.trans he'
    exact hf

end Tangle.Pass
