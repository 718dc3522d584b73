import Tangle.Proofs.Pass.Ending
import Tangle.Proofs.Session.Course

/-! # The first failure of a pass

Each block and each file hook ends in texts or in a fault. So a pass ends in the first fault in document order: one of
the scan counts only behind all the blocks before it, and one of a file hook only behind all blocks. A fault is blamed
on its block, or on its file hook, unless it is an error of a file. -/
namespace Tangle

/-- A hook of the host for left-over blocks, or for an end of the script, returns a text if it returns. -/
structure Bindings.ReturnsText (b : Bindings) : Prop where
  misc : ∀ run, b.misc = some (.host run) → ∀ language content v, run language content = .ok v →
    ∃ t, v = .text t
  fileHeader : ∀ v, b.fileHeader = some (.host (.ok v)) → ∃ t, v = .text t
  fileFooter : ∀ v, b.fileFooter = some (.host (.ok v)) → ∃ t, v = .text t

namespace Pass
variable {σ : Type}

theorem of_or_map {α β : Type} {o : Option α} {f : α → β} {p : Option β} {v : β} (hf : ∀ a, f a ≠ v)
    (h : (o.map f).or p = some v) : p = some v := by
  cases o with
  | none => exact h
  | some a => exact absurd (Option.some.inj h) (hf a)

/-- A hook of the host that is in effect is the caller's. -/
theorem Settled.returnsText {caller : Bindings} {settings : Settings} {m : Bench σ}
    (h : Settled caller settings m) (hc : caller.ReturnsText) : m.session.bindings.ReturnsText := by
  have hf := h.overlaid.follows h.base
  exact {
    misc := fun run hr => hc.misc run (of_or_map (by simp) (hf.misc ▸ hr))
    fileHeader := fun v hv => hc.fileHeader v (of_or_map (by simp) (hf.fileHeader ▸ hv))
    fileFooter := fun v hv => hc.fileFooter v (of_or_map (by simp) (hf.fileFooter ▸ hv)) }

/-- How a pass fails: at a block behind blocks that do not fail, at the end of the document behind all of
them, or in a file hook of a document without a fault. -/
inductive Fails (shell : Shell σ) (document : Text) (m : Bench σ) : CompileError → Prop
  | block {before after : List Block} {b : Block} {ss : List (Stage σ)} {k : Bench σ} {f : RunFault}
      (hs : (Document.scan document).1 = before ++ b :: after)
      (ht : Translates shell m before ss k) (hb : b.isEmittable = true) (hf : BlockFault shell b k f) :
      Fails shell document m (f.compileError false (HookFailure.mk (Tag.ofText b.rawTag).language b.line))
  | scan {f : ScanFault} {ss : List (Stage σ)} {k : Bench σ}
      (ht : Translates shell m (Document.scan document).1 ss k) (hf : (Document.scan document).2 = some f) :
      Fails shell document m (.scan f)
  | header {ss : List (Stage σ)} {k : Bench σ} {f : RunFault}
      (ht : Translates shell m (Document.scan document).1 ss k) (hs : (Document.scan document).2 = none)
      (hf : FileFault shell k.session.bindings.fileHeader k f) :
      Fails shell document m (f.compileError false (HookFailure.mk "file-header" 0))
  | footer {ss : List (Stage σ)} {k l : Bench σ} {v : HookValue} {f : RunFault}
      (ht : Translates shell m (Document.scan document).1 ss k) (hs : (Document.scan document).2 = none)
      (hh : fileText shell k.session.bindings.fileHeader "file-header" k = (.ok v, l))
      (hf : FileFault shell l.session.bindings.fileFooter l f) :
      Fails shell document m (f.compileError false (HookFailure.mk "file-footer" 0))

/-- A pass ends at a block whose delimiter cannot be quoted, behind blocks that do not fail. -/
def StopsUnquotable (shell : Shell σ) (document : Text) (m : Bench σ) (f : Heredoc.Fault) : Prop :=
  ∃ before b after ss k, (Document.scan document).1 = before ++ b :: after ∧
    Translates shell m before ss k ∧ b.isEmittable = true ∧ Unquotable k b f

section Passes
variable {shell : Shell σ} {caller : Bindings} {settings : Settings} {m n : Bench σ}

/-- The reasons for which a pass fails, and the only other error that ends it. -/
theorem eager_error {document : Text} {evalMode : Bool} {e : CompileError}
    (he : eager shell document evalMode m = (.error e, n)) :
    Fails shell document m e ∨ ∃ f, e = .delimiter f ∧ StopsUnquotable shell document m f := by
  rw [eager] at he
  rcases Work.bind_error_iff.mp he with ht | ⟨ps, k, ht, hr⟩
  · obtain ⟨before, b, after, ss, k, hs, hts, hb, ho⟩ := exists_failing ht
    cases ofBlock_error ho with
    | fault hf => exact .inl (.block hs hts hb hf)
    | unusable hp hd => exact .inr ⟨_, rfl, before, b, after, ss, k, hs, hts, hb, _, hp, hd⟩
  obtain ⟨ss, hts⟩ := exists_translates ht
  left
  cases hs : (Document.scan document).2 with
  | some f =>
    rw [hs] at hr
    cases hr
    exact .scan hts hs
  | none =>
    rw [hs] at hr
    simp only [conclude_apply] at hr
    rcases Work.bind_error_iff.mp hr with hh | ⟨header, l, hh, hr⟩
    · cases fileText_end hh with
      | fault hf => exact .header hts hs hf
    rcases Work.bind_error_iff.mp hr with hft | ⟨footer, n', hft, hr⟩
    · cases fileText_end hft with
      | fault hf => exact .footer hts hs hh hf
    · cases hr

/-- A pass ends in the first error of a block. -/
theorem eager_of_block {document : Text} {before after : List Block} {b : Block} {ss : List (Stage σ)} {k : Bench σ}
    {e : CompileError} (hs : (Document.scan document).1 = before ++ b :: after) (ht : Translates shell m before ss k)
    (hb : b.isEmittable = true) (ho : Fragment.ofBlock shell b k = (.error e, n)) (evalMode : Bool) :
    eager shell document evalMode m = (.error e, n) := by
  rw [eager, hs, Work.bind_of_error (ht.failing hb ho after)]

/-- A pass that fails for a reason ends in the error that the reason is blamed with. -/
theorem Fails.eager {document : Text} {e : CompileError} (h : Fails shell document m e) (evalMode : Bool) :
    ∃ n, eager shell document evalMode m = (.error e, n) := by
  -- Behind all blocks of a document without a fault, the pass is what its file hooks are.
  have hconclude {ss : List (Stage σ)} {k : Bench σ} (ht : Translates shell m (Document.scan document).1 ss k)
      (hs : (Document.scan document).2 = none) : ∃ done, Pass.eager shell document evalMode m =
        conclude shell evalMode done k := by
    refine ⟨⟨ss.flatMap (·.pieces), ((Document.scan document).1.filter Block.isEmittable).length⟩, ?_⟩
    rw [Pass.eager, Work.bind_of_ok ht.translate, hs]
  cases h with
  | block hs ht hb hf =>
    obtain ⟨n, hn⟩ := hf.ofBlock
    exact ⟨n, eager_of_block hs ht hb hn evalMode⟩
  | @scan f ss k ht hf =>
    refine ⟨k, ?_⟩
    rw [Pass.eager, Work.bind_of_ok ht.translate, hf]
    rfl
  | header ht hs hf =>
    obtain ⟨done, he⟩ := hconclude ht hs
    obtain ⟨n, hn⟩ := hf.fileText "file-header"
    refine ⟨n, ?_⟩
    rw [he, conclude_apply, Work.bind_of_error hn]
  | footer ht hs hh hf =>
    obtain ⟨done, he⟩ := hconclude ht hs
    obtain ⟨n, hn⟩ := hf.fileText "file-footer"
    refine ⟨n, ?_⟩
    rw [he, conclude_apply, Work.bind_of_ok hh, Work.bind_of_error hn]

/-- A compilation whose pass fails for a reason has no script. -/
theorem Fails.compile {c : Compiler} {site : Site} {s : Session} {world : σ} {journal : Journal} {document : Text}
    {e : CompileError} (h : Fails shell document (opened s world journal) e)
    (hs : Session.start site settings c.searchPath c.bindings = .ok s) (evalMode : Bool) :
    (c.compile shell site settings world journal document evalMode).script = .error e := by
  obtain ⟨n, hn⟩ := h.eager evalMode
  rw [compile_script c shell hs, hn]
  rfl

theorem StopsUnquotable.eager {document : Text} {f : Heredoc.Fault} (h : StopsUnquotable shell document m f)
    (evalMode : Bool) : ∃ n, eager shell document evalMode m = (.error (.delimiter f), n) := by
  obtain ⟨before, b, after, ss, k, hs, ht, hb, hu⟩ := h
  obtain ⟨n, hn⟩ := hu.ofBlock shell
  exact ⟨n, eager_of_block hs ht hb hn evalMode⟩

theorem StopsUnquotable.compile {c : Compiler} {site : Site} {s : Session} {world : σ} {journal : Journal}
    {document : Text} {f : Heredoc.Fault} (h : StopsUnquotable shell document (opened s world journal) f)
    (hs : Session.start site settings c.searchPath c.bindings = .ok s) (evalMode : Bool) :
    (c.compile shell site settings world journal document evalMode).script = .error (.delimiter f) := by
  obtain ⟨n, hn⟩ := h.eager evalMode
  rw [compile_script c shell hs, hn]
  rfl

theorem Unquotable.isUsable_eq_false {b : Block} {f : Heredoc.Fault} (h : Unquotable m b f) :
    Heredoc.isUsable m.session.settings.heredocDelimiter = false := by
  obtain ⟨body, -, hw⟩ := h
  rw [Bool.eq_false_iff]
  intro hd
  obtain ⟨text, ht, -⟩ := Heredoc.wrapper_feeds hd body b.content
  cases ht.symm.trans hw

theorem Settled.isUsable_eq_false (h : Settled caller settings m) {document : Text} {f : Heredoc.Fault}
    (hu : StopsUnquotable shell document m f) : Heredoc.isUsable settings.heredocDelimiter = false := by
  obtain ⟨before, b, after, ss, k, -, ht, -, hb⟩ := hu
  exact (ht.settled h).settings ▸ hb.isUsable_eq_false

theorem HandsBack.not_returnsText {b : Block} {kind : Text} (h : HandsBack m b kind) :
    ¬ m.session.bindings.ReturnsText := by
  obtain ⟨-, run, shown, hm, hr⟩ := h
  intro hc
  obtain ⟨t, ht⟩ := hc.misc run hm _ _ _ hr
  cases ht

/-- The blocks of a translation have texts only, unless a hook hands back something else. -/
theorem Translates.texts {bs : List Block} {ss : List (Stage σ)} (ht : Translates shell m bs ss n)
    (h : Settled caller settings m) (hc : caller.ReturnsText) :
    ∃ ts : List Text, ss.flatMap (·.pieces) = ts.map .text := by
  induction ht with
  | nil => exact ⟨[], rfl⟩
  | skip _ _ ih => exact ih ⟨h.overlaid, h.base, h.settings⟩
  | @block b _ _ _ _ _ _ _ ho _ ih =>
    have hk := h.ofBlock shell b
    rw [ho] at hk
    obtain ⟨us, hu⟩ := ih hk
    obtain ⟨v, ts, rfl, hv⟩ := ofBlock_ok ho
    cases hv with
    | text t => exact ⟨t :: ts ++ us, by simp [hu]⟩
    | other hb => exact absurd (h.returnsText hc) hb.not_returnsText

theorem FileEnd.text_of {hook : Option FileHook} {label : Text} {v : HookValue}
    (h : FileEnd shell hook label m (.ok v)) (hc : ∀ v, hook = some (.host (.ok v)) → ∃ t, v = .text t) :
    ∃ t, v = .text t := by
  cases h with
  | text t => exact ⟨t, rfl⟩
  | other h => exact hc _ h

/-- A pass that succeeds has texts only. -/
theorem Settled.eager_texts (h : Settled caller settings m) (hc : caller.ReturnsText) {document : Text}
    {evalMode : Bool} {o : Outcome} (ho : eager shell document evalMode m = (.ok o, n)) :
    ∃ ts : List Text, o.pieces = ts.map .text := by
  obtain ⟨ss, header, footer, k, l, -, hts, hh, hf, rfl⟩ := eager_ok ho
  obtain ⟨ts, hts'⟩ := hts.texts h hc
  have hk := hts.settled h
  have hl := hk.fileText shell k.session.bindings.fileHeader "file-header"
  rw [hh] at hl
  obtain ⟨t, rfl⟩ := (fileText_end hh).text_of (hk.returnsText hc).fileHeader
  obtain ⟨u, rfl⟩ := (fileText_end hf).text_of (hl.returnsText hc).fileFooter
  let trailer : List Text := if evalMode then [n.session.settings.evalTrailer ++ "\n"] else []
  refine ⟨t :: ts ++ u :: trailer, ?_⟩
  rw [hts']
  cases evalMode <;> simp [trailer]

variable (shell) in
/-- A pass ends in its first failure, or in texts. -/
theorem Settled.eager_ends (h : Settled caller settings m)
    (hd : Heredoc.isUsable settings.heredocDelimiter = true) (hc : caller.ReturnsText) (document : Text)
    (evalMode : Bool) :
    (∃ e n, eager shell document evalMode m = (.error e, n) ∧ Fails shell document m e) ∨
      ∃ ts : List Text, ∃ data n, eager shell document evalMode m =
        (.ok ⟨ts.map .text, ((Document.scan document).1.filter Block.isEmittable).length, data⟩, n) := by
  rcases ho : eager shell document evalMode m with ⟨e | o, n⟩
  · rcases eager_error ho with hf | ⟨f, -, hu⟩
    · exact .inl ⟨e, n, rfl, hf⟩
    · cases hd.symm.trans (h.isUsable_eq_false hu)
  · obtain ⟨ts, hts⟩ := h.eager_texts hc ho
    obtain ⟨ss, header, footer, k, l, -, -, -, -, rfl⟩ := eager_ok ho
    exact .inr ⟨ts, n.data, n, by rw [← hts]⟩

end Passes

/-- A compilation comes to an eager pass over the caller's hooks. It has a script of all blocks and counts them, or it
ends in the first failure of the document, which is blamed on its block unless it is an error of a file of a run. -/
theorem compile_ends (c : Compiler) (shell : Shell σ) {site : Site} {settings : Settings} {s : Session}
    (hs : Session.start site settings c.searchPath c.bindings = .ok s) (hc : c.bindings.ReturnsText)
    (hq : Symbol.char '\'' ∉ settings.heredocDelimiter) (hn : Symbol.newline ∉ settings.heredocDelimiter)
    (world : σ) (journal : Journal) (document : Text) (evalMode : Bool) :
    (∀ e, (c.compile shell site settings world journal document evalMode).script = .error e ↔
      Fails shell document (opened s world journal) e) ∧
    ((∃ e n, eager shell document evalMode (opened s world journal) = (.error e, n) ∧
      c.compile shell site settings world journal document evalMode =
        ⟨.error e, c, n.world, n.journal⟩ ∧
      Fails shell document (opened s world journal) e) ∨
    ∃ (ts : List Text) (blocks : Nat) (data : Collection) (n : Bench σ),
      blocks = ((Document.scan document).1.filter Block.isEmittable).length ∧
      eager shell document evalMode (opened s world journal) = (.ok ⟨ts.map .text, blocks, data⟩, n) ∧
      c.compile shell site settings world journal document evalMode =
        ⟨.ok ts.flatten, { c with blockCount := blocks, data }, n.world,
          n.journal.note 2 ("Compiled " ++ Text.ofNat blocks ++ " blocks into " ++
            Text.ofNat ts.flatten.length ++ " chars")⟩) := by
  have hm : Settled c.bindings settings (opened s world journal) := .opened hs world journal
  have hend := hm.eager_ends shell (Heredoc.isUsable_iff.mpr ⟨hq, hn⟩) hc document evalMode
  constructor
  · intro e
    constructor
    · intro he
      rw [compile_eq c shell hs] at he
      rcases hend with ⟨e', n, ho, hf⟩ | ⟨ts, data, n, ho⟩ <;> rw [ho] at he
      · cases he
        exact hf
      · simp only [assemble_texts] at he
        cases he
    · intro hf
      exact hf.compile hs evalMode
  · rw [compile_eq c shell hs]
    rcases hend with ⟨e, n, he, hf⟩ | ⟨ts, data, n, ho⟩
    · exact .inl ⟨e, n, he, by rw [he], hf⟩
    · refine .inr ⟨ts, _, data, n, rfl, ho, ?_⟩
      rw [ho]
      simp only [assemble_texts]

/-- Over hooks that return texts, a compilation without a script has failed at a line of the document, or at a block
whose delimiter cannot be quoted. -/
theorem compile_error (c : Compiler) (shell : Shell σ) {site : Site} {settings : Settings} {s : Session}
    (hs : Session.start site settings c.searchPath c.bindings = .ok s) (hc : c.bindings.ReturnsText) {world : σ}
    {journal : Journal} {document : Text} {evalMode : Bool} {e : CompileError}
    (he : (c.compile shell site settings world journal document evalMode).script = .error e) :
    Fails shell document (opened s world journal) e ∨
      ∃ f, e = .delimiter f ∧ StopsUnquotable shell document (opened s world journal) f := by
  have hm : Settled c.bindings settings (opened s world journal) := .opened hs world journal
  rw [compile_script c shell hs] at he
  rcases ho : eager shell document evalMode (opened s world journal) with ⟨e' | o, n⟩
  · rw [ho] at he
    cases he
    exact eager_error ho
  · obtain ⟨ts, hts⟩ := hm.eager_texts hc ho
    have ha : assemble o.pieces = .error e := by
      rw [ho] at he
      exact he
    rw [hts, assemble_texts] at ha
    cases ha

/-- The second block holds the null character; the open fence behind it is not what the pass fails of. -/
theorem compile_ends_nul : ∃ s, Session.start ⟨"/tmp", "mdsh"⟩ {} [] {} = .ok s ∧
    Fails (Shell.ofFiles fun _ => .unstartable [])
      "\x60\x60\x60 c++\na\n\x60\x60\x60\n\x60\x60\x60 c\n\x00\n\x60\x60\x60\n\x60\x60\x60\n" (opened s () {})
      (.hook ⟨"c", 4, none, QuoteFault.nul.message⟩) := by
  let document : Text :=
    "\x60\x60\x60 c++\na\n\x60\x60\x60\n\x60\x60\x60 c\n\x00\n\x60\x60\x60\n\x60\x60\x60\n"
  let s : Session := {
    site := ⟨"/tmp", "mdsh"⟩, settings := {}, searchPath := []
    base := {}, bindings := {}, functions := {} }
  have hs : Session.start ⟨"/tmp", "mdsh"⟩ {} [] {} = .ok s := rfl
  have hr : (eager (Shell.ofFiles fun _ => .unstartable []) document false (opened s () {})).1.map
      Outcome.pieces = .error (.hook ⟨"c", 4, none, QuoteFault.nul.message⟩) := by decide +kernel
  have hc : Bindings.ReturnsText {} := ⟨nofun, nofun, nofun⟩
  refine ⟨s, hs, ?_⟩
  rcases (compile_ends {} (Shell.ofFiles fun _ => .unstartable []) hs hc (by decide) (by decide) () {}
      document false).2 with ⟨e, n, he, -, hf⟩ | ⟨ts, blocks, data, n, -, ho, -⟩
  · rw [he] at hr
    cases hr
    exact hf
  · rw [ho] at hr
    cases hr

/-- A directive that runs code with a surrogate of its own, and one whose shell leaves a directory at the place of a
file of its state: the pass ends in an error that is blamed on no block. -/
theorem compile_unblamed :
    let surrogate : Text := [.lone ⟨0xD800, .inl (by decide)⟩]
    let code : Text := ("echo " : Text) ++ surrogate
    let document : Text := ("\x60\x60\x60x !echo " : Text) ++ surrogate ++ "\na\n\x60\x60\x60\n"
    let blocked : Dump :=
      { Dump.files [] [] [] with options := some { content := .error .isDirectory, removal := some .isDirectory } }
    let leaving (d : Dump) : Shell Unit := .ofFiles fun _ => .ended 0 [] d
    (({} : Compiler).compile (leaving (.files [] [] [])) ⟨"/tmp", "mdsh"⟩ {} () {} document false).script =
      .error (.file (.unencodable ⟨code⟩)) ∧
    (({} : Compiler).compile (leaving blocked) ⟨"/tmp", "mdsh"⟩ {} () {}
      "\x60\x60\x60x !mkdir\na\n\x60\x60\x60\n" false).script = .error (.file .isDirectory) := by
  intro surrogate code document blocked leaving
  let s : Session := {
    site := ⟨"/tmp", "mdsh"⟩, settings := {}, searchPath := []
    base := {}, bindings := {}, functions := {} }
  let m : Bench Unit := opened s () {}
  obtain ⟨script, hs⟩ : ∃ script, m.session.nextRun.script m.session.nextRun.codeFile ["a\n", "x"] = .ok script :=
    (m.session.nextRun.exists_script_iff (by decide) _).mpr ⟨by decide, nofun⟩
  constructor
  · let b : Block := ⟨("x !echo " : Text) ++ surrogate, ("x !echo " : Text) ++ surrogate, "a\n", .fenced, 3, 1⟩
    have hscan : (Document.scan document).1 = [] ++ b :: [] := by decide +kernel
    have hp : policyOf m b = .compileCommand code := rfl
    have hf : BlockFault (leaving (.files [] [] [])) b m (.file (.unencodable ⟨code⟩)) :=
      .command hp (Session.fault_of_code hs rfl (by decide))
    exact (Fails.block hscan .nil rfl hf).compile rfl false
  · let b : Block := ⟨"x !mkdir", "x !mkdir", "a\n", .fenced, 3, 1⟩
    have hscan : (Document.scan "\x60\x60\x60x !mkdir\na\n\x60\x60\x60\n").1 = [] ++ b :: [] := by decide +kernel
    have hp : policyOf m b = .compileCommand "mkdir" := rfl
    have hencodable : m.session.nextRun.Encodable m.session.nextRun.codeFile ["a\n", "x"] :=
      ⟨rfl, rfl, nofun, rfl, nofun, rfl, rfl, by decide, by decide⟩
    obtain ⟨i, ha⟩ : ∃ _ : Invocation, m.session.answer? (leaving blocked) "mkdir" ["a\n", "x"] () =
        some (.ended 0 [] blocked, ()) :=
      Session.answer?_ofFiles (by decide) hs hencodable rfl (by decide) (by decide)
    have hf : BlockFault (leaving blocked) b m (.file .isDirectory) := .command hp ⟨_, _, .unreadable ha rfl⟩
    exact (Fails.block hscan .nil rfl hf).compile rfl false

end Pass
end Tangle
