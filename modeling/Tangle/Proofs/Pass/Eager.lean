import Tangle.Proofs.Success
import Tangle.Proofs.Work
import Tangle.Compiler

/-! # Eager passes

An eager pass scans the whole document before it translates the first block. The pass that translates
each block as it is found comes to the same, in its result and in all that it leaves. -/
namespace Tangle.Pass
variable {σ : Type}

/-- The pieces of one block; documentation has none. -/
def contribution (shell : Shell σ) (b : Block) : Work σ CompileError (List HookValue) :=
  if b.isEmittable then Fragment.ofBlock shell b
  else do
    Bench.writeNote 3 ("Line " ++ Text.ofNat b.line ++ ": skipping " ++ b.kind.name ++ " block")
    return []

/-- The pieces of blocks, from left to right. The first block that fails ends the translation. -/
def translate (shell : Shell σ) : List Block → Work σ CompileError (List HookValue)
  | [] => pure []
  | b :: bs => do
    let pieces ← contribution shell b
    let rest ← translate shell bs
    return pieces ++ rest

/-- The outcome of a pass whose blocks are done: the file hooks run, the header first. -/
def conclude (shell : Shell σ) (evalMode : Bool) (done : Progress) : Work σ CompileError Outcome := do
  let header ← fileText shell (← get).session.bindings.fileHeader "file-header"
  let footer ← fileText shell (← get).session.bindings.fileFooter "file-footer"
  let bench ← get
  let trailer := if evalMode then [.text (bench.session.settings.evalTrailer ++ "\n")] else []
  return ⟨header :: done.pieces ++ footer :: trailer, done.blocks, bench.data⟩

/-- A scan, then the translation, then the fault of the scan if there is one, then the file hooks. -/
def eager (shell : Shell σ) (text : Text) (evalMode : Bool) : Work σ CompileError Outcome := do
  let pieces ← translate shell (Document.scan text).1
  match (Document.scan text).2 with
  | some f => throw (.scan f)
  | none => conclude shell evalMode ⟨pieces, ((Document.scan text).1.filter Block.isEmittable).length⟩

/-- What has been done, and then some blocks. -/
def Progress.extend (done : Progress) (pieces : List HookValue) (bs : List Block) : Progress :=
  ⟨done.pieces ++ pieces, done.blocks + (bs.filter Block.isEmittable).length⟩

theorem visit_eq (shell : Shell σ) (done : Progress) (b : Block) :
    visit shell done b = (fun pieces => done.extend pieces [b]) <$> contribution shell b := by
  rw [visit, contribution]
  cases hb : b.isEmittable <;> simp [Progress.extend, hb]

theorem Progress.extend_extend (done : Progress) (ps qs : List HookValue) (bs cs : List Block) :
    (done.extend ps bs).extend qs cs = done.extend (ps ++ qs) (bs ++ cs) := by
  simp [extend, Nat.add_assoc]

theorem foldlM_visit (shell : Shell σ) (done : Progress) (bs : List Block) :
    bs.foldlM (visit shell) done = (done.extend · bs) <$> translate shell bs := by
  induction bs generalizing done with
  | nil => simp [translate, Progress.extend]
  | cons b bs ih =>
    rw [List.foldlM_cons, visit_eq, translate]
    simp [ih, Progress.extend_extend]

/-- The walk finds the blocks of the scan, and ends as the scan does. -/
theorem walk_eq (shell : Shell σ) (p : Document.Pending) (n : Nat) (done : Progress) (ls : List Text) :
    walk shell p n done ls = (do
      let done ← (Document.scanLines p n ls).1.foldlM (visit shell) done
      match (Document.scanLines p n ls).2 with
      | some f => throw (.scan f)
      | none => pure done) := by
  induction ls generalizing p n done with
  | nil =>
    rw [walk, Document.scanLines]
    cases p.finish with
    | error f => simp
    | ok b => cases b <;> simp [visitAny]
  | cons l ls ih =>
    rw [walk, Document.scanLines]
    simp only [ih]
    cases (p.step n l).2 <;> simp [visitAny]

theorem run_eq_eager (shell : Shell σ) (text : Text) (evalMode : Bool) :
    run shell text evalMode = eager shell text evalMode := by
  have hr : run shell text evalMode =
      walk shell .none 1 {} text.lines >>= conclude shell evalMode := rfl
  rw [hr, walk_eq, foldlM_visit, eager, Document.scan]
  cases (Document.scanLines .none 1 text.lines).2 <;> simp [Progress.extend]

/-- A block at its turn: the bench that it is translated on, and its pieces. -/
structure Stage (σ : Type) where
  bench : Bench σ
  block : Block
  pieces : List HookValue

/-- The stages of a translation that succeeds, from the first bench to the last. -/
inductive Translates (shell : Shell σ) : Bench σ → List Block → List (Stage σ) → Bench σ → Prop
  | nil {m : Bench σ} : Translates shell m [] [] m
  | skip {b : Block} {bs : List Block} {m n : Bench σ} {ss : List (Stage σ)} (hb : b.isEmittable = false)
      (h : Translates shell (m.note 3 ("Line " ++ Text.ofNat b.line ++ ": skipping " ++ b.kind.name ++
        " block")) bs ss n) :
      Translates shell m (b :: bs) ss n
  | block {b : Block} {bs : List Block} {m k n : Bench σ} {ps : List HookValue} {ss : List (Stage σ)}
      (hb : b.isEmittable = true) (ho : Fragment.ofBlock shell b m = (.ok ps, k))
      (h : Translates shell k bs ss n) :
      Translates shell m (b :: bs) (⟨m, b, ps⟩ :: ss) n

section Translates
variable {shell : Shell σ} {m n : Bench σ} {bs : List Block} {ss : List (Stage σ)}

theorem contribution_block {b : Block} (hb : b.isEmittable = true) :
    contribution shell b = Fragment.ofBlock shell b := if_pos hb

theorem contribution_skip {b : Block} (hb : b.isEmittable = false) (m : Bench σ) :
    contribution shell b m = (.ok [], m.note 3 ("Line " ++ Text.ofNat b.line ++ ": skipping " ++
      b.kind.name ++ " block")) := by
  rw [contribution, if_neg (by simp [hb])]
  rfl

theorem translate_cons (shell : Shell σ) (b : Block) (bs : List Block) :
    translate shell (b :: bs) = contribution shell b >>= fun pieces => (pieces ++ ·) <$> translate shell bs := by
  simp [translate]

/-- The blocks that have a turn are those that are no documentation. -/
theorem Translates.blocks (h : Translates shell m bs ss n) :
    ss.map (·.block) = bs.filter Block.isEmittable := by
  induction h with
  | nil => rfl
  | skip hb _ ih => rw [ih, List.filter_cons_of_neg (by simp [hb])]
  | block hb _ _ ih => rw [List.map_cons, ih, List.filter_cons_of_pos hb]

theorem Translates.mem (h : Translates shell m bs ss n) {st : Stage σ} (hst : st ∈ ss) :
    st.block ∈ bs ∧ st.block.isEmittable = true := by
  rw [← List.mem_filter, ← h.blocks]
  exact List.mem_map_of_mem hst

theorem Translates.translate (h : Translates shell m bs ss n) :
    translate shell bs m = (.ok (ss.flatMap (·.pieces)), n) := by
  induction h with
  | nil => rfl
  | skip hb _ ih =>
    rw [translate_cons, Work.bind_of_ok (contribution_skip hb _), Work.map_apply, ih]
    rfl
  | block hb ho _ ih =>
    rw [translate_cons, contribution_block hb, Work.bind_of_ok ho, Work.map_apply, ih]
    rfl

/-- A block that contributes has a turn if it becomes code. -/
theorem Translates.exists_cons {b : Block} {k : Bench σ} {qs : List HookValue}
    (h : Translates shell k bs ss n) (hc : contribution shell b m = (.ok qs, k)) :
    ∃ ts, Translates shell m (b :: bs) ts n := by
  cases hb : b.isEmittable with
  | false =>
    rw [contribution_skip hb] at hc
    cases hc
    exact ⟨ss, .skip hb h⟩
  | true =>
    rw [contribution_block hb] at hc
    exact ⟨_, .block hb hc h⟩

theorem exists_translates {ps : List HookValue} (h : Pass.translate shell bs m = (.ok ps, n)) :
    ∃ ss, Translates shell m bs ss n := by
  induction bs generalizing m ps with
  | nil =>
    cases h
    exact ⟨[], .nil⟩
  | cons b bs ih =>
    rw [translate_cons] at h
    obtain ⟨qs, k, hc, hr⟩ := Work.bind_ok_iff.mp h
    obtain ⟨rs, ht, -⟩ := Work.map_ok_iff.mp hr
    obtain ⟨ss, hs⟩ := ih ht
    exact hs.exists_cons hc

/-- A translation fails at one block, and all blocks before it have had their turn. -/
theorem exists_failing {e : CompileError} (h : Pass.translate shell bs m = (.error e, n)) :
    ∃ pre b post ss k, bs = pre ++ b :: post ∧ Translates shell m pre ss k ∧ b.isEmittable = true ∧
      Fragment.ofBlock shell b k = (.error e, n) := by
  induction bs generalizing m with
  | nil => cases h
  | cons b bs ih =>
    rw [translate_cons] at h
    rcases Work.bind_error_iff.mp h with hc | ⟨qs, k, hc, hr⟩
    · cases hb : b.isEmittable with
      | false =>
        rw [contribution_skip hb] at hc
        cases hc
      | true =>
        rw [contribution_block hb] at hc
        exact ⟨[], b, bs, [], m, rfl, .nil, hb, hc⟩
    · obtain ⟨pre, c, post, ss, l, rfl, hs, hcm, hf⟩ := ih (Work.map_error_iff.mp hr)
      obtain ⟨ts, hts⟩ := hs.exists_cons hc
      exact ⟨b :: pre, c, post, ts, l, rfl, hts, hcm, hf⟩

/-- A translation ends at the first block that fails. -/
theorem Translates.failing {k : Bench σ} {e : CompileError} (h : Translates shell m bs ss k) {b : Block}
    (hb : b.isEmittable = true) (ho : Fragment.ofBlock shell b k = (.error e, n)) (after : List Block) :
    Pass.translate shell (bs ++ b :: after) m = (.error e, n) := by
  induction h with
  | nil => rw [List.nil_append, translate_cons, contribution_block hb, Work.bind_of_error ho]
  | skip hs _ ih =>
    rw [List.cons_append, translate_cons, Work.bind_of_ok (contribution_skip hs _), Work.map_error_iff]
    exact ih ho
  | block hs hp _ ih =>
    rw [List.cons_append, translate_cons, contribution_block hs, Work.bind_of_ok hp, Work.map_error_iff]
    exact ih ho

end Translates

theorem conclude_apply (shell : Shell σ) (evalMode : Bool) (done : Progress) (m : Bench σ) :
    conclude shell evalMode done m =
      (fileText shell m.session.bindings.fileHeader "file-header" >>= fun header (k : Bench σ) =>
        (fileText shell k.session.bindings.fileFooter "file-footer" >>= fun footer (n : Bench σ) =>
          (.ok ⟨header :: done.pieces ++ footer :: (if evalMode then
            [.text (n.session.settings.evalTrailer ++ "\n")] else []), done.blocks, n.data⟩, n)) k :
        Work σ CompileError Outcome) m := rfl

/-- A pass without hooks for files adds nothing to what it has. -/
theorem conclude_bare (shell : Shell σ) {m : Bench σ} (hh : m.session.bindings.fileHeader = none)
    (hf : m.session.bindings.fileFooter = none) (done : Progress) : conclude shell false done m =
      (.ok ⟨.text [] :: done.pieces ++ [.text []], done.blocks, m.data⟩, m) := by
  have hn (label : Text) : fileText shell none label m = (.ok (.text []), m) := rfl
  rw [conclude_apply, hh, Work.bind_of_ok (hn _), hf, Work.bind_of_ok (hn _)]
  rfl

/-- All that a pass does if it succeeds. -/
theorem eager_ok {shell : Shell σ} {text : Text} {evalMode : Bool} {m n : Bench σ} {o : Outcome}
    (h : eager shell text evalMode m = (.ok o, n)) :
    ∃ ss header footer k l, (Document.scan text).2 = none ∧
      Translates shell m (Document.scan text).1 ss k ∧
      fileText shell k.session.bindings.fileHeader "file-header" k = (.ok header, l) ∧
      fileText shell l.session.bindings.fileFooter "file-footer" l = (.ok footer, n) ∧
      o = ⟨header :: ss.flatMap (·.pieces) ++ footer :: (if evalMode then
        [.text (n.session.settings.evalTrailer ++ "\n")] else []),
        ((Document.scan text).1.filter Block.isEmittable).length, n.data⟩ := by
  rw [eager] at h
  obtain ⟨ps, k, ht, hc⟩ := Work.bind_ok_iff.mp h
  obtain ⟨ss, hs⟩ := exists_translates ht
  cases hs.translate.symm.trans ht
  cases hf : (Document.scan text).2 with
  | some f =>
    rw [hf] at hc
    cases hc
  | none =>
    rw [hf] at hc
    simp only [conclude_apply] at hc
    obtain ⟨header, l, hh, hc⟩ := Work.bind_ok_iff.mp hc
    obtain ⟨footer, n', hft, hc⟩ := Work.bind_ok_iff.mp hc
    cases hc
    exact ⟨ss, header, footer, k, l, rfl, hs, hh, hft, rfl⟩

/-- The bench at the start of a pass. -/
def opened (s : Session) (world : σ) (journal : Journal) : Bench σ where
  session := s.install builtinHooks
  world
  journal := journal.note 2 "Starting compilation..."

theorem compile_eq (c : Compiler) (shell : Shell σ) {site : Site} {settings : Settings} {s : Session}
    (hs : Session.start site settings c.searchPath c.bindings = .ok s) (world : σ) (journal : Journal)
    (document : Text) (evalMode : Bool) :
    c.compile shell site settings world journal document evalMode =
      match eager shell document evalMode (opened s world journal) with
      | (.error e, n) => ⟨.error e, c, n.world, n.journal⟩
      | (.ok o, n) =>
        let c := { c with blockCount := o.blocks, data := o.data }
        match assemble o.pieces with
        | .error e => ⟨.error e, c, n.world, n.journal⟩
        | .ok script =>
          ⟨.ok script, c, n.world, n.journal.note 2 ("Compiled " ++ Text.ofNat o.blocks ++
            " blocks into " ++ Text.ofNat script.length ++ " chars")⟩ := by
  rw [Compiler.compile, hs, ← run_eq_eager]
  rfl

theorem compile_script (c : Compiler) (shell : Shell σ) {site : Site} {settings : Settings} {s : Session}
    (hs : Session.start site settings c.searchPath c.bindings = .ok s) (world : σ) (journal : Journal)
    (document : Text) (evalMode : Bool) :
    (c.compile shell site settings world journal document evalMode).script =
      (eager shell document evalMode (opened s world journal)).1 >>= fun o => assemble o.pieces := by
  rw [compile_eq c shell hs]
  rcases eager shell document evalMode (opened s world journal) with ⟨e | o, n⟩
  · rfl
  · simp only [bind, Except.bind]
    cases assemble o.pieces <;> rfl

/-- A compilation has a script only if its pass succeeds and all the pieces are texts. -/
theorem compile_ok {c : Compiler} {shell : Shell σ} {site : Site} {settings : Settings} {world : σ}
    {journal : Journal} {document script : Text} {evalMode : Bool}
    (h : (c.compile shell site settings world journal document evalMode).script = .ok script) :
    ∃ s o n, Session.start site settings c.searchPath c.bindings = .ok s ∧
      eager shell document evalMode (opened s world journal) = (.ok o, n) ∧
      assemble o.pieces = .ok script ∧
      (c.compile shell site settings world journal document evalMode).compiler =
        { c with blockCount := o.blocks, data := o.data } := by
  cases hs : Session.start site settings c.searchPath c.bindings with
  | error e =>
    rw [Compiler.compile, hs] at h
    cases h
  | ok s =>
    rw [compile_eq c shell hs] at h ⊢
    rcases ho : eager shell document evalMode (opened s world journal) with ⟨e | o, n⟩ <;> rw [ho] at h
    · cases h
    simp only at h
    cases ha : assemble o.pieces with
    | error e =>
      rw [ha] at h
      cases h
    | ok t =>
      rw [ha] at h
      cases h
      exact ⟨s, o, n, rfl, ho, ha, by simp only [ha]⟩

/-- Texts make up a script, whatever they are. -/
theorem assemble_texts (ts : List Text) : assemble (ts.map .text) = .ok ts.flatten := by
  have hg : ∀ n, assemble.go n (ts.map .text) = .ok ts.flatten := by
    induction ts with
    | nil => exact fun _ => rfl
    | cons t ts ih =>
      intro n
      rw [List.map_cons, assemble.go, ih]
      rfl
  exact hg 0

/-- A script is made of texts only. -/
theorem assemble_ok {vs : List HookValue} {script : Text} (h : assemble vs = .ok script) :
    ∃ ts : List Text, vs = ts.map .text ∧ script = ts.flatten := by
  have hg : ∀ n script, assemble.go n vs = .ok script → ∃ ts : List Text, vs = ts.map .text ∧ script = ts.flatten := by
    clear h
    induction vs with
    | nil =>
      intro n script h
      cases h
      exact ⟨[], rfl, rfl⟩
    | cons v vs ih =>
      intro n script h
      cases v with
      | other => cases h
      | text t =>
        rw [assemble.go] at h
        obtain ⟨rest, hr, rfl⟩ := map_eq_ok.mp h
        obtain ⟨ts, rfl, rfl⟩ := ih (n + 1) rest hr
        exact ⟨t :: ts, rfl, rfl⟩
  exact hg 0 script h

theorem assemble_append {vs ws : List HookValue} {script : Text} :
    assemble (vs ++ ws) = .ok script ↔
      ∃ t u, assemble vs = .ok t ∧ assemble ws = .ok u ∧ script = t ++ u := by
  constructor
  · intro h
    obtain ⟨ts, hts, rfl⟩ := assemble_ok h
    obtain ⟨us, ws', rfl, rfl, rfl⟩ := List.map_eq_append_iff.mp hts.symm
    exact ⟨_, _, assemble_texts us, assemble_texts ws', List.flatten_append⟩
  · rintro ⟨t, u, hv, hw, rfl⟩
    obtain ⟨ts, rfl, rfl⟩ := assemble_ok hv
    obtain ⟨us, rfl, rfl⟩ := assemble_ok hw
    rw [← List.map_append, assemble_texts, List.flatten_append]

/-- The first value that is no text is the fault. -/
theorem assemble_error {vs : List HookValue} {e : CompileError} (h : assemble vs = .error e) :
    ∃ (ts : List Text) (kind shown : Text) (rest : List HookValue),
      vs = ts.map .text ++ .other kind shown :: rest ∧ e = .notText ts.length kind := by
  have hg : ∀ n, assemble.go n vs = .error e → ∃ (ts : List Text) (kind shown : Text) (rest : List HookValue),
      vs = ts.map .text ++ .other kind shown :: rest ∧ e = .notText (n + ts.length) kind := by
    clear h
    induction vs with
    | nil => exact fun n h => nomatch h
    | cons v vs ih =>
      intro n h
      cases v with
      | other kind shown =>
        cases h
        exact ⟨[], kind, shown, vs, rfl, rfl⟩
      | text t =>
        rw [assemble.go] at h
        cases hr : assemble.go (n + 1) vs with
        | ok rest =>
          rw [hr] at h
          cases h
        | error f =>
          rw [hr] at h
          cases h
          obtain ⟨ts, kind, shown, rest, rfl, rfl⟩ := ih (n + 1) hr
          refine ⟨t :: ts, kind, shown, rest, rfl, ?_⟩
          rw [List.length_cons, Nat.add_assoc, Nat.add_comm 1]
  obtain ⟨ts, kind, shown, rest, hv, he⟩ := hg 0 h
  exact ⟨ts, kind, shown, rest, hv, by rwa [Nat.zero_add] at he⟩

end Tangle.Pass
