import Tangle.Proofs.Document.Seam
import Tangle.Proofs.Pass.Quiet

/-! # Passes over documents behind each other

The code blocks of a document behind another are translated as if they stood alone, from the bench that the
first document leaves. If nothing runs the shell, that bench is the first one but for the collected data,
so the scripts of the two documents have the same ends and their bodies are joined. -/
namespace Tangle

/-- The same error, some lines further down. -/
def CompileError.later (d : Nat) : CompileError → CompileError
  | scan f => .scan (f.later d)
  | hook f => .hook { f with line := f.line + d }
  | e => e

theorem CompileError.Moved.eq_later {d : Nat} {e e' : CompileError}
    (h : Moved (fun line line' => line' = line + d) e e') : e' = e.later d := by
  cases h with
  | hook h => rw [h, later]
  | delimiter | file => rfl

/-- Holds of the error of a block or of a scan, and of one of a file; not of one that a file hook is blamed for. -/
def CompileError.isOfDocument : CompileError → Bool
  | scan _ | delimiter _ | file _ => true
  | hook f => f.line ≠ 0
  | definition _ | notText .. => false

namespace Collection

/-- The contents of the last collection are those of the first, and then those of the second. -/
def Joins (c d e : Collection) : Prop := ∀ k, e.get? k = Option.merge (· ++ ·) (c.get? k) (d.get? k)

theorem stable_joins (c : Collection) : Stable (Joins c) := by
  intro d e language content h k
  rw [add, add, Table.get?_set, Table.get?_set, h, h]
  by_cases hk : identifierFragment language = k
  · rw [if_pos hk, if_pos hk, hk]
    cases c.get? k <;> cases d.get? k <;> simp [Option.merge]
  · rw [if_neg hk, if_neg hk]

theorem joins_empty (c : Collection) : Joins c {} c := by
  intro k
  rw [Table.get?_empty]
  cases c.get? k <;> rfl

end Collection

namespace Pass
variable {σ : Type} {shell : Shell σ}

theorem moved_later (d : Nat) (bs : List Block) :
    List.Forall₂ (Block.Moved fun line line' => line' = line + d) bs (bs.map (Block.later d)) := by
  induction bs with
  | nil => exact .nil
  | cons b bs ih => exact .cons ⟨rfl, rfl, rfl⟩ ih

theorem filter_later (d : Nat) (bs : List Block) :
    (bs.map (Block.later d)).filter Block.isEmittable = (bs.filter Block.isEmittable).map (Block.later d) := by
  rw [List.filter_map]
  rfl

/-- Two translations one behind the other, the second with its failures some lines further down. -/
def joined (shell : Shell σ) (d : Nat) (bs cs : List Block) : Work σ CompileError (List HookValue) := do
  let ps ← translate shell bs
  let qs ← (translate shell cs).adapt (.later d)
  return ps ++ qs

theorem translate_later (d : Nat) (bs : List Block) {m n : Bench σ} (hm : m.Alike Eq n) :
    Work.Matches (Bench.Alike Eq) Eq (translate shell (bs.map (Block.later d)) m)
      (((translate shell bs).adapt (.later d) : Work σ CompileError (List HookValue)) n) := by
  have hb : List.Forall₂ (Block.Moved fun line line' => line' = line + d) (bs.filter Block.isEmittable)
      ((bs.map (Block.later d)).filter Block.isEmittable) := filter_later d bs ▸ moved_later d _
  have h := translate_alike shell Collection.stable_eq
    ⟨hm.session.symm, hm.world.symm, hm.data.symm⟩ hb
  rw [Work.adapt_apply]
  generalize translate shell bs n = p at h ⊢
  generalize translate shell (bs.map (Block.later d)) m = q at h ⊢
  cases h with
  | ok h => exact .ok ⟨h.session.symm, h.world.symm, h.data.symm⟩
  | error he h => exact .error he.eq_later ⟨h.session.symm, h.world.symm, h.data.symm⟩

variable (shell) in
theorem translate_seam {a : Text} (ha : a = [] ∨ a.endsInNewline = true)
    (hs : (Document.scan a).2 = none) (b : Text) (m : Bench σ) :
    Work.Matches (Bench.Alike Eq) Eq (translate shell (Document.scan (a ++ b)).1 m)
      (joined shell a.lines.length (Document.scan a).1 (Document.scan b).1 m) := by
  let d := a.lines.length
  have hf : List.Forall₂ (Block.Moved Eq) ((Document.scan (a ++ b)).1.filter Block.isEmittable)
      (((Document.scan a).1 ++ (Document.scan b).1.map (Block.later d)).filter Block.isEmittable) := by
    rw [(Document.scan_append ha hs b).1, List.filter_append, filter_later]
    exact List.forall₂_same.mpr fun _ _ => ⟨rfl, rfl, rfl⟩
  have hl := translate_alike shell (m := m) Collection.stable_eq ⟨rfl, rfl, rfl⟩ hf
  rw [translate_append] at hl
  have hj : Work.Matches (Bench.Alike Eq) Eq ((do
      let ps ← translate shell (Document.scan a).1
      let qs ← translate shell ((Document.scan b).1.map (Block.later d))
      return ps ++ qs : Work σ CompileError (List HookValue)) m)
      (joined shell d (Document.scan a).1 (Document.scan b).1 m) := by
    refine (Work.Matches.refl (fun _ => ⟨rfl, rfl, rfl⟩) (fun _ => rfl) _).bind fun ps k l hk => ?_
    exact (translate_later d _ hk).bind fun qs k l hk => .ok hk
  exact hl.trans hj (fun h k => ⟨h.session.trans k.session, h.world.trans k.world, h.data.trans k.data⟩)
    fun he hf => he.eq.trans hf

/-- Behind a document that leaves the session alone, a document is translated as on the first bench. -/
theorem translate_rests {a : Text} (ha : a = [] ∨ a.endsInNewline = true)
    (hs : (Document.scan a).2 = none) (b : Text) {m k : Bench σ} {ps : List HookValue}
    (ht : translate shell (Document.scan a).1 m = (.ok ps, k)) (hk : m.Rests k) (hd : m.data = {}) :
    (∀ qs l, translate shell (Document.scan b).1 m = (.ok qs, l) →
      ∃ l', translate shell (Document.scan (a ++ b)).1 m = (.ok (ps ++ qs), l') ∧ l.Rests l' ∧
        Collection.Joins k.data l.data l'.data) ∧
    ∀ e l, translate shell (Document.scan b).1 m = (.error e, l) →
      ∃ l', translate shell (Document.scan (a ++ b)).1 m = (.error (e.later a.lines.length), l') := by
  have hseam := translate_seam shell ha hs b m
  rw [joined, Work.bind_of_ok ht, Work.bind_apply, Work.adapt_apply] at hseam
  have hb := translate_alike shell (R := Eq) (Collection.stable_joins k.data) (m := m) (n := k)
    ⟨hk.session.symm, hk.world.symm, hd ▸ Collection.joins_empty k.data⟩
    (List.forall₂_same.mpr fun c (_ : c ∈ (Document.scan b).1.filter Block.isEmittable) =>
      ⟨rfl, rfl, rfl⟩)
  constructor
  · intro qs l hl
    rw [hl] at hb
    obtain ⟨l₁, hl₁, hb⟩ := hb.of_ok
    rw [hl₁] at hseam
    obtain ⟨l', hl', hm⟩ := hseam.symm.of_ok
    exact ⟨l', hl', ⟨hm.session.trans hb.session.symm, hm.world.trans hb.world.symm⟩,
      hm.data ▸ hb.data⟩
  · intro e l hl
    rw [hl] at hb
    obtain ⟨f, l₁, hl₁, he, -⟩ := hb.of_error
    rw [hl₁, ← he.eq] at hseam
    obtain ⟨f', l', hl', rfl, -⟩ := hseam.symm.of_error
    exact ⟨l', hl'⟩

/-- The parts of the script of a document that leaves a bench alone. -/
structure HasParts (shell : Shell σ) (evalMode : Bool) (m : Bench σ) (text header body footer : Text) :
    Prop where
  header : ∃ v l, fileText shell m.session.bindings.fileHeader "file-header" m = (.ok v, l) ∧
    assemble [v] = .ok header
  body : ∃ ps l, translate shell (Document.scan text).1 m = (.ok ps, l) ∧ assemble ps = .ok body
  footer : ∃ v l, fileText shell m.session.bindings.fileFooter "file-footer" m = (.ok v, l) ∧
    assemble (v :: trailer evalMode m) = .ok footer

theorem assemble_framed {header footer : HookValue} {ps vs : List HookValue} {script : Text} :
    assemble (header :: ps ++ footer :: vs) = .ok script ↔ ∃ t u v, assemble [header] = .ok t ∧
      assemble ps = .ok u ∧ assemble (footer :: vs) = .ok v ∧ script = t ++ u ++ v := by
  rw [← List.singleton_append, assemble_append]
  simp only [assemble_append]
  constructor
  · rintro ⟨_, v, ⟨t, u, ht, hu, rfl⟩, hv, rfl⟩
    exact ⟨t, u, v, ht, hu, hv, rfl⟩
  · rintro ⟨t, u, v, ht, hu, hv, rfl⟩
    exact ⟨_, v, ⟨t, u, ht, hu, rfl⟩, hv, rfl⟩

theorem Framed.hasParts {evalMode : Bool} {m k : Bench σ} {header footer : HookValue}
    (hf : Framed shell m header footer) {text t u v : Text} {ps : List HookValue}
    (ht : translate shell (Document.scan text).1 m = (.ok ps, k)) (hh : assemble [header] = .ok t)
    (hb : assemble ps = .ok u) (hv : assemble (footer :: trailer evalMode m) = .ok v) :
    HasParts shell evalMode m text t u v := by
  obtain ⟨l, -, -, hl⟩ := hf.header m ⟨rfl, rfl⟩
  obtain ⟨n, -, -, hn⟩ := hf.footer m ⟨rfl, rfl⟩
  exact ⟨⟨header, l, hl, hh⟩, ⟨ps, k, ht, hb⟩, ⟨footer, n, hn, hv⟩⟩

/-- File hooks fail alike on benches with the same session and the same world. -/
theorem conclude_rests {evalMode : Bool} {done done' : Progress} {m n m' : Bench σ} {e : CompileError}
    (h : conclude shell evalMode done m = (.error e, n)) (hm : m.Rests m') :
    ∃ n', conclude shell evalMode done' m' = (.error e, n') := by
  have hfails : ∀ {k k' l : Bench σ} {hook : Option FileHook} {label : Text}, k.Rests k' →
      fileText shell hook label k = (.error e, l) → ∃ l', fileText shell hook label k' = (.error e, l') := by
    intro k k' l hook label hk hf
    have ha := Fragment.fileText_alike shell (D := fun _ _ => True) (fun _ _ _ _ _ => trivial)
      ⟨hk.session.symm, hk.world.symm, trivial⟩ hook label
    rw [hf] at ha
    obtain ⟨e', l', hl', he, -⟩ := ha.of_error
    exact ⟨l', he.eq ▸ hl'⟩
  simp only [conclude_apply, hm.session] at h ⊢
  rcases Work.bind_error_iff.mp h with hh | ⟨header, k, hh, h⟩
  · obtain ⟨l', hl'⟩ := hfails hm hh
    exact ⟨l', Work.bind_of_error hl' _⟩
  obtain ⟨k', hh', hk, -⟩ := Fragment.fileText_ok hh hm
  rw [Work.bind_of_ok hh', hk.session]
  rcases Work.bind_error_iff.mp h with hf | ⟨footer, l, -, h⟩
  · obtain ⟨l', hl'⟩ := hfails hk hf
    exact ⟨l', Work.bind_of_error hl' _⟩
  · cases h

section Compilations
variable {c : Compiler} {site : Site} {settings : Settings} {s : Session} {world : σ} {journal : Journal}
  {evalMode : Bool} {a b : Text}

/-- The script of two quiet documents has the ends of both scripts and their bodies one behind the other. -/
theorem compile_append_ok (hs : Session.start site settings c.searchPath c.bindings = .ok s)
    (ha : a = [] ∨ a.endsInNewline = true) {scriptA scriptB : Text}
    (hA : (c.compile shell site settings world journal a evalMode).script = .ok scriptA)
    (hB : (c.compile shell site settings world journal b evalMode).script = .ok scriptB)
    (hqA : IsQuiet shell a evalMode (opened s world journal))
    (hqB : IsQuiet shell b evalMode (opened s world journal)) :
    ∃ header bodyA bodyB footer,
      HasParts shell evalMode (opened s world journal) a header bodyA footer ∧
      HasParts shell evalMode (opened s world journal) b header bodyB footer ∧
      scriptA = header ++ bodyA ++ footer ∧ scriptB = header ++ bodyB ++ footer ∧
      (c.compile shell site settings world journal (a ++ b) evalMode).script =
        .ok (header ++ (bodyA ++ bodyB) ++ footer) ∧
      (c.compile shell site settings world journal (a ++ b) evalMode).compiler.blockCount =
        (c.compile shell site settings world journal a evalMode).compiler.blockCount +
          (c.compile shell site settings world journal b evalMode).compiler.blockCount ∧
      Collection.Joins (c.compile shell site settings world journal a evalMode).compiler.data
        (c.compile shell site settings world journal b evalMode).compiler.data
        (c.compile shell site settings world journal (a ++ b) evalMode).compiler.data := by
  obtain ⟨s', oA, nA, hs', hoA, haA, hcA⟩ := compile_ok hA
  cases hs.symm.trans hs'
  obtain ⟨s', oB, nB, hs', hoB, haB, hcB⟩ := compile_ok hB
  cases hs.symm.trans hs'
  obtain ⟨ps, header, footer, k, hfA, htA, hkA, hframe, rfl⟩ := exists_framed hoA hqA
  obtain ⟨qs, header', footer', l, hfB, htB, hkB, hframe', rfl⟩ := exists_framed hoB hqB
  obtain ⟨rfl, rfl⟩ := hframe.unique hframe'
  obtain ⟨t, u, v, hh, hu, hv, rfl⟩ := assemble_framed.mp haA
  obtain ⟨t', w, v', hh', hw, hv', rfl⟩ := assemble_framed.mp haB
  cases hh.symm.trans hh'
  cases hv.symm.trans hv'
  obtain ⟨hblocks, hfault⟩ := Document.scan_append ha hfA b
  obtain ⟨l', ht, hl, hj⟩ := (translate_rests ha hfA b htA hkA rfl).1 qs l htB
  obtain ⟨n, hn⟩ := hframe.conclude (hkB.trans hl) evalMode
    ⟨ps ++ qs, ((Document.scan (a ++ b)).1.filter Block.isEmittable).length⟩
  have ho : eager shell (a ++ b) evalMode (opened s world journal) = (.ok ⟨header :: (ps ++ qs) ++
      footer :: trailer evalMode (opened s world journal),
      ((Document.scan (a ++ b)).1.filter Block.isEmittable).length, l'.data⟩, n) := by
    rw [eager, Work.bind_of_ok ht, hfault, hfB]
    exact hn
  have hscript : (c.compile shell site settings world journal (a ++ b) evalMode).script =
      .ok (t ++ (u ++ w) ++ v) := by
    rw [compile_script c shell hs, ho]
    exact assemble_framed.mpr ⟨t, u ++ w, v, hh, assemble_append.mpr ⟨u, w, hu, hw, rfl⟩, hv, rfl⟩
  obtain ⟨s', o, n', hs', ho', -, hc⟩ := compile_ok hscript
  cases hs.symm.trans hs'
  cases ho.symm.trans ho'
  refine ⟨t, u, w, v, hframe.hasParts htA hh hu hv, hframe.hasParts htB hh hw hv, rfl, rfl, hscript, ?_, ?_⟩
  · rw [hc, hcA, hcB]
    simp only [hblocks, List.length_append, List.length_map]
  · rw [hc, hcA, hcB]
    exact hj

/-- A failure of the second document is that of both, some lines further down. -/
theorem compile_append_error (hs : Session.start site settings c.searchPath c.bindings = .ok s)
    (ha : a = [] ∨ a.endsInNewline = true) {scriptA : Text}
    (hA : (c.compile shell site settings world journal a evalMode).script = .ok scriptA)
    (hqA : IsQuiet shell a evalMode (opened s world journal)) {e : CompileError}
    (hB : (c.compile shell site settings world journal b evalMode).script = .error e)
    (he : e.isOfDocument = true) :
    (c.compile shell site settings world journal (a ++ b) evalMode).script =
      .error (e.later a.lines.length) := by
  obtain ⟨s', oA, nA, hs', hoA, haA, hcA⟩ := compile_ok hA
  cases hs.symm.trans hs'
  obtain ⟨ps, header, footer, k, hfA, htA, hkA, -, rfl⟩ := exists_framed hoA hqA
  obtain ⟨hok, herror⟩ := translate_rests ha hfA b htA hkA rfl
  obtain ⟨-, hfault⟩ := Document.scan_append ha hfA b
  rw [compile_script c shell hs] at hB ⊢
  rw [eager] at hB ⊢
  rcases htB : translate shell (Document.scan b).1 (opened s world journal) with ⟨f | qs, l⟩
  · rw [Work.bind_of_error htB] at hB
    cases hB
    obtain ⟨l', ht⟩ := herror e l htB
    rw [Work.bind_of_error ht]
    rfl
  rw [Work.bind_of_ok htB] at hB
  obtain ⟨l', ht, hl, -⟩ := hok qs l htB
  rw [Work.bind_of_ok ht, hfault]
  cases hfB : (Document.scan b).2 with
  | some f =>
    rw [hfB] at hB
    cases hB
    rfl
  | none =>
    rw [hfB] at hB
    simp only at hB
    rcases hc : conclude shell evalMode ⟨qs, ((Document.scan b).1.filter Block.isEmittable).length⟩ l with
      ⟨f | o, n⟩
    · rw [hc] at hB
      cases hB
      rcases conclude_fault hc with ⟨label, status, detail, -, rfl⟩ | ⟨f, rfl⟩
      · cases he
      · obtain ⟨n', hc'⟩ := conclude_rests hc hl
        exact congrArg (fun r => r.1 >>= fun o => assemble o.pieces) hc'
    · rw [hc] at hB
      obtain ⟨ts, kind, shown, rest, -, rfl⟩ := assemble_error hB
      cases he

end Compilations

/-- The code blocks of two documents are translated one behind the other, so nothing of the second changes
what the first comes to. If neither starts a run of the shell, their scripts are joined between the same
ends; and a failure of the second alone is a failure of both, at a later line. -/
theorem compile_append {a : Text} (ha : a = [] ∨ a.endsInNewline = true) (hs : (Document.scan a).2 = none)
    (b : Text) (shell : Shell σ) :
    (∀ m, Work.Matches (Bench.Alike Eq) Eq (translate shell (Document.scan (a ++ b)).1 m)
      (joined shell a.lines.length (Document.scan a).1 (Document.scan b).1 m)) ∧
    ∀ (c : Compiler) site settings world journal evalMode s scriptA,
      Session.start site settings c.searchPath c.bindings = .ok s →
      (c.compile shell site settings world journal a evalMode).script = .ok scriptA →
      IsQuiet shell a evalMode (opened s world journal) →
      (∀ scriptB, (c.compile shell site settings world journal b evalMode).script = .ok scriptB →
        IsQuiet shell b evalMode (opened s world journal) →
        ∃ header bodyA bodyB footer,
          HasParts shell evalMode (opened s world journal) a header bodyA footer ∧
          HasParts shell evalMode (opened s world journal) b header bodyB footer ∧
          scriptA = header ++ bodyA ++ footer ∧ scriptB = header ++ bodyB ++ footer ∧
          (c.compile shell site settings world journal (a ++ b) evalMode).script =
            .ok (header ++ (bodyA ++ bodyB) ++ footer) ∧
          (c.compile shell site settings world journal (a ++ b) evalMode).compiler.blockCount =
            (c.compile shell site settings world journal a evalMode).compiler.blockCount +
              (c.compile shell site settings world journal b evalMode).compiler.blockCount ∧
          Collection.Joins (c.compile shell site settings world journal a evalMode).compiler.data
            (c.compile shell site settings world journal b evalMode).compiler.data
            (c.compile shell site settings world journal (a ++ b) evalMode).compiler.data) ∧
      ∀ e, (c.compile shell site settings world journal b evalMode).script = .error e →
        e.isOfDocument = true →
        (c.compile shell site settings world journal (a ++ b) evalMode).script =
          .error (e.later a.lines.length) :=
  ⟨translate_seam shell ha hs b, fun _ _ _ _ _ _ _ _ hstart hA hqA =>
    ⟨fun _ hB hqB => compile_append_ok hstart ha hA hB hqA hqB,
      fun _ hB he => compile_append_error hstart ha hA hqA hB he⟩⟩

/-- Indented lines go on across the seam; the block behind them stands alone in its document. -/
theorem compile_append_indented :
    let a : Text := "\x60\x60\x60c\nx\n\x60\x60\x60\n    y\n"
    let b : Text := "    z\n\x60\x60\x60c\nw\n\x60\x60\x60\n"
    let compile (text : Text) := Compiler.compile {} (Shell.ofFiles fun _ => .unstartable [])
      ⟨"/tmp", "mdsh"⟩ {} () {} text false
    ∃ header bodyA bodyB footer, (compile a).script = .ok (header ++ bodyA ++ footer) ∧
      (compile b).script = .ok (header ++ bodyB ++ footer) ∧
      (compile (a ++ b)).script = .ok (header ++ (bodyA ++ bodyB) ++ footer) ∧
      bodyA = "mdsh_raw_c+=($'x\\n')\n" ∧
      (compile (a ++ "\x60\x60\x60c\n\x00\n\x60\x60\x60\n")).script =
        .error (.hook ⟨"c", 5, none, QuoteFault.nul.message⟩) := by
  intro a b compile
  let shell := Shell.ofFiles fun _ => .unstartable []
  let s : Session := {
    site := ⟨"/tmp", "mdsh"⟩, settings := {}, searchPath := []
    base := {}, bindings := {}, functions := {} }
  have hs : Session.start ⟨"/tmp", "mdsh"⟩ {} [] {} = .ok s := rfl
  have hA : (compile a).script = .ok "mdsh_raw_c+=($'x\\n')\n" := by decide +kernel
  have hB : (compile b).script = .ok "mdsh_raw_c+=($'w\\n')\n" := by decide +kernel
  have hE : (compile "\x60\x60\x60c\n\x00\n\x60\x60\x60\n").script =
    .error (.hook ⟨"c", 1, none, QuoteFault.nul.message⟩) := by decide +kernel
  have hqA : IsQuiet shell a false (opened s () {}) := by
    rw [IsQuiet]
    decide +kernel
  have hqB : IsQuiet shell b false (opened s () {}) := by
    rw [IsQuiet]
    decide +kernel
  have ha : a.endsInNewline = true := by decide
  have hf : (Document.scan a).2 = none := by decide
  obtain ⟨hok, -⟩ := (compile_append (.inr ha) hf b shell).2 _ _ _ _ _ _ _ _ hs hA hqA
  obtain ⟨-, herror⟩ := (compile_append (.inr ha) hf _ shell).2 _ _ _ _ _ _ _ _ hs hA hqA
  obtain ⟨header, bodyA, bodyB, footer, hp, -, hsA, hsB, hAB, -⟩ := hok _ hB hqB
  refine ⟨header, bodyA, bodyB, footer, hsA ▸ hA, hsB ▸ hB, hAB, ?_, herror _ hE rfl⟩
  have hbody : (translate shell (Document.scan a).1 (opened s () {})).1 >>= assemble =
    .ok "mdsh_raw_c+=($'x\\n')\n" := by decide +kernel
  obtain ⟨ps, l, hps, hparts⟩ := hp.body
  rw [hps] at hbody
  exact Except.ok.inj (hparts.symm.trans hbody)

end Pass
end Tangle
