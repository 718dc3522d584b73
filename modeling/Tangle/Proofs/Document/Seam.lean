import Tangle.Proofs.Document.Scan

/-! # Documents behind each other

A document that is scanned to its end leaves nothing but indented lines to the text behind it. Such lines
are documentation, so the code blocks of two documents are those of the first and then those of the
second, at later lines. The same holds of all pieces, but where a run ends the first document and a run begins the
second, the two runs are one. -/
namespace Tangle

/-- The block, some lines further down. -/
def Block.later (d : Nat) (b : Block) : Block := { b with line := b.line + d }

def ScanFault.later (d : Nat) (f : ScanFault) : ScanFault := { f with line := f.line + d }

namespace Document

def Pending.later (d : Nat) : Pending → Pending
  | .none => .none
  | .fence o line body => .fence o (line + d) body
  | .indent line body => .indent (line + d) body

theorem Pending.step_later (d : Nat) (p : Pending) (n : Nat) (l : Text) :
    (p.later d).step (n + d) l = ((p.step n l).1.later d, (p.step n l).2.map (Block.later d)) := by
  cases p with
  | fence o line body =>
    simp only [later, step]
    split <;> rfl
  | none | indent =>
    simp only [later, step]
    split
    · rfl
    split <;> rfl

theorem scanLines_later (d : Nat) (p : Pending) (n : Nat) (ls : List Text) :
    scanLines (p.later d) (n + d) ls =
      ((scanLines p n ls).1.map (Block.later d), (scanLines p n ls).2.map (ScanFault.later d)) := by
  induction ls generalizing p n with
  | nil => cases p <;> rfl
  | cons l ls ih =>
    rw [scanLines_cons, scanLines_cons, Pending.step_later, Nat.add_right_comm, ih]
    cases (p.step n l).2 <;> simp

/-- The blocks of lines that become code, and the fault that ends the lines if there is one. -/
def codeLines (p : Pending) (n : Nat) (ls : List Text) : List Block × Option ScanFault :=
  ((scanLines p n ls).1.filter Block.isEmittable, (scanLines p n ls).2)

theorem codeLines_cons (p : Pending) (n : Nat) (l : Text) (ls : List Text) :
    codeLines p n (l :: ls) = ((p.step n l).2.toList.filter Block.isEmittable ++
      (codeLines (p.step n l).1 (n + 1) ls).1, (codeLines (p.step n l).1 (n + 1) ls).2) := by
  rw [codeLines, scanLines_cons, List.filter_append]
  rfl

theorem filter_flush (p : Pending) : p.flush.toList.filter Block.isEmittable = [] := by
  cases p <;> rfl

/-- Outside of a fence, the lines before have no part in the blocks that become code. -/
theorem codeLines_eq {p q : Pending} (hp : ∀ o s b, p ≠ .fence o s b) (hq : ∀ o s b, q ≠ .fence o s b)
    (n : Nat) (ls : List Text) : codeLines p n ls = codeLines q n ls := by
  induction ls generalizing p q n with
  | nil =>
    have hf : ∀ r : Pending, (∀ o s b, r ≠ .fence o s b) → codeLines r n [] = ([], none) := by
      intro r hr
      cases r with
      | fence o s b => exact absurd rfl (hr o s b)
      | none | indent => rfl
    rw [hf p hp, hf q hq]
  | cons l ls ih =>
    rw [codeLines_cons, codeLines_cons]
    by_cases ho : ∃ o, Opens o l
    · obtain ⟨o, ho⟩ := ho
      rw [Pending.step_opens ho hp, Pending.step_opens ho hq, filter_flush, filter_flush]
    by_cases hi : Indented l
    · have hl : InRun l := ⟨hi, fun o h => ho ⟨o, h⟩⟩
      have hs : ∀ r : Pending, (∀ o s b, r ≠ .fence o s b) →
          (∀ o s b, (r.step n l).1 ≠ .fence o s b) ∧ (r.step n l).2 = none := by
        intro r hr
        cases r with
        | fence o s b => exact absurd rfl (hr o s b)
        | none => simp [Pending.step_none_inRun hl]
        | indent s b => simp [Pending.step_indent_inRun hl]
      rw [(hs p hp).2, (hs q hq).2, ih (hs p hp).1 (hs q hq).1]
    · have hl : (Piece.prose l).WellFormed := ⟨hi, fun o h => ho ⟨o, h⟩⟩
      rw [Pending.step_prose hl hp, Pending.step_prose hl hq, filter_flush, filter_flush]

theorem codeLines_append {p : Pending} {n : Nat} {ls : List Text} (h : (scanLines p n ls).2 = none)
    (ms : List Text) : codeLines p n (ls ++ ms) =
      ((codeLines p n ls).1 ++ (codeLines .none (n + ls.length) ms).1,
        (codeLines .none (n + ls.length) ms).2) := by
  induction ls generalizing p n with
  | nil =>
    have hp : ∀ o s b, p ≠ .fence o s b := by
      rintro o s b rfl
      cases h
    have he := codeLines_eq hp (q := .none) (by simp) n
    rw [List.nil_append, he ms, he []]
    rfl
  | cons l ls ih =>
    rw [scanLines_cons] at h
    have hn : n + 1 + ls.length = n + (ls.length + 1) := by omega
    rw [List.cons_append, codeLines_cons, codeLines_cons, ih h, List.append_assoc, List.length_cons, hn]

/-- The code blocks of a text behind a whole document are those of the document, and then its own at later
lines; so is the fault that ends it. -/
theorem scan_append {a : Text} (ha : a = [] ∨ a.endsInNewline = true) (hs : (scan a).2 = none) (b : Text) :
    (scan (a ++ b)).1.filter Block.isEmittable = (scan a).1.filter Block.isEmittable ++
        ((scan b).1.filter Block.isEmittable).map (Block.later a.lines.length) ∧
      (scan (a ++ b)).2 = (scan b).2.map (ScanFault.later a.lines.length) := by
  have hc := codeLines_append (show (scanLines .none 1 a.lines).2 = none from hs) b.lines
  have hl := scanLines_later a.lines.length .none 1 b.lines
  rw [← Text.lines_append ha] at hc
  obtain ⟨hblocks, hfault⟩ := Prod.mk.inj hc
  refine ⟨hblocks.trans ?_, hfault.trans ?_⟩
  · rw [codeLines, codeLines]
    exact congrArg _ ((congrArg (fun r => r.1.filter Block.isEmittable) hl).trans List.filter_map)
  · exact congrArg Prod.snd hl

theorem blocks_append (n : Nat) (ps qs : List Piece) :
    blocks n (ps ++ qs) = blocks n ps ++ blocks (n + (ps.flatMap Piece.lines).length) qs := by
  induction ps generalizing n with
  | nil => rfl
  | cons p ps ih =>
    rw [List.cons_append, blocks, blocks, ih, List.append_assoc, List.flatMap_cons, List.length_append,
      Nat.add_assoc]

theorem Decomposes.blocks_later {ls : List Text} {ps : List Piece} (h : Decomposes ls ps) (n d : Nat) :
    blocks (n + d) ps = (blocks n ps).map (Block.later d) := by
  have hl := congrArg Prod.fst (scanLines_later d .none n ls)
  rwa [scanLines_eq h, show Pending.later d .none = .none from rfl, scanLines_eq h] at hl

theorem Piece.lines_indent (run : List Text) : (indent run).lines = run := rfl

theorem Piece.Precedes.append {p : Piece} {r : List Text} (h : p.Precedes r) (hr : r ≠ []) (s : List Text) :
    p.Precedes (r ++ s) := by
  obtain ⟨l, ls, rfl⟩ := List.exists_cons_of_ne_nil hr
  cases p with
  | prose => trivial
  | indent => exact h
  | fence first o body last => exact fun hl => absurd (h hl) hr

theorem Decomposes.uncons {ls : List Text} {p : Piece} {ps : List Piece} (h : Decomposes ls (p :: ps)) :
    ∃ r, ls = p.lines ++ r ∧ p.WellFormed ∧ p.Precedes r ∧ Decomposes r ps := by
  cases h with
  | @cons _ _ r hw hr h => exact ⟨r, rfl, hw, hr, h⟩

/-- The last piece can be taken up by the lines behind it. -/
theorem Decomposes.extend {ls ms : List Text} {ps qs : List Piece} {p : Piece}
    (h : Decomposes ls (ps ++ [p])) (hq : Decomposes (p.lines ++ ms) qs) : Decomposes (ls ++ ms) (ps ++ qs) := by
  induction ps generalizing ls with
  | nil =>
    obtain ⟨r, rfl, -, -, h⟩ := h.uncons
    cases h
    rwa [List.append_nil]
  | cons q ps ih =>
    obtain ⟨r, rfl, hw, hr, h⟩ := h.uncons
    have hn : r ≠ [] := by
      rintro rfl
      simpa using h.unique .nil
    rw [List.append_assoc]
    exact .cons hw (hr.append hn ms) (ih h)

theorem Piece.length_lines_pos {p : Piece} (h : p.WellFormed) : 0 < p.lines.length :=
  List.length_pos_of_ne_nil (lines_ne_nil h)

theorem Decomposes.append {ls ms : List Text} {ps qs : List Piece} (hp : Decomposes ls ps)
    (hq : Decomposes ms qs) (hl : ∀ p ∈ ps.getLast?, p.Precedes ms) : Decomposes (ls ++ ms) (ps ++ qs) := by
  rcases List.eq_nil_or_concat ps with rfl | ⟨ps, p, rfl⟩
  · cases hp
    exact hq
  · rw [List.concat_eq_append] at hp hl ⊢
    rw [List.append_assoc]
    exact hp.extend (.cons (hp.wellFormed p (by simp)) (hl p (by simp)) hq)

/-- Two runs that meet are one. -/
theorem Decomposes.append_run {ls ms run run' : List Text} {ps qs : List Piece}
    (hp : Decomposes ls (ps ++ [.indent run])) (hq : Decomposes ms (.indent run' :: qs)) :
    Decomposes (ls ++ ms) (ps ++ .indent (run ++ run') :: qs) := by
  obtain ⟨hne, hrun⟩ := hp.wellFormed (.indent run) (by simp)
  obtain ⟨r, rfl, ⟨-, hrun'⟩, hr, hq⟩ := hq.uncons
  have hw : (Piece.indent (run ++ run')).WellFormed :=
    ⟨fun h => hne (List.append_eq_nil_iff.mp h).1, fun l hl => (List.mem_append.mp hl).elim (hrun l) (hrun' l)⟩
  refine hp.extend ?_
  have h := Decomposes.cons hw hr hq
  rwa [Piece.lines_indent, List.append_assoc] at h

theorem Decomposes.exists_indent {l : Text} {ls : List Text} {ps : List Piece} (h : Decomposes (l :: ls) ps)
    (hl : InRun l) : ∃ run qs, ps = .indent run :: qs := by
  generalize he : l :: ls = ms at h
  cases h with
  | nil => cases he
  | @cons p qs r hw _ _ =>
    cases p with
    | prose k =>
      obtain ⟨rfl, -⟩ := List.cons.inj he
      exact absurd hl.1 hw.1
    | indent run => exact ⟨run, qs, rfl⟩
    | fence first o body last =>
      obtain ⟨rfl, -⟩ := List.cons.inj he
      exact absurd hw.1 (hl.2 o)

/-- The lines of a run are found again in the content of its block. -/
theorem Decomposes.lines_run {text : Text} {before after : List Piece} {run : List Text}
    (h : Decomposes text.lines (before ++ .indent run :: after)) : Text.lines run.flatten = run := by
  refine Text.lines_flatten_of_infix (t := text) ⟨before.flatMap Piece.lines, after.flatMap Piece.lines, ?_⟩
  rw [← h.flatMap_lines, List.flatMap_append, List.flatMap_cons, List.append_assoc]
  rfl

/-- The line with number `n` belongs to an indented block. -/
def IndentsAt (text : Text) (n : Nat) : Prop :=
  ∃ b ∈ (scan text).1, b.kind = .indented ∧ b.line ≤ n ∧ n < b.line + b.content.lines.length

instance (text : Text) (n : Nat) : Decidable (IndentsAt text n) :=
  inferInstanceAs (Decidable (∃ b ∈ (scan text).1, _))

theorem Decomposes.indentsAt_iff {text : Text} {ps : List Piece} (h : Decomposes text.lines ps) {n : Nat} :
    IndentsAt text n ↔ ∃ before run after, ps = before ++ .indent run :: after ∧
      1 + (before.flatMap Piece.lines).length ≤ n ∧ n < 1 + (before.flatMap Piece.lines).length + run.length := by
  have hs : (scan text).1 = blocks 1 ps := congrArg Prod.fst (scanLines_eq h 1)
  simp only [IndentsAt, hs, mem_blocks_iff]
  constructor
  · rintro ⟨b, ⟨before, p, after, rfl, hb⟩, hk, hn, hn'⟩
    cases p with
    | prose => cases hb
    | indent run =>
      cases hb
      rw [h.lines_run] at hn'
      exact ⟨before, run, after, rfl, hn, hn'⟩
    | fence first o body last =>
      cases last with
      | none => cases hb
      | some l =>
        cases hb
        cases hk
  · rintro ⟨before, run, after, rfl, hn, hn'⟩
    rw [← h.lines_run] at hn'
    exact ⟨_, ⟨before, .indent run, after, rfl, rfl⟩, rfl, hn, hn'⟩

/-- The last line is indented if the last piece is a run. -/
theorem Decomposes.indentsAt_last {text : Text} {ps : List Piece} (h : Decomposes text.lines ps) :
    IndentsAt text text.lines.length ↔ ∃ before run, ps = before ++ [.indent run] := by
  rw [h.indentsAt_iff, ← h.flatMap_lines]
  constructor
  · rintro ⟨before, run, after, rfl, -, hn⟩
    cases after with
    | nil => exact ⟨before, run, rfl⟩
    | cons p after =>
      have hp := Piece.length_lines_pos (h.wellFormed p (by simp))
      simp only [List.flatMap_append, List.flatMap_cons, List.length_append, Piece.lines_indent] at hn
      omega
  · rintro ⟨before, run, rfl⟩
    have hr := Piece.length_lines_pos (h.wellFormed (.indent run) (by simp))
    refine ⟨before, run, [], rfl, ?_⟩
    simp only [List.flatMap_append, List.flatMap_cons, List.flatMap_nil, List.length_append, List.append_nil,
      Piece.lines_indent] at hr ⊢
    omega

/-- The first line is indented if the first piece is a run. -/
theorem Decomposes.indentsAt_first {text : Text} {ps : List Piece} (h : Decomposes text.lines ps) :
    IndentsAt text 1 ↔ ∃ run after, ps = .indent run :: after := by
  rw [h.indentsAt_iff]
  constructor
  · rintro ⟨before, run, after, rfl, hn, -⟩
    cases before with
    | nil => exact ⟨run, after, rfl⟩
    | cons p before =>
      have hp := Piece.length_lines_pos (h.wellFormed p (by simp))
      simp only [List.flatMap_cons, List.length_append] at hn
      omega
  · rintro ⟨run, after, rfl⟩
    have hr := Piece.length_lines_pos (h.wellFormed (.indent run) (by simp))
    exact ⟨[], run, after, rfl, Nat.le_refl 1, Nat.lt_add_of_pos_right hr⟩

/-- A document that is scanned to its end has no open fence. -/
theorem Decomposes.last_closed {ls : List Text} {ps : List Piece} (h : Decomposes ls ps) {n : Nat} (hf : fault? n ps = none)
    {first : Text} {o : Opening} {body : List Text} : ps.getLast? ≠ some (.fence first o body none) := by
  intro hl
  obtain ⟨before, rfl⟩ := List.getLast?_eq_some_iff.mp hl
  have hs := (fault?_eq_some_iff h (n := n)).mpr ⟨before, first, o, body, rfl, rfl⟩
  rw [hf] at hs
  cases hs

/-- Behind a document that is scanned to its end, only a run that meets a run is not at its own end. -/
theorem Decomposes.last_precedes {ls ms : List Text} {ps qs : List Piece} (hp : Decomposes ls ps)
    (hq : Decomposes ms qs) {n : Nat} (hf : fault? n ps = none)
    (hn : ¬((∃ before run, ps = before ++ [.indent run]) ∧ ∃ run after, qs = .indent run :: after)) :
    ∀ p ∈ ps.getLast?, p.Precedes ms := by
  intro p hl
  cases p with
  | prose => trivial
  | indent run =>
    intro l hm hr
    obtain ⟨before, hb⟩ := List.getLast?_eq_some_iff.mp hl
    obtain ⟨ls, rfl⟩ := List.head?_eq_some_iff.mp hm
    exact hn ⟨⟨before, run, hb⟩, hq.exists_indent hr⟩
  | fence first o body last =>
    rintro rfl
    exact absurd hl (hp.last_closed hf)

/-- The block of two runs that meet, between the blocks before it and those behind it. -/
theorem Decomposes.blocks_append_run {ms run run' : List Text} {qs : List Piece}
    (hq : Decomposes ms (.indent run' :: qs)) (ps : List Piece) : blocks 1 (ps ++ .indent (run ++ run') :: qs) =
      blocks 1 ps ++
        { Pending.indentedBlock (1 + (ps.flatMap Piece.lines).length) run with
          content := run.flatten ++ run'.flatten } ::
        (blocks (1 + run'.length) qs).map (Block.later ((ps.flatMap Piece.lines).length + run.length)) := by
  obtain ⟨r, -, -, -, hr⟩ := hq.uncons
  have hn : 1 + (ps.flatMap Piece.lines).length + (run ++ run').length =
      1 + run'.length + ((ps.flatMap Piece.lines).length + run.length) := by
    rw [List.length_append]
    omega
  rw [blocks_append, blocks, Piece.lines_indent, hn, hr.blocks_later, ← List.flatten_append]
  rfl

/-- A text behind a whole document is scanned as if it stood alone, at later lines. Only if the last line of the
document and the first line of the text both belong to indented blocks, these two blocks are one. -/
theorem scan_seam {a : Text} (ha : a = [] ∨ a.endsInNewline = true) (hs : (scan a).2 = none) (b : Text) :
    let d := a.lines.length
    (scan (a ++ b)).2 = (scan b).2.map (ScanFault.later d) ∧
    (¬(IndentsAt a d ∧ IndentsAt b 1) →
      (scan (a ++ b)).1 = (scan a).1 ++ (scan b).1.map (Block.later d)) ∧
    (IndentsAt a d ∧ IndentsAt b 1 → ∃ bs x y cs, (scan a).1 = bs ++ [x] ∧ (scan b).1 = y :: cs ∧
      x.kind = .indented ∧ x.line + x.content.lines.length = d + 1 ∧ y.kind = .indented ∧ y.line = 1 ∧
      (scan (a ++ b)).1 = bs ++ { x with content := x.content ++ y.content } :: cs.map (Block.later d)) := by
  intro d
  obtain ⟨ps, hp⟩ := exists_decomposes a.lines
  obtain ⟨qs, hq⟩ := exists_decomposes b.lines
  have hfirst : IndentsAt b 1 ↔ ∃ run after, qs = .indent run :: after := hq.indentsAt_first
  have hlast : IndentsAt a d ↔ ∃ before run, ps = before ++ [.indent run] := hp.indentsAt_last
  have hsa : scan a = (blocks 1 ps, fault? 1 ps) := scanLines_eq hp 1
  have hsb : scan b = (blocks 1 qs, fault? 1 qs) := scanLines_eq hq 1
  have hsab : ∀ rs, Decomposes (a.lines ++ b.lines) rs → (scan (a ++ b)).1 = blocks 1 rs := by
    intro rs hr
    rw [← Text.lines_append ha] at hr
    exact congrArg Prod.fst (scanLines_eq hr 1)
  refine ⟨(scan_append ha hs b).2, fun hn => ?_, fun ⟨hna, hnb⟩ => ?_⟩
  · rw [hlast, hfirst] at hn
    have hl := hp.last_precedes hq (congrArg Prod.snd hsa ▸ hs) hn
    rw [hsab _ (hp.append hq hl), blocks_append, hp.flatMap_lines, hq.blocks_later, hsa, hsb]
  · obtain ⟨before, run, rfl⟩ := hlast.mp hna
    obtain ⟨run', after, rfl⟩ := hfirst.mp hnb
    have hd : d = (before.flatMap Piece.lines).length + run.length := by
      simp only [d, ← hp.flatMap_lines, List.flatMap_append, List.flatMap_cons, List.flatMap_nil,
        List.length_append, List.append_nil, Piece.lines_indent]
    refine ⟨blocks 1 before, Pending.indentedBlock (1 + (before.flatMap Piece.lines).length) run,
      Pending.indentedBlock 1 run', blocks (1 + run'.length) after, ?_, ?_, rfl, ?_, rfl, rfl, ?_⟩
    · rw [hsa, blocks_append]
      rfl
    · rw [hsb]
      rfl
    · show 1 + _ + (Text.lines run.flatten).length = d + 1
      rw [hp.lines_run]
      omega
    · rw [hsab _ (hp.append_run hq), hq.blocks_append_run, hd]
      rfl

/-- Two indented blocks that are one, before a fence that is left open. -/
theorem scan_seam_runs : IndentsAt "    a\n" 1 ∧ IndentsAt "\tb\n~~~\n" 1 ∧
    (scan ("    a\n" ++ "\tb\n~~~\n")).1 = [⟨[], [], "    a\n\tb\n", .indented, 0, 1⟩] ∧
    (scan ("    a\n" ++ "\tb\n~~~\n")).2 = some ⟨.char '~', 3, 3⟩ := by
  have hi : IndentsAt "    a\n" 1 ∧ IndentsAt "\tb\n~~~\n" 1 := by decide
  have ha : (scan "    a\n").1 = [⟨[], [], "    a\n", .indented, 0, 1⟩] := by decide
  have hb : (scan "\tb\n~~~\n").1 = [⟨[], [], "\tb\n", .indented, 0, 1⟩] := by decide
  obtain ⟨hf, -, hm⟩ := scan_seam (a := "    a\n") (.inr (by decide)) (by decide) "\tb\n~~~\n"
  obtain ⟨bs, x, y, cs, hx, hy, -, -, -, -, hs⟩ := hm hi
  have hx : [] ++ [⟨[], [], "    a\n", .indented, 0, 1⟩] = bs ++ [x] := ha.symm.trans hx
  obtain ⟨rfl, hx⟩ := List.append_inj' hx rfl
  obtain ⟨rfl, rfl⟩ := List.cons.inj (hb.symm.trans hy)
  obtain rfl := List.singleton_inj.mp hx
  exact ⟨hi.1, hi.2, hs, hf⟩

end Document
end Tangle
