import Tangle.Document.Scan
import Tangle.Proofs.Document.Grammar
import Tangle.Proofs.Text.Lines

/-! # The scanner accepts the grammar

A step of the scanner on one line, then the run of the scanner over the lines of one piece: it ends
between two pieces again, with the block of the piece. So a scan yields the blocks of the
decomposition, and ends in a fault just when the last fence is unclosed. -/
namespace Tangle.Document

theorem kind_of_isEmittable {b : Block} (h : b.isEmittable = true) : b.kind = .fenced := by
  simp only [Block.isEmittable, Bool.and_eq_true, beq_iff_eq] at h
  exact h.1.1

namespace Piece

/-- The block of a piece whose first line has number `n`. -/
def block? (n : Nat) : Piece → Option Block
  | prose _ => none
  | indent run =>
    some { tag := [], rawTag := [], content := run.flatten, kind := .indented, width := 0, line := n }
  | fence _ o body (some _) => some
      { tag := o.rest.trimLine, rawTag := o.rest, content := body.flatten, kind := .fenced
        width := o.width, line := n }
  | fence _ _ _ none => none

def fault? (n : Nat) : Piece → Option ScanFault
  | fence _ o _ none => some ⟨o.mark, o.width, n⟩
  | _ => none

end Piece

/-- The blocks of pieces whose first line has number `n`. -/
def blocks : Nat → List Piece → List Block
  | _, [] => []
  | n, p :: ps => (p.block? n).toList ++ blocks (n + p.lines.length) ps

def fault? : Nat → List Piece → Option ScanFault
  | _, [] => none
  | n, p :: ps => (p.fault? n).or (fault? (n + p.lines.length) ps)

/-- A block is found where its piece stands. -/
theorem mem_blocks_iff {ps : List Piece} {n : Nat} {b : Block} : b ∈ blocks n ps ↔
    ∃ before p after, ps = before ++ p :: after ∧ p.block? (n + (before.flatMap Piece.lines).length) = some b := by
  induction ps generalizing n with
  | nil => simp [blocks]
  | cons q ps ih =>
    rw [blocks, List.mem_append, Option.mem_toList, ih]
    constructor
    · rintro (h | ⟨before, p, after, rfl, h⟩)
      · exact ⟨[], q, ps, rfl, h⟩
      · refine ⟨q :: before, p, after, rfl, ?_⟩
        rwa [List.flatMap_cons, List.length_append, ← Nat.add_assoc]
    · rintro ⟨before, p, after, he, h⟩
      cases before with
      | nil =>
        obtain ⟨rfl, rfl⟩ := List.cons.inj he
        exact .inl h
      | cons r before =>
        obtain ⟨rfl, rfl⟩ := List.cons.inj he
        rw [List.flatMap_cons, List.length_append, ← Nat.add_assoc] at h
        exact .inr ⟨before, p, after, rfl, h⟩

namespace Pending
variable {line : Text}

theorem step_opens {p : Pending} {o : Opening} (h : Opens o line) (hp : ∀ o s b, p ≠ .fence o s b)
    (n : Nat) : p.step n line = (.fence o n [], p.flush) := by
  have ho := ofLine?_eq_some_iff.mpr h
  cases p with
  | fence o s b => exact absurd rfl (hp o s b)
  | none => simp only [step, ho]
  | indent s b => simp only [step, ho]

theorem step_prose {p : Pending} (h : (Piece.prose line).WellFormed)
    (hp : ∀ o s b, p ≠ .fence o s b) (n : Nat) : p.step n line = (.none, p.flush) := by
  have ho := ofLine?_eq_none_iff.mpr h.2
  have hi : ¬isIndented line = true := fun hi => h.1 (isIndented_iff.mp hi)
  cases p with
  | fence o s b => exact absurd rfl (hp o s b)
  | none => simp only [step, ho, if_neg hi]
  | indent s b => simp only [step, ho, if_neg hi]

theorem step_none_inRun (h : InRun line) (n : Nat) : none.step n line = (.indent n [line], .none) := by
  simp only [step, ofLine?_eq_none_iff.mpr h.2, if_pos (isIndented_iff.mpr h.1)]

theorem step_indent_inRun (h : InRun line) (s n : Nat) (b : List Text) :
    (indent s b).step n line = (.indent s (b ++ [line]), .none) := by
  simp only [step, ofLine?_eq_none_iff.mpr h.2, if_pos (isIndented_iff.mpr h.1)]

theorem step_fence_body {o : Opening} (h : ¬Closes o line) (s n : Nat) (b : List Text) :
    (fence o s b).step n line = (.fence o s (b ++ [line]), .none) := by
  simp only [step, if_neg (closes_iff.not.mpr h)]

theorem step_fence_last {o : Opening} (h : Closes o line) (s n : Nat) (b : List Text) :
    (fence o s b).step n line = (.none, some (fencedBlock o s b)) := by
  simp only [step, if_pos (closes_iff.mpr h)]

end Pending

open Pending

theorem scanLines_cons (p : Pending) (n : Nat) (l : Text) (ls : List Text) :
    scanLines p n (l :: ls) = ((p.step n l).2.toList ++ (scanLines (p.step n l).1 (n + 1) ls).1,
      (scanLines (p.step n l).1 (n + 1) ls).2) := rfl

theorem scanLines_body {o : Opening} {body : List Text} (h : ∀ l ∈ body, ¬Closes o l) (s n : Nat)
    (b r : List Text) :
    scanLines (.fence o s b) n (body ++ r) =
      scanLines (.fence o s (b ++ body)) (n + body.length) r := by
  induction body generalizing n b with
  | nil => simp
  | cons l body ih =>
    rw [List.cons_append, scanLines_cons, step_fence_body (h l (by simp)),
      ih fun l hl => h l (by simp [hl])]
    simp [Nat.add_assoc, Nat.add_comm 1]

theorem scanLines_run {run : List Text} (h : ∀ l ∈ run, InRun l) (s n : Nat) (b r : List Text) :
    scanLines (.indent s b) n (run ++ r) = scanLines (.indent s (b ++ run)) (n + run.length) r := by
  induction run generalizing n b with
  | nil => simp
  | cons l run ih =>
    rw [List.cons_append, scanLines_cons, step_indent_inRun (h l (by simp)),
      ih fun l hl => h l (by simp [hl])]
    simp [Nat.add_assoc, Nat.add_comm 1]

/-- Behind a maximal run its block is complete, and the scan goes on as if there had been no run. -/
theorem scanLines_flush {r : List Text} (h : ∀ l ∈ r.head?, ¬InRun l) (s n : Nat) (b : List Text) :
    scanLines (.indent s b) n r =
      (indentedBlock s b :: (scanLines .none n r).1, (scanLines .none n r).2) := by
  cases r with
  | nil => rfl
  | cons l r =>
    rw [scanLines_cons, scanLines_cons]
    by_cases ho : ∃ o, Opens o l
    · obtain ⟨o, ho⟩ := ho
      rw [step_opens ho (by simp), step_opens ho (by simp)]
      rfl
    · have hl : (Piece.prose l).WellFormed :=
        ⟨fun hi => h l rfl ⟨hi, fun o h => ho ⟨o, h⟩⟩, fun o h => ho ⟨o, h⟩⟩
      rw [step_prose hl (by simp), step_prose hl (by simp)]
      rfl

theorem scanLines_piece {p : Piece} {r : List Text} (hp : p.WellFormed) (hr : p.Precedes r) (n : Nat) :
    scanLines .none n (p.lines ++ r) =
      ((p.block? n).toList ++ (scanLines .none (n + p.lines.length) r).1,
        (p.fault? n).or (scanLines .none (n + p.lines.length) r).2) := by
  cases p with
  | prose l =>
    rw [Piece.lines, List.cons_append, scanLines_cons, step_prose hp (by simp)]
    rfl
  | indent run =>
    obtain ⟨hne, hrun⟩ := hp
    cases run with
    | nil => exact absurd rfl hne
    | cons l run =>
      rw [Piece.lines, List.cons_append, scanLines_cons, step_none_inRun (hrun l (by simp)),
        scanLines_run fun l hl => hrun l (by simp [hl]), scanLines_flush hr]
      simp [Piece.block?, Piece.fault?, indentedBlock, Nat.add_assoc, Nat.add_comm 1]
  | fence f o body last =>
    obtain ⟨ho, hb, hl⟩ := hp
    rw [Piece.lines_fence, scanLines_cons, step_opens ho (by simp), scanLines_body hb]
    cases last with
    | none =>
      obtain rfl := hr rfl
      rfl
    | some l =>
      have hlen : n + (Piece.fence f o body (some l)).lines.length = n + 1 + body.length + 1 := by
        simp only [Piece.lines, List.length_cons, List.length_append, Option.toList_some,
          List.length_nil]
        omega
      rw [hlen, Option.toList_some, List.singleton_append, scanLines_cons, step_fence_last (hl l rfl)]
      rfl

theorem scanLines_eq {ls : List Text} {ps : List Piece} (h : Decomposes ls ps) (n : Nat) :
    scanLines .none n ls = (blocks n ps, fault? n ps) := by
  induction h generalizing n with
  | nil => rfl
  | cons hp hr _ ih => rw [scanLines_piece hp hr, ih, blocks, fault?]

theorem fault?_eq_some_iff {ls : List Text} {ps : List Piece} (h : Decomposes ls ps) {n : Nat}
    {f : ScanFault} : fault? n ps = some f ↔ ∃ qs first o body, ps = qs ++ [.fence first o body none] ∧
      f = ⟨o.mark, o.width, n + (qs.flatMap Piece.lines).length⟩ := by
  induction h generalizing n with
  | nil => simp [fault?]
  | @cons p ps r hp hr h ih =>
    have hs : (∃ qs first o body, p :: ps = (p :: qs) ++ [.fence first o body none] ∧
        f = ⟨o.mark, o.width, n + ((p :: qs).flatMap Piece.lines).length⟩) ↔
        fault? (n + p.lines.length) ps = some f := by
      simp [ih, Nat.add_assoc]
    rw [fault?]
    cases hf : p.fault? n with
    | none =>
      rw [Option.none_or, ← hs]
      constructor
      · rintro ⟨qs, first, o, body, hps, hf⟩
        exact ⟨p :: qs, first, o, body, hps, hf⟩
      · rintro ⟨qs, first, o, body, hps, rfl⟩
        cases qs with
        | nil =>
          obtain ⟨rfl, -⟩ := List.cons.inj hps
          cases hf
        | cons q qs =>
          obtain ⟨rfl, -⟩ := List.cons.inj hps
          exact ⟨qs, first, o, body, hps, rfl⟩
    | some g =>
      obtain ⟨first, o, body, rfl⟩ : ∃ first o body, p = .fence first o body none := by
        cases p with
        | prose | indent => cases hf
        | fence first o body last =>
          cases last with
          | none => exact ⟨first, o, body, rfl⟩
          | some l => cases hf
      obtain rfl := hr rfl
      obtain rfl := h.unique .nil
      cases hf
      rw [Option.some_or, Option.some.injEq]
      constructor
      · rintro rfl
        exact ⟨[], first, o, body, rfl, rfl⟩
      · rintro ⟨qs, first', o', body', hps, rfl⟩
        cases qs with
        | nil =>
          cases hps
          rfl
        | cons q qs => exact absurd (congrArg List.length hps) (by simp)

/-- The tag of a block is what stands behind its fence, trimmed. -/
theorem tag_of_mem_blocks {ps : List Piece} {n : Nat} {b : Block} (hb : b ∈ blocks n ps) :
    b.tag = b.rawTag.trimLine := by
  obtain ⟨_, p, _, -, hp⟩ := mem_blocks_iff.mp hb
  rcases p with _ | _ | ⟨first, o, body, _ | last⟩ <;> cases hp <;> rfl

/-- A fenced block holds what stands between its fences. -/
theorem exists_fence_of_mem_blocks {ls : List Text} {ps : List Piece} (h : Decomposes ls ps) {n : Nat} {b : Block}
    (hb : b ∈ blocks n ps) (hk : b.kind = .fenced) : ∃ before first body last after o,
      ls = before ++ first :: (body ++ last :: after) ∧ n + before.length = b.line ∧ Opens o first ∧
      (∀ l ∈ body, ¬Closes o l) ∧ Closes o last ∧ b.content = body.flatten := by
  obtain ⟨before, p, after, rfl, hp⟩ := mem_blocks_iff.mp hb
  have hw := h.wellFormed p (by simp)
  cases p with
  | prose => cases hp
  | indent =>
    cases hp
    cases hk
  | fence first o body last =>
    cases last with
    | none => cases hp
    | some last =>
      cases hp
      obtain ⟨ho, hbody, hlast⟩ := hw
      refine ⟨before.flatMap Piece.lines, first, body, last, after.flatMap Piece.lines, o, ?_, rfl, ho, hbody,
        hlast last rfl, rfl⟩
      rw [← h.flatMap_lines, List.flatMap_append, List.flatMap_cons, Piece.lines_fence]
      rfl

/-- A closed fence holds whole lines. -/
theorem endsInNewline_of_mem_blocks {ls : List Text} {ps : List Piece} (h : Decomposes ls ps)
    (hl : ls.IsChain fun l _ => l.endsInNewline = true) {n : Nat} {b : Block} (hb : b ∈ blocks n ps)
    (hk : b.kind = .fenced) : b.content = [] ∨ b.content.endsInNewline = true := by
  obtain ⟨before, first, body, last, after, -, rfl, -, -, -, -, hc⟩ := exists_fence_of_mem_blocks h hb hk
  rcases List.eq_nil_or_concat body with rfl | ⟨ms, m, rfl⟩
  · exact .inl hc
  · have he : before ++ first :: (ms.concat m ++ last :: after) = (before ++ first :: ms) ++ m :: last :: after := by
      simp
    rw [he] at hl
    have hm := (List.isChain_cons_cons.mp hl.right_of_append).1
    rw [hc, List.concat_eq_append, List.flatten_append, List.flatten_singleton]
    exact .inr (Text.endsInNewline_append hm _)

theorem exists_scan_eq (text : Text) :
    ∃ ps, Decomposes text.lines ps ∧ scan text = (blocks 1 ps, fault? 1 ps) := by
  obtain ⟨ps, hps⟩ := exists_decomposes text.lines
  exact ⟨ps, hps, scanLines_eq hps 1⟩

/-- The text of a document falls into pieces in one way. The scan yields the blocks of the pieces, and
ends in a fault just when the last piece is an unclosed fence, which the fault names. -/
theorem scan_pieces (text : Text) :
    ∃ ps, Decomposes text.lines ps ∧ (∀ qs, Decomposes text.lines qs → qs = ps) ∧
      (scan text).1 = blocks 1 ps ∧
      (∀ f, (scan text).2 = some f ↔ ∃ qs first o body, ps = qs ++ [.fence first o body none] ∧
        f = ⟨o.mark, o.width, 1 + (qs.flatMap Piece.lines).length⟩) ∧
      (ps.flatMap Piece.lines).flatten = text ∧
      ∀ b ∈ (scan text).1, b.kind = .fenced → b.content = [] ∨ b.content.endsInNewline = true := by
  obtain ⟨ps, hps⟩ := exists_decomposes text.lines
  have hs : scan text = (blocks 1 ps, fault? 1 ps) := scanLines_eq hps 1
  refine ⟨ps, hps, fun qs hqs => hqs.unique hps, by rw [hs], fun f => ?_, ?_, fun b hb hk => ?_⟩
  · rw [hs]
    exact fault?_eq_some_iff hps
  · rw [hps.flatMap_lines, Text.lines_flatten]
  · rw [hs] at hb
    exact endsInNewline_of_mem_blocks hps (Text.isChain_lines text) hb hk

/-- A run ends at an opener, a fence at a line with blanks around its mark. -/
example : scan "    a\n\x60\x60\x60 b\nc\n \x60\x60\x60\x60\n~~~\n\x60\x60\x60" =
    ([⟨[], [], "    a\n", .indented, 0, 1⟩, ⟨"b", " b", "c\n", .fenced, 3, 2⟩],
      some ⟨.char '~', 3, 5⟩) := by
  decide

end Tangle.Document
