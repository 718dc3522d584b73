import Tangle.Proofs.Document.Scan

/-! # Line ends

A scan sees of a line only its trimmed text and whether it is indented. A carriage return before the newline that
ends a line changes neither, so it is found in the content of a block and nowhere else. -/
namespace Tangle

namespace Text

/-- The text with a carriage return before each newline. -/
def crlf (t : Text) : Text := replaceAll Symbol.newline "\r\n" t

theorem crlf_cons (c : Symbol) (t : Text) :
    crlf (c :: t) = (if c = Symbol.newline then ofString "\r\n" else [c]) ++ crlf t := rfl

theorem crlf_append (t u : Text) : crlf (t ++ u) = crlf t ++ crlf u := List.flatMap_append

theorem crlf_flatten (ls : List Text) : crlf ls.flatten = (ls.map crlf).flatten := by
  induction ls with
  | nil => rfl
  | cons l ls ih => rw [List.flatten_cons, crlf_append, ih, List.map_cons, List.flatten_cons]

theorem crlf_of_free {t : Text} (h : Symbol.newline ∉ t) : crlf t = t := by
  induction t with
  | nil => rfl
  | cons c t ih =>
    obtain ⟨hc, ht⟩ := List.ne_and_not_mem_of_not_mem_cons h
    rw [crlf_cons, if_neg hc.symm, ih ht, List.singleton_append]

/-- A line keeps all but the newline that ends it. -/
theorem IsLine.crlf_eq {l : Text} (h : IsLine l) :
    l.crlf = l ∨ ∃ u, l = u ++ [Symbol.newline] ∧ l.crlf = u ++ Text.ofString "\r\n" := by
  obtain ⟨u, hu, rfl | ⟨rfl, -⟩⟩ := h
  · refine .inr ⟨u, rfl, ?_⟩
    rw [crlf_append, crlf_of_free hu]
    rfl
  · exact .inl (crlf_of_free hu)

theorem lines_crlf (t : Text) : t.crlf.lines = t.lines.map crlf := by
  induction t with
  | nil => rfl
  | cons c t ih =>
    by_cases hc : c = Symbol.newline
    · have hr : (ofString "\r\n").endsInNewline = true := by decide
      rw [crlf_cons, if_pos hc, lines_append (.inr hr), lines, if_pos hc, ih, hc]
      rfl
    · rw [crlf_cons, if_neg hc, List.singleton_append, lines, lines, if_neg hc, if_neg hc, ih]
      cases lines t with
      | nil => simp [crlf_of_free, Ne.symm hc]
      | cons l ls => simp [crlf_cons, hc]

/-- Whether a text begins with another is settled before any symbol that the other does not hold. -/
theorem startsWith_append {head v : Text} (hv : ∀ s ∈ v.head?, s ∉ head) (u : Text) :
    (u ++ v).startsWith head = u.startsWith head := by
  rw [startsWith, startsWith, Bool.eq_iff_iff, List.isPrefixOf_iff_prefix, List.isPrefixOf_iff_prefix]
  refine ⟨fun h => ?_, fun h => h.trans (List.prefix_append u v)⟩
  rcases List.prefix_or_prefix_of_prefix h (List.prefix_append u v) with h' | ⟨w, rfl⟩
  · exact h'
  · obtain ⟨r, rfl⟩ := (List.prefix_append_right_inj u).mp h
    cases w with
    | nil => simp
    | cons s w => exact absurd (by simp) (hv s rfl)

end Text

namespace Document
open Text

theorem trimLine_crlf {l : Text} (h : IsLine l) : l.crlf.trimLine = l.trimLine := by
  rcases h.crlf_eq with he | ⟨u, rfl, he⟩
  · rw [he]
  · rw [he, trimLine_append (by decide), trimLine_append (by decide)]

theorem isIndented_crlf {l : Text} (h : IsLine l) : isIndented l.crlf = isIndented l := by
  have hs : ∀ head : Text, Symbol.newline ∉ head → .char '\r' ∉ head →
      l.crlf.startsWith head = l.startsWith head := by
    intro head hn hr
    rcases h.crlf_eq with he | ⟨u, rfl, he⟩
    · rw [he]
    · rw [he, startsWith_append (v := Text.ofString "\r\n") (by rintro s ⟨⟩; exact hr),
        startsWith_append (by rintro s ⟨⟩; exact hn)]
  rw [isIndented, isIndented, trimLine_crlf h, hs _ (by decide) (by decide), hs _ (by decide) (by decide)]

end Document

/-- The block of the same lines with carriage returns. -/
def Block.crlf (b : Block) : Block := { b with content := b.content.crlf }

namespace Document
open Text

def Pending.crlf : Pending → Pending
  | .none => .none
  | .fence o line body => .fence o line (body.map Text.crlf)
  | .indent line body => .indent line (body.map Text.crlf)

theorem Pending.flush_crlf (p : Pending) : p.crlf.flush = p.flush.map Block.crlf := by
  cases p with
  | none | fence => rfl
  | indent line body => simp [Pending.crlf, flush, indentedBlock, Block.crlf, crlf_flatten]

theorem Pending.step_crlf (p : Pending) (n : Nat) {l : Text} (h : IsLine l) :
    p.crlf.step n l.crlf = ((p.step n l).1.crlf, (p.step n l).2.map Block.crlf) := by
  have ho : Opening.ofLine? l.crlf = Opening.ofLine? l := by
    rw [Opening.ofLine?, Opening.ofLine?, trimLine_crlf h]
  cases p with
  | fence o line body =>
    have hc : closes o.mark o.width l.crlf = closes o.mark o.width l := by
      rw [closes, closes, trimLine_crlf h]
    simp only [Pending.crlf, step, hc]
    split
    · simp [fencedBlock, Block.crlf, crlf_flatten]
    · simp
  | none =>
    simp only [Pending.crlf, step, ho, isIndented_crlf h]
    split
    · rfl
    · split <;> rfl
  | indent line body =>
    have hf := flush_crlf (.indent line body)
    simp only [Pending.crlf, step, ho, isIndented_crlf h] at hf ⊢
    split
    · exact Prod.ext rfl hf
    · split
      · simp
      · exact Prod.ext rfl hf

theorem Pending.finish_crlf (p : Pending) : p.crlf.finish = p.finish.map (Option.map Block.crlf) := by
  cases p with
  | fence => rfl
  | none | indent => exact congrArg Except.ok (flush_crlf _)

theorem scanLines_crlf {ls : List Text} (h : ∀ l ∈ ls, IsLine l) (p : Pending) (n : Nat) :
    scanLines p.crlf n (ls.map Text.crlf) = ((scanLines p n ls).1.map Block.crlf, (scanLines p n ls).2) := by
  induction ls generalizing p n with
  | nil =>
    rw [List.map_nil, scanLines, scanLines, Pending.finish_crlf]
    cases p.finish with
    | error f => rfl
    | ok b => cases b <;> rfl
  | cons l ls ih =>
    obtain ⟨hl, hls⟩ := List.forall_mem_cons.mp h
    rw [List.map_cons, scanLines_cons, scanLines_cons, Pending.step_crlf p n hl, ih hls]
    cases (p.step n l).2 <;> simp

/-- A document with carriage returns before its newlines is scanned as the document without them. The contents of its
blocks hold the carriage returns; the tags, the kinds, the widths, the lines and the fault are the same. -/
theorem scan_crlf (t : Text) :
    scan t.crlf = ((scan t).1.map fun b => { b with content := b.content.crlf }, (scan t).2) := by
  rw [scan, lines_crlf]
  exact scanLines_crlf (fun l hl => isLine_of_mem_lines hl) .none 1

end Document
end Tangle
