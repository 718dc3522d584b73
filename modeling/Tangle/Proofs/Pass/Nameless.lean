import Tangle.Proofs.Document.Scan
import Tangle.Proofs.Pass.Outcome
import Tangle.Proofs.Tag

/-! # Blocks without a language

What a blank is, the scanner and the reader of tags decide each for itself, and the scanner knows fewer
blanks. So it translates every block of width three that has a language, and besides them those whose tag is
made of the blanks that it does not know: as blocks of the empty language, which nothing in the document can
handle. -/
namespace Tangle

namespace Tag

/-- The tag is blank, but not with the blanks of a line alone. -/
def IsFaint (raw : Text) : Prop := raw.isBlank = true ∧ ∃ s ∈ raw, s.isLineBlank = false

theorem exists_not_isLineBlank_iff (raw : Text) :
    (∃ s ∈ raw, s.isLineBlank = false) ↔ (ofText raw).language ≠ [] ∨ IsFaint raw := by
  rw [ne_eq, language_eq_nil_iff, IsFaint]
  constructor
  · intro h
    by_cases hb : raw.isBlank = true
    · exact .inr ⟨hb, h⟩
    · exact .inl hb
  · rintro (hb | ⟨-, h⟩)
    · -- a blank of a line is a blank for the reader too
      by_contra hn
      refine hb (Text.isBlank_iff.mpr fun s hs => Symbol.isBlank_of_isLineBlank ?_)
      by_contra hl
      exact hn ⟨s, hs, by simpa using hl⟩
    · exact h

end Tag

/-- A block as the scanner builds it is translated if something other than the blanks of a line stands behind
its fence. -/
theorem Block.isEmittable_iff {b : Block} (h : b.tag = b.rawTag.trimLine) : b.isEmittable = true ↔
    b.kind = .fenced ∧ b.width = 3 ∧ ∃ s ∈ b.rawTag, s.isLineBlank = false := by
  have ht : b.tag.isEmpty = false ↔ ∃ s ∈ b.rawTag, s.isLineBlank = false := by
    rw [h, List.isEmpty_eq_false_iff, ne_eq, Text.trimLine, Text.trimBy_eq_nil_iff]
    simp
  simp [isEmittable, ht, and_assoc]

theorem Document.tag_of_mem_scan {text : Text} {b : Block} (hb : b ∈ (scan text).1) :
    b.tag = b.rawTag.trimLine := by
  obtain ⟨ps, -, hs⟩ := exists_scan_eq text
  rw [hs] at hb
  exact tag_of_mem_blocks hb

namespace Pass
variable {σ : Type}

/-- What the caller has bound to the empty language. -/
def callerPolicy (caller : Bindings) : Policy :=
  ((caller.templates.get? []).map Policy.template
    |>.or ((caller.compilers.get? []).map .hook)).getD .fallback

/-- No function of a session and no built-in hook belongs to the empty language. -/
theorem Settled.policyOf_nameless {caller : Bindings} {settings : Settings} {m : Bench σ}
    (h : Settled caller settings m) {b : Block} (hb : b.rawTag.isBlank = true) :
    policyOf m b = callerPolicy caller := by
  have hf := h.overlaid.follows h.base
  rw [policyOf, Tag.ofText_of_isBlank hb, hf.resolve rfl]
  have hd : Bindings.default? builtinHooks [] = none := rfl
  simp [Session.precedence, Session.template?, Session.compiler?, Session.source?, hd, callerPolicy]

/-- The scanner and the reader of tags agree on all blocks but those of width three whose tag is faint. They are
translated, and their tag is read as that of the empty language, for which the caller alone can have bound
something. -/
theorem scan_languages (c : Compiler) (shell : Shell σ) (site : Site) (settings : Settings) (world : σ)
    (journal : Journal) (text : Text) :
    (∀ b ∈ (Document.scan text).1,
      (b.isEmittable = true ↔ b.kind = .fenced ∧ b.width = 3 ∧
        ((Tag.ofText b.rawTag).language ≠ [] ∨ Tag.IsFaint b.rawTag)) ∧
      ((b.isEmittable = true ↔ b.kind = .fenced ∧ b.width = 3 ∧ (Tag.ofText b.rawTag).language ≠ []) ↔
        ¬ (b.kind = .fenced ∧ b.width = 3 ∧ Tag.IsFaint b.rawTag))) ∧
    ∀ s ss k, Session.start site settings c.searchPath c.bindings = .ok s →
      Translates shell (opened s world journal) (Document.scan text).1 ss k →
      ss.map (·.block) = (Document.scan text).1.filter Block.isEmittable ∧
      ∀ st ∈ ss, ((Tag.ofText st.block.rawTag).language = [] ↔ Tag.IsFaint st.block.rawTag) ∧
        (Tag.IsFaint st.block.rawTag → Tag.ofText st.block.rawTag = { language := [] } ∧
          policyOf st.bench st.block = callerPolicy c.bindings) := by
  have hscan : ∀ b ∈ (Document.scan text).1, (b.isEmittable = true ↔ b.kind = .fenced ∧ b.width = 3 ∧
      ((Tag.ofText b.rawTag).language ≠ [] ∨ Tag.IsFaint b.rawTag)) := fun b hb => by
    rw [Block.isEmittable_iff (Document.tag_of_mem_scan hb), Tag.exists_not_isLineBlank_iff]
  have hfaint : ∀ raw, Tag.IsFaint raw → (Tag.ofText raw).language = [] := fun raw h =>
    (Tag.language_eq_nil_iff raw).mpr h.1
  refine ⟨fun b hb => ⟨hscan b hb, ?_⟩, fun s ss k hs hts => ⟨hts.blocks, fun st hst => ?_⟩⟩
  · rw [hscan b hb]
    constructor
    · rintro h ⟨hk, hw, hf⟩
      exact (h.mp ⟨hk, hw, .inr hf⟩).2.2 (hfaint _ hf)
    · rintro hn
      refine ⟨?_, fun ⟨hk, hw, hl⟩ => ⟨hk, hw, .inl hl⟩⟩
      rintro ⟨hk, hw, hl | hf⟩
      · exact ⟨hk, hw, hl⟩
      · exact absurd ⟨hk, hw, hf⟩ hn
  · obtain ⟨hb, he⟩ := hts.mem hst
    refine ⟨⟨fun hl => ?_, hfaint _⟩, fun hf => ⟨Tag.ofText_of_isBlank hf.1, ?_⟩⟩
    · exact ((hscan _ hb).mp he).2.2.resolve_left (not_not_intro hl)
    · exact (hts.stage (.opened hs world journal) hst).1.policyOf_nameless hf.1

/-- A tag that is a no-break space, behind a block with a language. Its block is translated second. -/
theorem scan_languages_space :
    let document : Text := "~~~x\na\n~~~\n~~~\u00a0\nb\n~~~\n~~~~\u00a0\nc\n~~~~\n"
    let c : Compiler := { bindings := { templates := Table.empty.set [] ⟨"cat", []⟩ } }
    ∃ (s : Session) (ss : List (Stage Unit)) (k : Bench Unit) (st : Stage Unit),
      Session.start ⟨"/tmp", "mdsh"⟩ {} c.searchPath c.bindings = .ok s ∧
      Translates (Shell.ofFiles fun _ => .unstartable []) (opened s () {}) (Document.scan document).1 ss k ∧
      st ∈ ss ∧ st.block.rawTag = "\u00a0" ∧ (Tag.ofText st.block.rawTag).language = [] ∧
      policyOf st.bench st.block = .template ⟨"cat", []⟩ := by
  intro document c
  have hscript : (c.compile (Shell.ofFiles fun _ => .unstartable []) ⟨"/tmp", "mdsh"⟩ {} () {} document
      false).script = .ok "mdsh_raw_x+=($'a\\n')\n\x7b\ncat\n\x7d <<'\x60\x60\x60'\nb\n\x60\x60\x60\n" := by
    decide +kernel
  obtain ⟨s, o, n, hs, ho, -, -⟩ := compile_ok hscript
  obtain ⟨ss, header, footer, k, l, -, hts, -, -, rfl⟩ := eager_ok ho
  obtain ⟨-, h⟩ := scan_languages c (Shell.ofFiles fun _ => .unstartable []) ⟨"/tmp", "mdsh"⟩ {} () _ document
  obtain ⟨hblocks, h⟩ := h s ss k hs hts
  have hfilter : (Document.scan document).1.filter Block.isEmittable =
      [⟨"x", "x", "a\n", .fenced, 3, 1⟩, ⟨"\u00a0", "\u00a0", "b\n", .fenced, 3, 4⟩] := by decide
  obtain ⟨st, hst, hb⟩ : ∃ st ∈ ss, st.block = ⟨"\u00a0", "\u00a0", "b\n", .fenced, 3, 4⟩ := by
    rw [← List.mem_map, hblocks, hfilter]
    simp
  obtain ⟨hl, hp⟩ := h st hst
  have hraw : st.block.rawTag = "\u00a0" := congrArg Block.rawTag hb
  have hf : Tag.IsFaint st.block.rawTag := by
    rw [hraw]
    exact ⟨by decide, _, List.mem_singleton_self _, by decide⟩
  exact ⟨s, ss, k, st, hs, hts, hst, hraw, hl.mpr hf, (hp hf).2⟩

/-- A fence with nothing but a no-break space behind it is code, of the empty language. -/
theorem scan_space_emittable : ∃ b ∈ (Document.scan "\x60\x60\x60\u00a0\nx\n\x60\x60\x60\n").1,
    b.isEmittable = true ∧ (Tag.ofText b.rawTag).language = [] ∧
    (Compiler.compile {} (Shell.ofFiles fun _ => .unstartable []) ⟨"/tmp", "mdsh"⟩ {} () {}
      "\x60\x60\x60\u00a0\nx\n\x60\x60\x60\n" false).script = .ok "mdsh_raw_+=($'x\\n')\n" :=
  ⟨⟨"\u00a0", "\u00a0", "x\n", .fenced, 3, 1⟩, by decide +kernel⟩

end Pass
end Tangle
