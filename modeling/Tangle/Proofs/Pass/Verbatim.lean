import Tangle.Proofs.Document.Seam
import Tangle.Proofs.Pass.Advice
import Tangle.Proofs.Pass.Stage
import Tangle.Proofs.Text.Normal

/-! # Shell blocks

A document whose code is all shell code is compiled without any change to it: the script holds the bytes of the
document that stand between the fences, whether they are well-formed or not. -/
namespace Tangle

namespace Document

/-- In a document, the line with number `n` opens a fence, and the bytes `inner` stand between it and the first line
that closes the fence. -/
def Encloses (doc : Bytes) (n : Nat) (inner : Bytes) : Prop :=
  ∃ before first body last after o, Bytes.lines doc = before ++ first :: (body ++ last :: after) ∧
    before.length + 1 = n ∧ Opens o (Text.decode first) ∧ (∀ l ∈ body, ¬Closes o (Text.decode l)) ∧
    Closes o (Text.decode last) ∧ inner = body.flatten

/-- What a line encloses is determined by the number of the line. -/
theorem Encloses.unique {doc : Bytes} {n : Nat} {inner inner' : Bytes} (h : Encloses doc n inner)
    (h' : Encloses doc n inner') : inner = inner' := by
  obtain ⟨before, first, body, last, after, o, hd, hn, ho, hbody, hlast, rfl⟩ := h
  obtain ⟨before', first', body', last', after', o', hd', hn', ho', hbody', hlast', rfl⟩ := h'
  obtain ⟨-, hd⟩ := List.append_inj (hd.symm.trans hd') (by omega)
  obtain ⟨rfl, hrest⟩ := List.cons.inj hd
  obtain rfl := ho.unique ho'
  have inside (body : List Bytes) (last : Bytes) (after : List Bytes) (hb : ∀ l ∈ body, ¬Closes o (Text.decode l))
      (hl : Closes o (Text.decode last)) :
      (body ++ last :: after).takeWhile (fun l => !closes o.mark o.width (Text.decode l)) = body := by
    rw [List.takeWhile_append_of_pos (fun l h => by simpa [← closes_iff] using hb l h),
      List.takeWhile_cons_of_neg (by simpa [closes_iff] using hl), List.append_nil]
  rw [← inside body last after hbody hlast, hrest, inside body' last' after' hbody' hlast']

/-- The content of a block of decoded bytes is written as the bytes between its fences. -/
theorem encloses_of_mem_scan {doc : Bytes} {b : Block} (hb : b ∈ (scan (Text.decode doc)).1) (hk : b.kind = .fenced) :
    Encloses doc b.line b.content.encode := by
  obtain ⟨ps, hps, hs⟩ := exists_scan_eq (Text.decode doc)
  rw [hs] at hb
  obtain ⟨before, first, body, last, after, o, hl, hn, ho, hbody, hlast, hc⟩ := exists_fence_of_mem_blocks hps hb hk
  rw [Text.lines_decode] at hl
  obtain ⟨bs, rest₁, hd, hbs, h₁⟩ := List.map_eq_append_iff.mp hl
  obtain ⟨f, rest₂, rfl, hf, h₂⟩ := List.map_eq_cons_iff.mp h₁
  obtain ⟨is, rest₃, rfl, his, h₃⟩ := List.map_eq_append_iff.mp h₂
  obtain ⟨g, rest₄, rfl, hg, -⟩ := List.map_eq_cons_iff.mp h₃
  subst hbs hf his hg
  refine ⟨bs, f, is, g, rest₄, o, hd, ?_, ho, fun l hl => hbody _ (List.mem_map_of_mem hl), hlast, ?_⟩
  · rw [← hn, List.length_map, Nat.add_comm]
  · have hi : is.map (Text.encode ∘ Text.decode) = is :=
      (List.map_congr_left fun l _ => Text.encode_decode l).trans is.map_id
    rw [hc, Text.encode_flatten, List.map_map, hi]

end Document

/-- A block of shell code that always runs. -/
def Block.IsShell (b : Block) : Prop :=
  (Tag.ofText b.rawTag).language ∈ shellLanguages ∧
    (Tag.ofText b.rawTag).request = .plain (Tag.ofText b.rawTag).words ∧ ("@main" : Text) ∉ (Tag.ofText b.rawTag).words

instance : DecidablePred Block.IsShell := fun _ => inferInstanceAs (Decidable (_ ∧ _ ∧ _))

namespace Pass
variable {σ : Type} {m : Bench σ}

/-- Shell code is its own fragment. -/
theorem ofBlock_shell (shell : Shell σ) (hm : m.session.bindings = Bindings.withDefaults {} builtinHooks) {b : Block}
    (hb : b.IsShell) : ∃ j, Fragment.ofBlock shell b m = (.ok [.text b.content], { m with journal := j }) := by
  obtain ⟨hl, hw, hmain⟩ := hb
  have hc : m.session.bindings.compilers.get? (Tag.ofText b.rawTag).language = some (.host
      ⟨"builtin-" ++ (Tag.ofText b.rawTag).language, fun content tag => .ok (.text (passage content tag))⟩) := by
    rw [hm, Bindings.withDefaults, Table.get?_setDefaults]
    exact default?_builtinHooks hl
  obtain ⟨j, hj⟩ := Fragment.ofBlock_host shell hw (by rw [hm]; rfl) hc
  have hp : passage b.content (Tag.ofText b.rawTag) = b.content := by
    have hn : ¬((Tag.ofText b.rawTag).words.contains "@main") = true := by
      rw [List.contains_iff_mem]
      exact hmain
    rw [passage, if_neg hn]
  refine ⟨j, ?_⟩
  rw [hj, Fragment.hosted_text rfl, hp, Fragment.following, hm]
  rfl

theorem translate_shell (shell : Shell σ) (hm : m.session.bindings = Bindings.withDefaults {} builtinHooks)
    {bs : List Block} (hb : ∀ b ∈ bs, b.isEmittable = true → b.IsShell) :
    ∃ j, translate shell bs m =
      (.ok ((bs.filter Block.isEmittable).map (.text ·.content)), { m with journal := j }) := by
  induction bs generalizing m with
  | nil => exact ⟨m.journal, rfl⟩
  | cons b bs ih =>
    obtain ⟨hb, hbs⟩ := List.forall_mem_cons.mp hb
    rw [translate_cons]
    cases he : b.isEmittable with
    | false =>
      obtain ⟨j, hj⟩ := @ih (m.note 3 _) hm hbs
      refine ⟨j, ?_⟩
      rw [Work.bind_of_ok (contribution_skip he m), Work.map_apply, hj, List.filter_cons_of_neg (by simp [he])]
      rfl
    | true =>
      obtain ⟨i, hi⟩ := ofBlock_shell shell hm (hb he)
      obtain ⟨j, hj⟩ := @ih { m with journal := i } hm hbs
      refine ⟨j, ?_⟩
      rw [contribution_block he, Work.bind_of_ok hi, Work.map_apply, hj, List.filter_cons_of_pos he]
      rfl

/-- A document of shell code only is compiled to the contents of its blocks. -/
theorem compile_shell {document : Text} (hs : (Document.scan document).2 = none)
    (hb : ∀ b ∈ (Document.scan document).1, b.isEmittable = true → b.IsShell) (c : Compiler) (shell : Shell σ)
    (site : Site) (settings : Settings) (world : σ) (journal : Journal) :
    (Compiler.compile { c with bindings := {} } shell site settings world journal document false).script =
      .ok (((Document.scan document).1.filter Block.isEmittable).map Block.content).flatten := by
  obtain ⟨s, hstart, hbindings⟩ : ∃ s, Session.start site settings c.searchPath {} = .ok s ∧ s.bindings = {} :=
    ⟨_, rfl, rfl⟩
  have hm : (opened s world journal).session.bindings = Bindings.withDefaults {} builtinHooks := by
    rw [opened, Session.install_eq, hbindings]
  obtain ⟨j, hj⟩ := translate_shell shell hm hb
  let bs := (Document.scan document).1.filter Block.isEmittable
  have ho : (eager shell document false (opened s world journal)).1 =
      .ok ⟨.text [] :: bs.map (.text ·.content) ++ [.text []], bs.length, {}⟩ := by
    rw [eager, Work.bind_of_ok hj, hs]
    exact congrArg Prod.fst (conclude_bare shell (by rw [hm]; rfl) (by rw [hm]; rfl) _)
  have hp : (HookValue.text [] :: bs.map (.text ·.content) ++ [.text []]) =
      ([] :: bs.map Block.content ++ [[]]).map .text := by
    rw [List.map_append, List.map_cons, List.map_map]
    rfl
  rw [compile_script _ shell hstart, ho]
  change assemble _ = _
  rw [hp, assemble_texts, List.flatten_append, List.flatten_cons, List.nil_append]
  exact congrArg Except.ok (List.append_nil _)

/-- A document of shell code only is compiled to the bytes between its fences. -/
theorem compile_verbatim {doc : Bytes} (hs : (Document.scan (Text.decode doc)).2 = none)
    (hb : ∀ b ∈ (Document.scan (Text.decode doc)).1, b.isEmittable = true → b.IsShell) (c : Compiler)
    (shell : Shell σ) (site : Site) (settings : Settings) (world : σ) (journal : Journal) :
    ∃ script inners, (Compiler.compile { c with bindings := {} } shell site settings world journal (Text.decode doc)
        false).script = .ok script ∧
      List.Forall₂ (fun b inner => Document.Encloses doc b.line inner)
        ((Document.scan (Text.decode doc)).1.filter Block.isEmittable) inners ∧
      script.encode = inners.flatten := by
  let bs := (Document.scan (Text.decode doc)).1.filter Block.isEmittable
  have hk : ∀ b ∈ bs, Document.Encloses doc b.line b.content.encode := by
    intro b hb
    obtain ⟨hb, he⟩ := List.mem_filter.mp hb
    exact Document.encloses_of_mem_scan hb (Document.kind_of_isEmittable he)
  refine ⟨_, bs.map (·.content.encode), compile_shell hs hb c shell site settings world journal,
    List.forall₂_map_right_iff.mpr (List.forall₂_same.mpr hk), ?_⟩
  rw [Text.encode_flatten, List.map_map]
  rfl

/-- Bytes that are no text, an end of line of two bytes and separators of lines, between fences of two kinds. -/
def undecoded : Bytes :=
  ("```sh\n" : Text).encode ++ [0xFF, 0x00, 0x0D, 0x0A] ++ ("```\n~~~ bash x\n" : Text).encode ++
    [0xE2, 0x80, 0xA8, 0xE2, 0x80, 0x0A] ++ ("~~~" : Text).encode

theorem compile_verbatim_undecoded : ∃ script,
    (Compiler.compile {} (Shell.ofFiles fun _ => .ended 0 [] {}) ⟨"/tmp", "mdsh"⟩ {} () {} (Text.decode undecoded)
      false).script = .ok script ∧
    script.encode = [0xFF, 0x00, 0x0D, 0x0A] ++ [0xE2, 0x80, 0xA8, 0xE2, 0x80, 0x0A] := by
  have hs : (Document.scan (Text.decode undecoded)).2 = none := by decide +kernel
  have hb : ∀ b ∈ (Document.scan (Text.decode undecoded)).1, b.isEmittable = true → b.IsShell := by decide +kernel
  obtain ⟨script, inners, hr, hall, he⟩ :=
    compile_verbatim hs hb {} (Shell.ofFiles fun _ => .ended 0 [] {}) ⟨"/tmp", "mdsh"⟩ {} () {}
  refine ⟨script, hr, he.trans ?_⟩
  let first : Block := ⟨"sh", "sh", Text.decode [0xFF, 0x00, 0x0D, 0x0A], .fenced, 3, 1⟩
  let second : Block := ⟨"bash x", " bash x", Text.decode [0xE2, 0x80, 0xA8, 0xE2, 0x80, 0x0A], .fenced, 3, 4⟩
  have hd : (Document.scan (Text.decode undecoded)).1 = [first, second] := by decide +kernel
  have hf : [first, second].filter Block.isEmittable = [first, second] := by decide
  rw [hd, hf] at hall
  obtain _ | ⟨h₁, _ | ⟨h₂, _ | _⟩⟩ := hall
  rw [h₁.unique (Document.encloses_of_mem_scan (b := first) (by simp [hd]) rfl),
    h₂.unique (Document.encloses_of_mem_scan (b := second) (by simp [hd]) rfl)]
  simp only [first, second, Text.encode_decode]
  rfl

end Pass
end Tangle
