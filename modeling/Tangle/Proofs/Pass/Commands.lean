import Tangle.Proofs.Pass.Outcome
import Tangle.Proofs.Pass.Stage
import Tangle.Proofs.Tag

/-! # The commands of compound statements

Around a text the compiler writes a group of commands, or the guard of a block that runs only in the main
script. In either the shell wants a command. A group without a body is given one that does nothing, and
neither the code of a tag nor the body of a function ends in a blank, so none of these groups is left without.
But what the caller binds may be made of blanks, and so may the block behind a guard; nothing stands in for
these. -/
namespace Tangle

/-- A class of blanks: newlines are among them, and nothing that is no white space. -/
structure Symbol.Blanks (p : Symbol → Bool) : Prop where
  newline : p Symbol.newline = true
  isBlank : ∀ s, p s = true → s.isBlank = true

namespace Text
variable {p : Symbol → Bool} {t : Text}

/-- One of the lines is not all blanks. -/
def HasFilledLine (p : Symbol → Bool) (t : Text) : Prop := ∃ l ∈ t.lines, ∃ s ∈ l, p s = false

theorem hasFilledLine_iff : HasFilledLine p t ↔ ∃ s ∈ t, p s = false := by
  conv_rhs => rw [← lines_flatten t]
  constructor
  · rintro ⟨l, hl, s, hs, hp⟩
    exact ⟨s, List.mem_flatten.mpr ⟨l, hl, hs⟩, hp⟩
  · rintro ⟨s, hs, hp⟩
    obtain ⟨l, hl, hs⟩ := List.mem_flatten.mp hs
    exact ⟨l, hl, s, hs, hp⟩

theorem hasFilledLine_terminated (hp : Symbol.Blanks p) : HasFilledLine p t.terminated ↔ HasFilledLine p t := by
  rw [hasFilledLine_iff, hasFilledLine_iff, terminated]
  split
  · rfl
  · simp [hp.newline]

theorem hasFilledLine_of_getLast? (hp : Symbol.Blanks p) (hn : t ≠ [])
    (ht : ∀ s ∈ t.getLast?, s.isBlank = false) : HasFilledLine p t := by
  refine hasFilledLine_iff.mpr ⟨t.getLast hn, List.getLast_mem hn, ?_⟩
  have hl := ht _ (List.getLast?_eq_some_getLast hn)
  by_contra hs
  rw [hp.isBlank _ (by simpa using hs)] at hl
  cases hl

end Text

/-- The compound statements that are written around texts. -/
inductive Compound where
  | group (body : Text)
  | guard (content : Text)

namespace Compound

/-- What stands between the words of the statement. -/
def commands : Compound → Text
  | group body => if body.isEmpty then ":\n" else body.terminated
  | guard content => content.terminated

def text (w : Compound) : Text :=
  match w with
  | group _ => "\x7b\n" ++ w.commands ++ "\x7d"
  | guard _ => mainGuard ++ w.commands ++ "fi\n"

theorem hasFilledLine_group {p : Symbol → Bool} (hp : Symbol.Blanks p) (body : Text) :
    (group body).commands.HasFilledLine p ↔ body = [] ∨ body.HasFilledLine p := by
  rw [commands]
  by_cases hb : body = []
  · have hc : p (.char ':') = false := by
      by_contra h
      have hw := hp.isBlank (.char ':') (by simpa using h)
      cases hw
    subst hb
    exact iff_of_true (Text.hasFilledLine_iff.mpr ⟨.char ':', List.mem_cons_self, hc⟩) (.inl rfl)
  · rw [if_neg (by simpa using hb), Text.hasFilledLine_terminated hp, or_iff_right hb]

end Compound

theorem Session.trimmed_of_template? {s : Session} {kind l : Text} {t : Template}
    (h : s.template? kind l = some t) : t.body.trim = t.body := by
  obtain ⟨source, -, hs⟩ := Option.bind_eq_some_iff.mp h
  rw [Slot.templateOf] at hs
  cases hd : Definition.read source with
  | error e =>
    rw [hd] at hs
    cases hs
  | ok d =>
    rw [hd] at hs
    cases hs
    exact Text.trim_trim _

namespace Pass
variable {σ : Type} {caller : Bindings} {settings : Settings} {shell : Shell σ} {st : Stage σ} {w : Compound}
  {p : Symbol → Bool}

namespace Stage

/-- The compound statement of a stage. A guard is the work of a built-in hook, which neither the document nor
the caller has displaced. -/
inductive Writes (caller : Bindings) (st : Stage σ) : Compound → Prop
  | command {code : Text} (h : policyOf st.bench st.block = .runCommand code) : Writes caller st (.group code)
  | template {t : Template} (h : policyOf st.bench st.block = .template t) : Writes caller st (.group t.body)
  | main {hook : CompileHook} (h : policyOf st.bench st.block = .hook hook)
      (hl : st.tag.language ∈ shellLanguages) (hm : ("@main" : Text) ∈ st.tag.words)
      (hs : st.bench.session.compiler? st.tag.language = none)
      (hc : caller.compilers.get? st.tag.language = none) : Writes caller st (.guard st.block.content)

/-- The statement has no command: it is the group of a template of the caller that is made of blanks, or the
guard of a block of blanks. -/
def Hollow (caller : Bindings) (p : Symbol → Bool) (st : Stage σ) : Compound → Prop
  | .group body => body ≠ [] ∧ ¬ body.HasFilledLine p ∧
      ∃ t, policyOf st.bench st.block = .template t ∧ t.body = body ∧
        caller.templates.get? st.tag.language = some t
  | .guard content => ¬ content.HasFilledLine p

/-- The fragment of a stage begins with its compound statement. -/
theorem Writes.begins (hw : st.Writes caller w) (hm : Settled caller settings st.bench) {k : Bench σ}
    (ho : Fragment.ofBlock shell st.block st.bench = (.ok st.pieces, k)) :
    ∃ rest, st.pieces.head? = some (.text (w.text ++ rest)) := by
  obtain ⟨v, hv, hps⟩ := Fragment.ofBlock_pieces ho
  cases hw with
  | command h | template h =>
    rw [action_eq h] at hv
    rw [hps, Fragment.wrapped_ok hv]
    exact ⟨_, congrArg (some ∘ HookValue.text) (by simp only [List.append_assoc]; rfl)⟩
  | @main hook h hl hw hs hc =>
    cases source h with
    | hook hk =>
    -- nothing else is bound to the language, so this is the hook that copies shell code
    rw [(hm.overlaid.follows hm.base).compilers, hs, hc, default?_builtinHooks hl] at hk
    cases hk
    rw [action_eq h] at hv
    cases hv
    have hc : st.tag.words.contains ("@main" : Text) = true := by simpa using hw
    refine ⟨[], ?_⟩
    rw [hps, List.append_nil, passage, if_pos hc]
    rfl

theorem Writes.hasFilledLine_iff (hw : st.Writes caller w) (hm : Settled caller settings st.bench)
    (hp : Symbol.Blanks p) : w.commands.HasFilledLine p ↔ ¬ st.Hollow caller p w := by
  cases hw with
  | @command code h =>
    have hfilled : code = [] ∨ code.HasFilledLine p := by
      cases source h with
      | run hr =>
      by_cases hn : code = []
      · exact .inl hn
      · exact .inr (Text.hasFilledLine_of_getLast? hp hn (Tag.request_code (m := .run) hr))
    rw [Compound.hasFilledLine_group hp]
    exact iff_of_true hfilled fun ⟨hn, hb, _⟩ => hfilled.elim hn hb
  | @template t h =>
    rw [Compound.hasFilledLine_group hp]
    refine ⟨fun hf ⟨hn, hb, _⟩ => hf.elim hn hb, fun hh => ?_⟩
    by_contra hf
    obtain ⟨hn, hb⟩ := not_or.mp hf
    cases source h with
    | template ht =>
    rw [(hm.overlaid.follows hm.base).templates] at ht
    -- a body from a function is trimmed, so only one of the caller is left
    cases hs : st.bench.session.template? "lang" st.tag.language with
    | none =>
      rw [hs] at ht
      exact hh ⟨hn, hb, t, h, rfl, ht⟩
    | some t' =>
      rw [hs] at ht
      cases ht
      exact hb (Text.hasFilledLine_of_getLast? hp hn (Text.trimmed_iff.mp (Session.trimmed_of_template? hs)).2)
  | main h hl hw hs hc => rw [Compound.commands, Text.hasFilledLine_terminated hp, Hollow, not_not]

end Stage

/-- Each compound statement that the compiler writes around a text begins the fragment of its block, and has a
command unless it is hollow: the group of a template of the caller, or a guard, around nothing but blanks. -/
theorem compile_commands {c : Compiler} {site : Site} {world : σ} {journal : Journal}
    {document script : Text} {evalMode : Bool}
    (h : (c.compile shell site settings world journal document evalMode).script = .ok script)
    (hp : Symbol.Blanks p) :
    ∃ s ss k header ends, Session.start site settings c.searchPath c.bindings = .ok s ∧
      Translates shell (opened s world journal) (Document.scan document).1 ss k ∧
      ss.map (·.block) = (Document.scan document).1.filter Block.isEmittable ∧
      assemble (header :: ss.flatMap (·.pieces) ++ ends) = .ok script ∧
      ∀ st ∈ ss, ∀ w, st.Writes c.bindings w →
        (∃ rest, st.pieces.head? = some (.text (w.text ++ rest))) ∧
        (w.commands.HasFilledLine p ↔ ¬ st.Hollow c.bindings p w) := by
  obtain ⟨s, o, n, hs, ho, ha, -⟩ := compile_ok h
  have hm : Settled c.bindings settings (opened s world journal) := .opened hs world journal
  obtain ⟨ss, header, footer, k, l, -, hts, -, -, rfl⟩ := eager_ok ho
  refine ⟨s, ss, k, header, _, hs, hts, hts.blocks, ha, fun st hst w hw => ?_⟩
  obtain ⟨hb, k, ho⟩ := hts.stage hm hst
  exact ⟨hw.begins hb ho, hw.hasFilledLine_iff hb hp⟩

/-- A run command without code, on an empty block. -/
theorem compile_commands_empty :
    Symbol.Blanks Symbol.isLineBlank ∧
    (Compiler.compile {} (Shell.ofFiles fun _ => .unstartable []) ⟨"/tmp", "mdsh"⟩ {} () {}
      "~~~x |\n~~~\n" false).script = .ok "\x7b\n:\n\x7d <<'\x60\x60\x60'\n\x60\x60\x60\n" ∧
    ∃ st : Stage Unit, st.Writes {} (.group []) ∧ ¬ st.Hollow {} Symbol.isLineBlank (.group []) ∧
      ∃ rest, st.pieces.head? = some (.text ("\x7b\n:\n\x7d" ++ rest)) := by
  have hp : Symbol.Blanks Symbol.isLineBlank := ⟨rfl, fun _ => Symbol.isBlank_of_isLineBlank⟩
  have hscript : (Compiler.compile {} (Shell.ofFiles fun _ => .unstartable []) ⟨"/tmp", "mdsh"⟩ {} () {}
      "~~~x |\n~~~\n" false).script = .ok "\x7b\n:\n\x7d <<'\x60\x60\x60'\n\x60\x60\x60\n" := by decide +kernel
  obtain ⟨s, ss, k, header, ends, -, -, hblocks, -, h⟩ := compile_commands hscript hp
  have hfilter : (Document.scan "~~~x |\n~~~\n").1.filter Block.isEmittable =
      [⟨"x |", "x |", [], .fenced, 3, 1⟩] := by decide
  obtain ⟨st, hst, hb⟩ : ∃ st ∈ ss, st.block = ⟨"x |", "x |", [], .fenced, 3, 1⟩ := by
    rw [← List.mem_map, hblocks, hfilter]
    exact List.mem_singleton_self _
  have hw : st.Writes {} (.group []) := .command (by rw [policyOf, hb]; rfl)
  obtain ⟨hbegins, hiff⟩ := h st hst _ hw
  have hfilled : (Compound.group []).commands.HasFilledLine Symbol.isLineBlank :=
    (Compound.hasFilledLine_group hp []).mpr (.inl rfl)
  exact ⟨hp, hscript, st, hw, hiff.mp hfilled, hbegins⟩

/-- A guard around an empty block, and a group whose body is a blank: no command stands in either. -/
theorem compile_hollow :
    (Compiler.compile {} (Shell.ofFiles fun _ => .unstartable []) ⟨"/tmp", "mdsh"⟩ {} () {}
      "~~~sh @main\n~~~\n" false).script = .ok (mainGuard ++ "fi\n") ∧
    (Compiler.compile { bindings := { templates := Table.empty.set "x" ⟨" ", []⟩ } }
      (Shell.ofFiles fun _ => .unstartable []) ⟨"/tmp", "mdsh"⟩ {} () {} "~~~x\n~~~\n" false).script =
        .ok "\x7b\n \n\x7d <<'\x60\x60\x60'\n\x60\x60\x60\n" ∧
    ¬ (Compound.guard []).commands.HasFilledLine Symbol.isLineBlank ∧
    ¬ (Compound.group " ").commands.HasFilledLine Symbol.isLineBlank := by
  refine ⟨by decide +kernel, by decide +kernel, ?_, ?_⟩
  · rintro ⟨l, hl, -⟩
    cases hl
  · rw [Text.hasFilledLine_iff]
    decide

end Pass
end Tangle
