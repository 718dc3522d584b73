import Tangle.Proofs.Document.Scan
import Tangle.Proofs.Pass.Outcome
import Tangle.Proofs.Pass.Stage

/-! # Pieces and lines

The pieces of a script stand one behind the other with nothing between them. What the compiler writes itself is
empty or made of whole lines. What a hook hands back is taken as it is; if no newline ends it, the next piece
goes on in its last line. -/
namespace Tangle

namespace Text

/-- The text is empty, or a newline ends it, so what follows it begins a line. -/
def IsWhole (t : Text) : Prop := t = [] ∨ t.endsInNewline = true

instance : DecidablePred IsWhole := fun t => inferInstanceAs (Decidable (t = [] ∨ t.endsInNewline = true))

theorem isWhole_append {t : Text} (h : t.endsInNewline = true) (u : Text) : (u ++ t).IsWhole :=
  .inr (endsInNewline_append h u)

theorem isWhole_terminated (t : Text) : t.terminated.IsWhole := by
  rw [terminated]
  split
  · next h => simpa [IsWhole] using h
  · exact isWhole_append (t := [Symbol.newline]) rfl t

end Text

theorem Document.isWhole_content {text : Text} {b : Block} (hb : b ∈ (scan text).1) (hk : b.kind = .fenced) :
    b.content.IsWhole := by
  obtain ⟨ps, hps, hs⟩ := exists_scan_eq text
  rw [hs] at hb
  exact endsInNewline_of_mem_blocks hps (Text.isChain_lines text) hb hk

namespace Fragment

theorem isWhole_append (stem key quoted : Text) : (append stem key quoted).IsWhole :=
  Text.isWhole_append (t := ")\n") rfl _

end Fragment

theorem isWhole_passage {content : Text} (h : content.IsWhole) (tag : Tag) : (passage content tag).IsWhole := by
  rw [passage]
  split
  · exact Text.isWhole_append (t := "fi\n") rfl _
  · exact h

namespace Pass
variable {σ : Type} {caller : Bindings} {settings : Settings} {shell : Shell σ}

/-- A piece of a script; `given` if a hook or a command that ran for it has handed it back. -/
structure Part where
  value : HookValue
  given : Bool

namespace Part

def text (q : Part) : Text := q.value.shown

/-- The text of parts, one behind the other. -/
def written (qs : List Part) : Text := qs.flatMap text

/-- The last of the parts that holds anything has been handed back, and no newline ends it. -/
def Dangles (qs : List Part) : Prop :=
  ∃ pre q blanks, qs = pre ++ q :: blanks ∧ q.given = true ∧ q.text ≠ [] ∧ q.text.endsInNewline = false ∧
    ∀ b ∈ blanks, b.text = []

theorem written_concat (qs : List Part) (q : Part) : written (qs ++ [q]) = written qs ++ q.text := by
  simp [written]

/-- Behind parts a line begins, unless they dangle. -/
theorem isWhole_or_dangles {qs : List Part} (h : ∀ q ∈ qs, q.given = false → q.text.IsWhole) :
    (written qs).IsWhole ∨ Dangles qs := by
  induction qs using List.reverseRecOn with
  | nil => exact .inl (.inl rfl)
  | append_singleton qs q ih =>
    rw [written_concat]
    by_cases hq : q.text = []
    · -- the part adds nothing, so whatever dangles before it dangles still
      rw [hq, List.append_nil]
      refine (ih fun r hr => h r (List.mem_append_left _ hr)).imp_right ?_
      rintro ⟨pre, r, blanks, rfl, hg, hn, hl, hb⟩
      refine ⟨pre, r, blanks ++ [q], by simp, hg, hn, hl, fun b hm => ?_⟩
      rcases List.mem_append.mp hm with hm | hm
      · exact hb b hm
      · exact List.mem_singleton.mp hm ▸ hq
    · cases hl : q.text.endsInNewline with
      | true => exact .inl (Text.isWhole_append hl _)
      | false =>
        refine .inr ⟨qs, q, [], rfl, ?_, hq, hl, fun _ hm => by cases hm⟩
        by_contra hg
        rcases h q (by simp) (by simpa using hg) with hw | hw
        · exact hq hw
        · rw [hl] at hw
          cases hw

end Part

namespace Stage

/-- Whether the fragment of a stage is what a hook or a command has handed back: a hook that the caller or the
document has bound, a command that runs for the block, or the block itself, run by the built-in hook. -/
def isGiven (caller : Bindings) (st : Stage σ) : Bool :=
  match policyOf st.bench st.block with
  | .compileCommand _ | .hook .evaluate | .hook (.shell _) => true
  | .hook (.host _) => (caller.compilers.get? st.tag.language).isSome
  | .fallback => st.bench.session.bindings.misc.isSome
  | .runCommand _ | .template _ => false

/-- The pieces of a stage. What follows the fragment is never handed back. -/
def parts (caller : Bindings) (st : Stage σ) : List Part :=
  match st.pieces with
  | [] => []
  | v :: vs => ⟨v, st.isGiven caller⟩ :: vs.map (⟨·, false⟩)

theorem map_value_parts (caller : Bindings) (st : Stage σ) : (st.parts caller).map Part.value = st.pieces := by
  rw [parts]
  split
  · next h => exact h.symm
  · next h => rw [h, List.map_cons, List.map_map, show Part.value ∘ (⟨·, false⟩) = id from rfl, List.map_id]

/-- A fragment that the compiler writes is made of whole lines. -/
theorem isWhole_fragment {st : Stage σ} (hm : Settled caller settings st.bench)
    (hc : st.block.content.IsWhole) (hg : st.isGiven caller = false) {v : HookValue}
    (hv : (Fragment.actionOf st.bench.session st.block).result shell st.bench.session st.bench.world
      (Fragment.blame st.block st.tag) = .ok v) : v.shown.IsWhole := by
  rw [isGiven] at hg
  cases hp : policyOf st.bench st.block with
  | compileCommand code =>
    rw [hp] at hg
    cases hg
  | runCommand code | template t =>
    rw [action_eq hp] at hv
    rw [Fragment.wrapped_ok hv]
    exact Text.isWhole_append (t := "\n") rfl _
  | hook k =>
    rw [hp] at hg
    cases k with
    | evaluate | shell => cases hg
    | host h =>
      rw [action_eq hp] at hv
      cases source hp with
      | hook hk =>
      -- neither the document nor the caller has bound the hook, so it is a built-in one
      have hc' : caller.compilers.get? st.tag.language = none := by simpa using hg
      rw [(hm.overlaid.follows hm.base).compilers, hc', Option.none_or] at hk
      cases hs : st.bench.session.compiler? st.tag.language with
      | some name =>
        rw [hs] at hk
        cases hk
      | none =>
        rw [hs] at hk
        rw [Fragment.action, Action.result, Fragment.hosted, run_of_default?_builtinHooks hk] at hv
        cases hv
        exact isWhole_passage hc _
  | fallback =>
    have hmisc : st.bench.session.bindings.misc = none := by simpa [hp] using hg
    rw [action_eq hp, Fragment.action, hmisc] at hv
    simp only at hv
    cases hw : Quoting.word st.block.content with
    | error e =>
      rw [hw] at hv
      cases hv
    | ok quoted =>
      rw [hw] at hv
      cases hv
      exact Fragment.isWhole_append _ _ _

theorem isWhole_parts {st : Stage σ} (hm : Settled caller settings st.bench)
    (hc : st.block.content.IsWhole) {k : Bench σ}
    (ho : Fragment.ofBlock shell st.block st.bench = (.ok st.pieces, k)) :
    ∀ q ∈ st.parts caller, q.given = false → q.text.IsWhole := by
  obtain ⟨v, hv, hps⟩ := Fragment.ofBlock_pieces ho
  intro q hq hg
  rw [parts, hps] at hq
  rcases List.mem_cons.mp hq with rfl | hq
  · exact isWhole_fragment hm hc hg hv
  · obtain ⟨w, hw, rfl⟩ := List.mem_map.mp hq
    obtain ⟨t, -, rfl⟩ := List.mem_map.mp hw
    exact Text.isWhole_terminated t.body

end Stage

/-- The parts of a script: what the file hooks hand back, which is nothing where none is bound, stands around
the parts of the stages. -/
def scriptParts (caller : Bindings) (ss : List (Stage σ)) (header footer : HookValue) (trailer : List Text) :
    List Part :=
  ⟨header, true⟩ :: ss.flatMap (Stage.parts caller) ++ ⟨footer, true⟩ :: trailer.map (⟨.text ·, false⟩)

theorem map_value_scriptParts (caller : Bindings) (ss : List (Stage σ)) (header footer : HookValue)
    (trailer : List Text) : (scriptParts caller ss header footer trailer).map Part.value =
      header :: ss.flatMap (·.pieces) ++ footer :: trailer.map .text := by
  have hss : (ss.flatMap (Stage.parts caller)).map Part.value = ss.flatMap (·.pieces) := by
    rw [List.map_flatMap]
    exact congrArg (ss.flatMap ·) (funext (Stage.map_value_parts caller))
  rw [scriptParts, List.map_append, List.map_cons, List.map_cons, List.map_map, hss]
  rfl

/-- What is made of texts is the text of its parts. -/
theorem Part.written_of_assemble {qs : List Part} {script : Text}
    (h : assemble (qs.map Part.value) = .ok script) : written qs = script := by
  obtain ⟨ts, hts, rfl⟩ := assemble_ok h
  have hs : qs.map Part.text = ts := by
    have hshown := congrArg (List.map HookValue.shown) hts
    rw [List.map_map, List.map_map] at hshown
    exact hshown.trans (List.map_id ts)
  rw [written, List.flatMap_def, hs]

/-- What the compiler writes itself is whole, in each part of a script. -/
theorem isWhole_scriptParts {ss : List (Stage σ)} {m k : Bench σ} {text : Text} {header footer : HookValue}
    {trailer : List Text} (hm : Settled caller settings m) (hts : Translates shell m (Document.scan text).1 ss k)
    (ht : ∀ t ∈ trailer, t.IsWhole) :
    ∀ q ∈ scriptParts caller ss header footer trailer, q.given = false → q.text.IsWhole := by
  intro q hq hg
  rw [scriptParts, List.cons_append, List.mem_cons, List.mem_append, List.mem_cons, List.mem_flatMap,
    List.mem_map] at hq
  rcases hq with rfl | ⟨st, hst, hq⟩ | rfl | ⟨t, ht', rfl⟩
  · cases hg
  · obtain ⟨hb, k, ho⟩ := hts.stage hm hst
    obtain ⟨hscan, he⟩ := hts.mem hst
    exact Stage.isWhole_parts hb (Document.isWhole_content hscan (Document.kind_of_isEmittable he)) ho q hq hg
  · cases hg
  · exact ht t ht'

/-- In a script, the header, each fragment and what follows it, the footer and the trailer begin a line, unless
the text before them is one that a hook or a command has handed back without a newline at its end. -/
theorem compile_lines {c : Compiler} {site : Site} {world : σ} {journal : Journal} {document script : Text}
    {evalMode : Bool} (h : (c.compile shell site settings world journal document evalMode).script = .ok script) :
    ∃ s ss k l n header footer, Session.start site settings c.searchPath c.bindings = .ok s ∧
      Translates shell (opened s world journal) (Document.scan document).1 ss k ∧
      fileText shell k.session.bindings.fileHeader "file-header" k = (.ok header, l) ∧
      fileText shell l.session.bindings.fileFooter "file-footer" l = (.ok footer, n) ∧
      let qs := scriptParts c.bindings ss header footer
        (if evalMode then [settings.evalTrailer ++ "\n"] else [])
      assemble (qs.map Part.value) = .ok script ∧ Part.written qs = script ∧
      (∀ q ∈ qs, q.given = false → q.text.IsWhole) ∧
      ∀ before q after, qs = before ++ q :: after → (Part.written before).IsWhole ∨ Part.Dangles before := by
  obtain ⟨s, o, n, hs, ho, ha, -⟩ := compile_ok h
  have hm : Settled c.bindings settings (opened s world journal) := .opened hs world journal
  obtain ⟨ss, header, footer, k, l, -, hts, hh, hf, rfl⟩ := eager_ok ho
  have hl := (hts.settled hm).fileText shell k.session.bindings.fileHeader "file-header"
  rw [hh] at hl
  have hn := hl.fileText shell l.session.bindings.fileFooter "file-footer"
  rw [hf] at hn
  refine ⟨s, ss, k, l, n, header, footer, hs, hts, hh, hf, ?_⟩
  intro qs
  have hvalues : qs.map Part.value = header :: ss.flatMap (·.pieces) ++ footer :: (if evalMode then
      [.text (n.session.settings.evalTrailer ++ "\n")] else []) := by
    rw [map_value_scriptParts, hn.settings]
    cases evalMode <;> rfl
  have hassemble : assemble (qs.map Part.value) = .ok script := hvalues ▸ ha
  have hwhole : ∀ q ∈ qs, q.given = false → q.text.IsWhole := by
    refine isWhole_scriptParts hm hts fun t ht => ?_
    cases evalMode with
    | false => cases ht
    | true =>
      obtain rfl := List.mem_singleton.mp ht
      exact Text.isWhole_append (t := "\n") rfl _
  refine ⟨hassemble, Part.written_of_assemble hassemble, hwhole, fun before q after he => ?_⟩
  exact Part.isWhole_or_dangles fun r hr => hwhole r (he ▸ List.mem_append_left _ hr)

/-- The caller's bindings with one compile hook, which hands back a text without a newline. -/
def unended : Bindings := { compilers := Table.empty.set "x" (.host ⟨[], fun _ _ => .ok (.text "echo 1")⟩) }

/-- An array behind a hook that dangles: whatever else the script holds, its last part begins a line. -/
theorem compile_lines_unended : ∃ qs : List Part,
    Part.written qs = "echo 1mdsh_raw_y+=($'b\\n')\n" ++ ({} : Settings).evalTrailer ++ "\n" ∧
    (∀ q ∈ qs, q.given = false → q.text.IsWhole) ∧
    ∀ before q after, qs = before ++ q :: after → (Part.written before).IsWhole ∨ Part.Dangles before := by
  have hscript : (Compiler.compile { bindings := unended } (Shell.ofFiles fun _ => .unstartable [])
      ⟨"/tmp", "mdsh"⟩ {} () {} "~~~x\na\n~~~\n~~~y\nb\n~~~\n" true).script =
        .ok ("echo 1mdsh_raw_y+=($'b\\n')\n" ++ ({} : Settings).evalTrailer ++ "\n") := by decide +kernel
  obtain ⟨-, ss, -, -, -, header, footer, -, -, -, -, -, hw, hwhole, hlines⟩ := compile_lines hscript
  exact ⟨_, hw, hwhole, hlines⟩

/-- The fragment of a block behind one whose hook hands back no newline goes on in its line. -/
theorem run_shares_line : ∃ s, Session.start ⟨"/tmp", "mdsh"⟩ {} [] unended = .ok s ∧
    ((run (Shell.ofFiles fun _ => .unstartable []) "~~~x\n~~~\n~~~sh\necho 2\n~~~\n" false (opened s () {})).1.map
      Outcome.pieces) = .ok [.text [], .text "echo 1", .text "echo 2\n", .text []] ∧
    ¬ (Text.IsWhole "echo 1") ∧
    (Compiler.compile { bindings := unended } (Shell.ofFiles fun _ => .unstartable []) ⟨"/tmp", "mdsh"⟩ {} () {}
      "~~~x\n~~~\n~~~sh\necho 2\n~~~\n" false).script = .ok "echo 1echo 2\n" :=
  ⟨{ site := ⟨"/tmp", "mdsh"⟩, settings := {}, searchPath := [], base := unended, bindings := unended,
     functions := {} }, rfl, by decide +kernel, by decide, by decide +kernel⟩

end Pass
end Tangle
