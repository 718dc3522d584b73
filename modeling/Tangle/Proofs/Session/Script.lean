import Tangle.Session.Script
import Tangle.Proofs.Quoting.Word
import Tangle.Proofs.Success
import Tangle.Proofs.Text.Join

/-! # The script of a run

A run has a script unless a text that the script quotes holds the null character. Each part of the script
that is not empty stands on lines of its own. The last line before the code is run sets the positional
parameters. -/
namespace Tangle

namespace Quoting

theorem word_eq_ok {t w : Text} : word t = .ok w ↔ Symbol.nul ∉ t ∧ quote t = w := by
  rw [word]
  split
  · next h => simp [h]
  · next h => simp [h]

theorem words_eq_ok {ts : List Text} {w : Text} :
    words ts = .ok w ↔ (∀ t ∈ ts, Symbol.nul ∉ t) ∧ Text.join " " (ts.map quote) = w := by
  have hq (ws : List Text) : List.Forall₂ (fun t w => quote t = w) ts ws ↔ ts.map quote = ws :=
    List.forall₂_map_left_iff.symm.trans (by rw [List.forall₂_eq_eq_eq])
  simp only [words, map_eq_ok, mapM_eq_ok, word_eq_ok, List.forall₂_and_left, hq]
  constructor
  · rintro ⟨ws, ⟨ht, rfl⟩, hw⟩
    exact ⟨ht, hw⟩
  · rintro ⟨ht, hw⟩
    exact ⟨_, ⟨ht, rfl⟩, hw⟩

end Quoting

namespace Session
variable {s : Session} {codeFile t : Text} {args : List Text}

/-- None of the texts that a script quotes holds the null character. -/
structure Quotable (s : Session) (codeFile : Text) (args : List Text) : Prop where
  directory : Symbol.nul ∉ s.site.directory
  searchPath : ∀ p ∈ s.searchPath, Symbol.nul ∉ p
  codeFile : Symbol.nul ∉ codeFile
  args : ∀ a ∈ args, Symbol.nul ∉ a

def argumentText (args : List Text) : Text :=
  if args.isEmpty then "set --" else "set -- " ++ Text.join " " (args.map Quoting.quote)

theorem argumentLine_eq_ok :
    argumentLine args = .ok t ↔ (∀ a ∈ args, Symbol.nul ∉ a) ∧ argumentText args = t := by
  rw [argumentLine, argumentText]
  split
  · next h => simp [List.isEmpty_iff.mp h]
  · simp only [map_eq_ok, Quoting.words_eq_ok]
    constructor
    · rintro ⟨w, ⟨ha, rfl⟩, ht⟩
      exact ⟨ha, ht⟩
    · rintro ⟨ha, ht⟩
      exact ⟨_, ⟨ha, rfl⟩, ht⟩

theorem argumentText_eq (args : List Text) : argumentText args = ("set --" : Text) ++ Quoting.spaced args := by
  cases args with
  | nil => rfl
  | cons a args =>
    have h := Text.join_flatMap " " (List.cons_ne_nil (Quoting.quote a) (args.map Quoting.quote))
    rw [← List.map_cons, List.flatMap_map] at h
    rw [argumentText, Quoting.spaced, ← h, ← List.append_assoc]
    rfl

/-- A line that sets the positional parameters. What stands behind the command is read, up to the end of the line, as
the bytes of the arguments, whatever is on the next line. -/
def Sets (line : Text) (args : List Text) : Prop :=
  Quoting.newline ∉ line.encode ∧ ∃ words, line = ("set --" : Text) ++ words ∧
    ∀ r, Quoting.IsBoundary (words.encode ++ Quoting.newline :: r) ∧
      Quoting.readWords (words.encode ++ Quoting.newline :: r) = some (args.map Text.encode, Quoting.newline :: r)

theorem sets_argumentText (args : List Text) : Sets (argumentText args) args := by
  have hcommand : ∀ c ∈ ("set --" : Text), c.needsEscape = false := by decide
  rw [argumentText_eq]
  refine ⟨?_, _, rfl, fun r => ⟨Quoting.isBoundary_spaced args r, Quoting.readWords_spaced args r⟩⟩
  intro hn
  obtain ⟨c, hc, hx⟩ := Text.mem_encode.mp hn
  have hp : c.IsPlain := by
    rcases List.mem_append.mp hc with hc | hc
    · exact Symbol.isPlain_of_not_needsEscape (hcommand c hc)
    · exact Quoting.isPlain_spaced args c hc
  exact absurd (hp.encode _ hx).1 (by decide)

/-- The parts of a script before those that run the code. -/
def scriptParts (s : Session) (args : List Text) : List Text :=
  scriptHead (Quoting.quote s.optionsFile) (Quoting.quote s.variablesFile) (Quoting.quote s.functionsFile) ++
    [s.options] ++ s.bindings.functions.values ++ [s.bindings.prelude, s.state] ++
    [helperText s.site.helper (Quoting.quote (Text.join ":" s.searchPath)), dumpText, argumentText args]

theorem script_eq_ok : s.script codeFile args = .ok t ↔ s.Quotable codeFile args ∧
    t = Text.join "\n" ((s.scriptParts args ++ scriptTail (Quoting.quote codeFile)).filter (!·.isEmpty)) ++
      "\n" := by
  -- The three files are in one directory, so their names hold no null character if its name does not.
  have ho : Symbol.nul ∉ s.optionsFile ↔ Symbol.nul ∉ s.site.directory := by
    simp [optionsFile, Text.ofString, Symbol.nul]
  have hv : Symbol.nul ∉ s.variablesFile ↔ Symbol.nul ∉ s.site.directory := by
    simp [variablesFile, Text.ofString, Symbol.nul]
  have hf : Symbol.nul ∉ s.functionsFile ↔ Symbol.nul ∉ s.site.directory := by
    simp [functionsFile, Text.ofString, Symbol.nul]
  have hp : Symbol.nul ∉ Text.join ":" s.searchPath ↔ ∀ p ∈ s.searchPath, Symbol.nul ∉ p := by
    rw [Text.mem_join (by decide)]
    simp
  simp only [script, bind_eq_ok, Quoting.word_eq_ok, argumentLine_eq_ok, ho, hv, hf, hp]
  constructor
  · rintro ⟨_, ⟨hp, rfl⟩, _, ⟨hd, rfl⟩, _, ⟨-, rfl⟩, _, ⟨-, rfl⟩, _, ⟨ha, rfl⟩, _, ⟨hc, rfl⟩, h⟩
    exact ⟨⟨hd, hp, hc, ha⟩, (Except.ok.inj h).symm⟩
  · rintro ⟨⟨hd, hp, hc, ha⟩, rfl⟩
    exact ⟨_, ⟨hp, rfl⟩, _, ⟨hd, rfl⟩, _, ⟨hd, rfl⟩, _, ⟨hd, rfl⟩, _, ⟨ha, rfl⟩, _, ⟨hc, rfl⟩, rfl⟩

/-- All texts that a script is made of have bytes. -/
structure Encodable (s : Session) (codeFile : Text) (args : List Text) : Prop where
  directory : s.site.directory.isEncodable = true
  helper : s.site.helper.isEncodable = true
  searchPath : ∀ p ∈ s.searchPath, p.isEncodable = true
  options : s.options.isEncodable = true
  functions : ∀ f ∈ s.bindings.functions.values, f.isEncodable = true
  prelude : s.bindings.prelude.isEncodable = true
  state : s.state.isEncodable = true
  codeFile : codeFile.isEncodable = true
  args : ∀ a ∈ args, a.isEncodable = true

theorem isEncodable_argumentText (args : List Text) :
    (argumentText args).isEncodable = args.all Text.isEncodable := by
  rw [argumentText]
  split
  · next h => simp [List.isEmpty_iff.mp h]
  · simp [Text.isEncodable_join, Quoting.isEncodable_quote, Function.comp_def]

theorem isEncodable_script (h : s.script codeFile args = .ok t) :
    t.isEncodable = true ↔ s.Encodable codeFile args := by
  obtain ⟨-, rfl⟩ := script_eq_ok.mp h
  -- An empty part has bytes, so leaving it out changes nothing.
  have hf (ps : List Text) : (ps.filter (!·.isEmpty)).all Text.isEncodable = ps.all Text.isEncodable := by
    rw [List.all_filter]
    exact List.all_congr rfl fun p => by cases p <;> simp [Text.isEncodable]
  have hdump : dumpText.isEncodable = true := Text.isEncodable_ofString _
  rw [Text.isEncodable_append, Text.isEncodable_join (Text.isEncodable_ofString _), hf]
  simp only [scriptParts, scriptHead, scriptTail, helperText, optionsFile, variablesFile, functionsFile,
    List.all_append, List.all_cons, List.all_nil, Text.isEncodable_append, Text.isEncodable_ofString,
    Quoting.isEncodable_quote, Text.isEncodable_join, isEncodable_argumentText, hdump, Bool.and_eq_true,
    Bool.and_true, Bool.true_and, List.all_eq_true]
  constructor
  · rintro ⟨⟨⟨⟨⟨⟨hd, -, -⟩, ho⟩, hf⟩, hp, hs⟩, ⟨⟨hsearch, hh⟩, -⟩, ha⟩, hc⟩
    exact ⟨hd, hh, hsearch, ho, hf, hp, hs, hc, ha⟩
  · rintro ⟨hd, hh, hsearch, ho, hf, hp, hs, hc, ha⟩
    exact ⟨⟨⟨⟨⟨⟨hd, hd, hd⟩, ho⟩, hf⟩, hp, hs⟩, ⟨⟨hsearch, hh⟩, hh⟩, ha⟩, hc⟩

theorem not_quotable_iff : ¬s.Quotable codeFile args ↔
    (∃ a ∈ args, Symbol.nul ∈ a) ∨ (∃ p ∈ s.searchPath, Symbol.nul ∈ p) ∨ Symbol.nul ∈ s.site.directory ∨
      Symbol.nul ∈ codeFile := by
  constructor
  · intro h
    by_contra hn
    push Not at hn
    exact h ⟨hn.2.2.1, hn.2.1, hn.2.2.2, hn.1⟩
  · rintro (⟨a, ha, hn⟩ | ⟨p, hp, hn⟩ | hn | hn) h
    · exact h.args a ha hn
    · exact h.searchPath p hp hn
    · exact h.directory hn
    · exact h.codeFile hn

theorem script_eq_error : s.script codeFile args = .error .nul ↔ ¬s.Quotable codeFile args := by
  cases h : s.script codeFile args with
  | error e =>
    cases e
    refine iff_of_true rfl fun hq => ?_
    cases h.symm.trans (script_eq_ok.mpr ⟨hq, rfl⟩)
  | ok t => exact iff_of_false nofun (not_not_intro (script_eq_ok.mp h).1)

theorem script_lines (h : s.script codeFile args = .ok t) :
    t = Text.unlines ((s.scriptParts args).filter (!·.isEmpty) ++ scriptTail (Quoting.quote codeFile)) := by
  have ht : (scriptTail (Quoting.quote codeFile)).filter (!·.isEmpty) =
      scriptTail (Quoting.quote codeFile) := rfl
  obtain ⟨-, rfl⟩ := script_eq_ok.mp h
  have hn : (s.scriptParts args).filter (!·.isEmpty) ++ scriptTail (Quoting.quote codeFile) ≠ [] :=
    List.append_ne_nil_of_right_ne_nil _ (List.cons_ne_nil _ _)
  rw [List.filter_append, ht, Text.join_newline hn]

/-- Each part that is not empty stands in the script on lines of its own, before the code is run. -/
theorem script_part (h : s.script codeFile args = .ok t) {part : Text} (hp : part ∈ s.scriptParts args)
    (hn : part ≠ []) : ∃ before behind code, t = Text.unlines (before ++ part :: behind ++ scriptTail code) := by
  have hm : part ∈ (s.scriptParts args).filter (!·.isEmpty) := List.mem_filter.mpr ⟨hp, by simpa using hn⟩
  obtain ⟨before, behind, hp⟩ := List.append_of_mem hm
  exact ⟨before, behind, Quoting.quote codeFile, hp ▸ script_lines h⟩

theorem script_defines (h : s.script codeFile args = .ok t) {source : Text}
    (hs : source ∈ s.bindings.functions.values) (hn : source ≠ []) :
    ∃ before behind code, t = Text.unlines (before ++ source :: behind ++ scriptTail code) :=
  script_part h (by simp [scriptParts, hs]) hn

/-- The functions of the script give the helper command the search path of the session. -/
theorem script_helper (h : s.script codeFile args = .ok t) : ∃ before behind code word,
    t = Text.unlines (before ++ helperText s.site.helper word :: behind ++ scriptTail code) ∧
    ∀ r, Quoting.readWord (word.encode ++ Quoting.space :: r) =
      some ((Text.join ":" s.searchPath).encode, Quoting.space :: r) := by
  have hp : helperText s.site.helper (Quoting.quote (Text.join ":" s.searchPath)) ∈ s.scriptParts args := by
    simp [scriptParts]
  obtain ⟨before, behind, code, ht⟩ := script_part h hp nofun
  refine ⟨before, behind, code, _, ht, fun r => Quoting.readWord_part (Quoting.readPart_quote _ _) ?_⟩
  intro b hb
  cases hb
  rfl

/-- The line that sets the positional parameters is the last one before the code is run. -/
theorem script_sets (h : s.script codeFile args = .ok t) :
    ∃ before line, t = Text.unlines (before ++ line :: scriptTail (Quoting.quote codeFile)) ∧ Sets line args := by
  have ha : [argumentText args].filter (!·.isEmpty) = [argumentText args] := by
    rw [argumentText_eq]
    rfl
  obtain ⟨parts, hp⟩ : ∃ parts, s.scriptParts args = parts ++ [argumentText args] :=
    ⟨_, (List.append_assoc _ [_, _] [_]).symm⟩
  refine ⟨parts.filter (!·.isEmpty), argumentText args, ?_, sets_argumentText args⟩
  rw [script_lines h, hp, List.filter_append, ha, List.append_assoc, List.singleton_append]

end Session
end Tangle
