import Tangle.Proofs.Pass.Stage
import Tangle.Proofs.Session.Script

/-! # Positional arguments

Compile-time code finds the content of its block and the language in its positional parameters, byte for byte. The
script sets them on the line before it runs the code. -/
namespace Tangle.Pass
variable {σ : Type}

/-- For a block, the shell is called once, with a script that sets the positional parameters and runs the code, if
the files of the run can be written. If there is no such script, the block fails and the shell is not called. -/
def HandsOver (m : Bench σ) (b : Block) (code : Text) (args : List Text) : Prop :=
  let s := m.session.nextRun
  (∃ before line, Session.Sets line args ∧
    let script := Text.unlines (before ++ line :: Session.scriptTail (Quoting.quote s.codeFile))
    let i := s.invocation script code
    s.script s.codeFile args = .ok script ∧ ∀ (shell : Shell σ) (w₁ w₂ : σ), m.session.enter shell m.world = (.ok (), s, w₁) →
      s.supply shell script code w₁ = (.ok (), w₂) → i.check = .ok () →
      (Fragment.ofBlock shell b m).2.world = (shell.start w₂ i).2) ∨
  s.script s.codeFile args = .error .nul ∧ ∀ (shell : Shell σ) (w₁ : σ),
    m.session.enter shell m.world = (.ok (), s, w₁) →
    (Fragment.ofBlock shell b m).1 =
      .error (.hook ⟨(Tag.ofText b.rawTag).language, b.line, none, QuoteFault.nul.message⟩) ∧
    (Fragment.ofBlock shell b m).2.world = w₁

theorem handsOver_of_actionOf {m : Bench σ} {b : Block} {code : Text} {args : List Text} {caught : Bool}
    (h : Fragment.actionOf m.session b = .run code args caught) : HandsOver m b code args := by
  cases hs : m.session.nextRun.script m.session.nextRun.codeFile args with
  | error e =>
    cases e
    refine .inr ⟨hs, fun shell w₁ he => ?_⟩
    obtain ⟨j, hj⟩ := Fragment.ofBlock_eq shell b m
    rw [hj, Fragment.outcome, h]
    simp only [Action.result, Action.bench, Action.world, (Session.Course.unquoted he hs).attempt_eq]
    exact ⟨rfl, trivial⟩
  | ok script =>
    obtain ⟨before, line, rfl, hl⟩ := Session.script_sets hs
    refine .inl ⟨before, line, hl, hs, fun shell w₁ w₂ he hw hc => ?_⟩
    have hr := Session.ready_of_supply he hs hw
    obtain ⟨j, hj⟩ := Fragment.ofBlock_eq shell b m
    rw [hj, h]
    simp only [Action.bench, Action.world]
    exact Session.attempt_world_of_answer (Session.answer?_of_ready hr hc)

/-- A script hands over its arguments unless a text that it quotes holds the null character. So a command and a hook
for a language get the content and the language, and the hook for what is left over gets the language first. -/
theorem positional_arguments (s : Session) (codeFile : Text) (args : List Text) :
    (s.script codeFile args = .error .nul ↔ (∃ a ∈ args, Symbol.nul ∈ a) ∨ (∃ p ∈ s.searchPath, Symbol.nul ∈ p) ∨
      Symbol.nul ∈ s.site.directory ∨ Symbol.nul ∈ codeFile) ∧
    (s.script codeFile args = .error .nul ∨ ∃ before line, Session.Sets line args ∧
      s.script codeFile args = .ok (Text.unlines (before ++ line :: Session.scriptTail (Quoting.quote codeFile)))) ∧
    ∀ {σ : Type} (m : Bench σ) (b : Block), let language := (Tag.ofText b.rawTag).language
      (∀ code, policyOf m b = .compileCommand code → HandsOver m b code [b.content, language]) ∧
      (∀ f, policyOf m b = .hook (.shell f) → HandsOver m b (f ++ " \"$@\"") [b.content, language]) ∧
      (∀ f, policyOf m b = .fallback → m.session.bindings.misc = some (.shell f) →
        HandsOver m b (f ++ " \"$@\"") [language, b.content]) := by
  refine ⟨Session.script_eq_error.trans Session.not_quotable_iff, ?_, ?_⟩
  · cases h : s.script codeFile args with
    | error e =>
      cases e
      exact .inl rfl
    | ok t =>
      obtain ⟨before, line, rfl, hl⟩ := Session.script_sets h
      exact .inr ⟨before, line, hl, rfl⟩
  · intro σ m b language
    refine ⟨fun code hp => ?_, fun f hp => ?_, fun f hp hm => ?_⟩
    · exact handsOver_of_actionOf (actionOf_eq hp)
    · exact handsOver_of_actionOf (actionOf_eq hp)
    · have ha : Fragment.actionOf m.session b = .run (f ++ " \"$@\"") [language, b.content] false := by
        rw [actionOf_eq hp, Fragment.action, hm]
      exact handsOver_of_actionOf ha

/-- A command gets an apostrophe, a newline and an undecoded byte. -/
theorem positional_arguments_command :
    let m : Bench Nat := ⟨⟨⟨"/tmp", "mdsh"⟩, {}, [], {}, {}, {}, [], [], [], 0, {}, false⟩, 0, {}, {}⟩
    let s := m.session.nextRun
    let b : Block := ⟨"x !cat", "x !cat", Text.decode [0x27, 0x0A, 0xFF], .fenced, 3, 1⟩
    let shell : Shell Nat := ⟨fun n => (.ok (), n), fun _ _ n => (.ok (), n), fun n _ => (.unstartable [], n + 1)⟩
    policyOf m b = .compileCommand "cat" ∧ (Fragment.ofBlock shell b m).2.world = 1 ∧
    ∃ before words, s.script s.codeFile [b.content, "x"] = .ok (Text.unlines
        (before ++ (("set --" : Text) ++ words) :: Session.scriptTail (Quoting.quote s.codeFile))) ∧
      Quoting.readWords (words.encode ++ [Quoting.newline]) = some ([[0x27, 0x0A, 0xFF], [0x78]], [Quoting.newline]) := by
  intro m s b shell
  have hp : policyOf m b = .compileCommand "cat" := rfl
  obtain ⟨herror, hscript, hblock⟩ := positional_arguments s s.codeFile [b.content, "x"]
  have hq : s.script s.codeFile [b.content, "x"] ≠ .error .nul := by
    rw [ne_eq, herror]
    decide
  have hcheck : (do FileError.checkText s.settings.shell; FileError.checkText s.scriptFile) = .ok () := by
    decide +kernel
  refine ⟨hp, ?_, ?_⟩
  · rcases (hblock m b).1 "cat" hp with ⟨before, line, -, hs, hworld⟩ | ⟨he, -⟩
    · have hbytes := (Session.isEncodable_script hs).mpr
        ⟨rfl, rfl, by decide, rfl, by decide, rfl, rfl, by decide, by decide⟩
      refine hworld shell 0 0 rfl ?_ hcheck
      rw [Session.supply, Shell.writeText_eq shell _ (by decide), Shell.writeText_eq shell _ hbytes]
    · exact absurd he hq
  · obtain ⟨before, _, ⟨-, words, rfl, hwords⟩, hs⟩ := hscript.resolve_left hq
    have he : [b.content, "x"].map Text.encode = [[0x27, 0x0A, 0xFF], [0x78]] := by decide
    refine ⟨before, words, hs, ?_⟩
    rw [(hwords []).2, he]

end Tangle.Pass
