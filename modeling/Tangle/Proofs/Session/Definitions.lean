import Tangle.Proofs.Session.Run
import Tangle.Proofs.Session.Script
import Tangle.Proofs.Table

/-! # The functions that a session script defines

Before it runs its code, the script of a session defines the caller's functions, and then those of the last
dump. So a function of the caller is defined in every run, even if a block has removed it. -/
namespace Tangle

namespace Session

/-- The dump that a step takes over. -/
def Step.dump? : Step → Option Dump
  | install _ => none
  | load d _ => if d.isComplete then some d else none

/-- The last dump that is taken over. -/
def lastDump? : List Step → Option Dump
  | [] => none
  | step :: steps => (lastDump? steps).or step.dump?

/-- The session goes on with the functions and the values of a dump. -/
structure Resumes (s : Session) (d : Dump) : Prop where
  functions : s.functions = d.table
  state : s.state = Text.decode d.held.values ++ "\n" ++ Text.join "\n" d.table.values

theorem perform_resumes {s s' : Session} {step : Step} (h : s.perform step = .ok s') {d : Dump}
    (hd : step.dump? = some d ∨ step.dump? = none ∧ s.Resumes d) : s'.Resumes d := by
  cases step with
  | install hooks =>
    cases h
    rcases hd with hd | ⟨-, hf, hs⟩
    · cases hd
    · exact ⟨by rw [install_eq]; exact hf, by rw [install_eq]; exact hs⟩
  | load e j =>
    rw [perform] at h
    rw [Step.dump?] at hd
    split at h
    · next r hl =>
      cases h
      rcases load_cases hl with ⟨-, hc, hs⟩ | ⟨-, hc, b, slots, hs⟩ <;> rw [hs]
      · rcases hd with hd | ⟨-, hd⟩
        · rw [hc] at hd
          cases hd
        · exact hd
      · rcases hd with hd | ⟨hd, -⟩ <;> rw [hc] at hd <;> cases hd
        exact ⟨rfl, rfl⟩
    · next hl =>
      cases h
      rcases hd with hd | ⟨-, hd⟩
      · rw [not_complete_of_load_error hl] at hd
        cases hd
      · exact hd
    · cases h

theorem run_resumes {s₀ s : Session} {steps : List Step} (h : steps.foldlM perform s₀ = .ok s) {d : Dump}
    (hd : lastDump? steps = some d ∨ lastDump? steps = none ∧ s₀.Resumes d) : s.Resumes d := by
  induction steps generalizing s₀ with
  | nil =>
    cases h
    rcases hd with hd | ⟨-, hd⟩
    · cases hd
    · exact hd
  | cons step steps ih =>
    rw [List.foldlM_cons] at h
    obtain ⟨s₁, hp, h⟩ := bind_eq_ok.mp h
    refine ih h ?_
    rw [lastDump?] at hd
    cases hl : lastDump? steps with
    | none =>
      rw [hl, Option.none_or] at hd
      exact .inr ⟨rfl, perform_resumes hp hd⟩
    | some e =>
      rcases hd with hd | ⟨hd, -⟩ <;> rw [hl] at hd
      · exact .inl hd
      · cases hd

theorem script_ok {s : Session} {codeFile t : Text} {args : List Text} (h : s.script codeFile args = .ok t) :
    ∃ before behind code, t = Text.join "\n" ((before ++ s.bindings.functions.values ++
      [s.bindings.prelude, s.state] ++ behind ++ scriptTail code).filter (!·.isEmpty)) ++ "\n" := by
  obtain ⟨-, rfl⟩ := script_eq_ok.mp h
  exact ⟨_, _, _, rfl⟩

/-- After any steps with a complete dump among them, the next script defines all functions of the caller,
and then those of the last such dump. A name that the dump lacks is defined as the caller defines it. -/
theorem script_redefines {site : Site} {settings : Settings} {path : List Text} {caller : Bindings}
    {s₀ : Session} (h : start site settings path caller = .ok s₀) (steps : List Step) {d : Dump}
    (hd : lastDump? steps = some d) :
    ∃ s, steps.foldlM perform s₀ = .ok s ∧ s.functions = d.table ∧
      (∀ codeFile args t, s.script codeFile args = .ok t → ∃ before behind code,
        t = Text.join "\n" ((before ++ caller.functions.values ++ [caller.prelude,
          Text.decode d.held.values ++ "\n" ++ Text.join "\n" d.table.values] ++ behind ++
          scriptTail code).filter (!·.isEmpty)) ++ "\n") ∧
      ∀ name, (caller.functions.setAll d.table.toList).get? name =
        (d.table.get? name).or (caller.functions.get? name) := by
  obtain ⟨s, hr, -, hf, -⟩ := bindings_follow h steps
  obtain ⟨hfunctions, hstate⟩ := run_resumes hr (.inl hd)
  refine ⟨s, hr, hfunctions, fun codeFile args t ht => ?_, Table.get?_setAll caller.functions d.table⟩
  rw [← hf.functions, ← hf.prelude, ← hstate]
  exact script_ok ht

/-- A caller with one hook function. -/
def hookedCaller : Bindings where
  functions := Table.empty.set "mdsh-lang-awk" "mdsh-lang-awk () \x7b gawk; \x7d"

/-- A dump without the hook function, and the function that is defined nevertheless. -/
theorem script_redefines_dumped : ∃ s₀ d s, start ⟨"/tmp", "mdsh"⟩ {} [] hookedCaller = .ok s₀ ∧
    lastDump? [.install builtinHooks, .load d {}] = some d ∧
    [Step.install builtinHooks, .load d {}].foldlM perform s₀ = .ok s ∧
    s.functions.get? "mdsh-lang-awk" = none ∧
    (hookedCaller.functions.setAll s.functions.toList).get? "mdsh-lang-awk" =
      some "mdsh-lang-awk () \x7b gawk; \x7d" := by
  have hs : ∃ s₀, start ⟨"/tmp", "mdsh"⟩ {} [] hookedCaller = .ok s₀ := exists_harvest fun name source h => by
    rw [hookedCaller, Table.get?_set] at h
    split at h
    · cases h
      exact ⟨_, rfl⟩
    · cases h
  obtain ⟨s₀, h₀⟩ := hs
  obtain ⟨s, hr, hf, -, hn⟩ :=
    script_redefines h₀ [.install builtinHooks, .load (.files [] [] []) {}] rfl
  refine ⟨s₀, _, s, h₀, rfl, hr, ?_, ?_⟩ <;> rw [hf]
  · rfl
  · exact hn "mdsh-lang-awk"

/-- A function that is gone from the table stands in the script of the next run. -/
theorem script_defines_unset :
    ((start ⟨"/tmp", "mdsh"⟩ {} [] hookedCaller).bind fun s₀ =>
      ([Step.install builtinHooks, .load (.files [] [] []) {}].foldlM perform s₀).map fun s =>
        (s.functions.get? "mdsh-lang-awk",
          (s.script s.codeFile []).toOption.map (Text.hasInside "mdsh-lang-awk () \x7b gawk; \x7d"))) =
    .ok (none, some true) := by
  decide +kernel

end Session
end Tangle
