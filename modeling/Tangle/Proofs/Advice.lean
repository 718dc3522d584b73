import Tangle.Bindings
import Tangle.Proofs.Table
import Tangle.Proofs.Text.Join

/-! # Advice

Calls of advice, for any languages and one after the other, on the environments of a program. The latest call
stands outermost: a template takes the texts as lines around its body, a host hook has its output framed by
them. A call for any other language is refused and changes nothing, and no call on one environment reaches
another, be it a copy or not. -/
namespace Tangle

/-- A call of advice. -/
structure Advice where
  language : Text
  before : Text := []
  after : Text := []

namespace Advice

/-- The calls for a language. -/
def on (l : Text) (calls : List Advice) : List Advice := calls.filter (·.language = l)

/-- What stands before: the text of the latest call comes first. -/
def leading (calls : List Advice) : List Text := (calls.map (·.before)).reverse

/-- What stands behind: the text of the latest call comes last. -/
def trailing (calls : List Advice) : List Text := calls.map (·.after)

theorem leading_cons (a : Advice) (calls : List Advice) :
    leading (a :: calls) = leading calls ++ [a.before] := by
  simp [leading]

theorem trailing_cons (a : Advice) (calls : List Advice) :
    trailing (a :: calls) = a.after :: trailing calls := rfl

/-- A text between all these texts. -/
def around (calls : List Advice) (t : Text) : Text := (leading calls).flatten ++ t ++ (trailing calls).flatten

theorem around_cons (a : Advice) (calls : List Advice) (t : Text) :
    around (a :: calls) t = around calls (a.before ++ t ++ a.after) := by
  simp [around, leading_cons, trailing_cons, List.append_assoc]

/-- A value between the texts of the calls. Without a call it stays what it is, even if it is no text. -/
def frame (calls : List Advice) (v : HookValue) : HookValue :=
  if calls = [] then v else .text (around calls v.shown)

theorem frame_of_ne_nil {calls : List Advice} (h : calls ≠ []) (v : HookValue) :
    frame calls v = .text (around calls v.shown) := if_neg h

theorem frame_text (calls : List Advice) (t : Text) : frame calls (.text t) = .text (around calls t) := by
  by_cases h : calls = []
  · subst h
    simp [frame, around, leading, trailing]
  · exact frame_of_ne_nil h _

theorem frame_cons (a : Advice) (calls : List Advice) (v : HookValue) :
    frame (a :: calls) v = frame calls (.text (a.before ++ v.shown ++ a.after)) := by
  rw [frame_of_ne_nil (List.cons_ne_nil a calls), frame_text, around_cons]

end Advice

open Advice

theorem Template.foldl_advised (t : Template) (calls : List Advice) :
    calls.foldl (fun t a => t.advised a.before a.after) t =
      ⟨Text.joinFilled (leading calls ++ t.body :: trailing calls), t.name⟩ := by
  induction calls generalizing t with
  | nil => simp [leading, trailing]
  | cons a calls ih =>
    have hbody : (t.advised a.before a.after).body = Text.joinFilled [a.before, t.body, a.after] := rfl
    have hname : (t.advised a.before a.after).name = t.name := rfl
    rw [List.foldl_cons, ih, hbody, hname, Text.joinFilled_joinFilled, leading_cons, trailing_cons]
    simp [List.append_assoc]

theorem HostHook.name_foldl_advised (h : HostHook) (calls : List Advice) :
    (calls.foldl (fun h a => h.advised a.before a.after) h).name = h.name := by
  induction calls generalizing h with
  | nil => rfl
  | cons a calls ih => exact ih _

theorem HostHook.run_advised (h : HostHook) (before after content : Text) (tag : Tag) :
    (h.advised before after).run content tag =
      (h.run content tag).map fun v => .text (before ++ v.shown ++ after) := by
  simp only [HostHook.advised]
  cases h.run content tag <;> rfl

theorem HostHook.run_foldl_advised (h : HostHook) (calls : List Advice) (content : Text) (tag : Tag) :
    (calls.foldl (fun h a => h.advised a.before a.after) h).run content tag =
      (h.run content tag).map (frame calls) := by
  induction calls generalizing h with
  | nil =>
    have hf : frame [] = id := funext fun v => if_pos rfl
    rw [List.foldl_nil, hf]
    cases h.run content tag <;> rfl
  | cons a calls ih =>
    rw [List.foldl_cons, ih, HostHook.run_advised]
    cases h.run content tag with
    | error e => rfl
    | ok v => exact congrArg Except.ok (frame_cons a calls v).symm

/-- The hook with its output framed, if it is a host hook. -/
def CompileHook.advised (before after : Text) : CompileHook → CompileHook
  | host h => host (h.advised before after)
  | h => h

theorem CompileHook.foldl_advised_host (h : HostHook) (calls : List Advice) :
    calls.foldl (fun c a => CompileHook.advised a.before a.after c) (.host h) =
      .host (calls.foldl (fun h a => h.advised a.before a.after) h) := by
  induction calls generalizing h with
  | nil => rfl
  | cons a calls ih => exact ih _

theorem CompileHook.foldl_advised_shell (f : Text) (calls : List Advice) :
    calls.foldl (fun c a => CompileHook.advised a.before a.after c) (.shell f) = .shell f := by
  induction calls with
  | nil => rfl
  | cons a calls ih => exact ih

namespace Bindings

def call (b : Bindings) (a : Advice) : Except AdviceFault Bindings := b.advise a.language a.before a.after

/-- The bindings that a call leaves. -/
def behind (b : Bindings) (a : Advice) : Bindings :=
  match b.call a with
  | .ok c => c
  | .error _ => b

/-- Advice can be given for the language: a template or a host hook is bound. -/
def Takes (b : Bindings) (l : Text) : Prop :=
  (∃ t, b.templates.get? l = some t) ∨ ∃ h, b.compilers.get? l = some (.host h)

/-- The language is unbound, or bound to a function of the shell only. -/
def Refuses (b : Bindings) (l : Text) : Prop :=
  b.templates.get? l = none ∧ (b.compilers.get? l = none ∨ ∃ f, b.compilers.get? l = some (.shell f))

section Call
variable {b : Bindings} {a : Advice}

theorem call_template {t : Template} (h : b.templates.get? a.language = some t) :
    b.call a = .ok { b with templates := b.templates.set a.language (t.advised a.before a.after) } := by
  simp only [call, advise, h]

theorem call_host {h : HostHook} (hn : b.templates.get? a.language = none)
    (hc : b.compilers.get? a.language = some (.host h)) :
    b.call a = .ok
      { b with compilers := b.compilers.set a.language (.host (h.advised a.before a.after)) } := by
  simp only [call, advise, hn, hc]

theorem call_other (hn : b.templates.get? a.language = none)
    (hc : ∀ h, b.compilers.get? a.language ≠ some (.host h)) : b.call a = .error ⟨a.language⟩ := by
  simp only [call, advise, hn]

theorem Takes.call (h : b.Takes a.language) : ∃ c, b.call a = .ok c := by
  cases ht : b.templates.get? a.language with
  | some t => exact ⟨_, call_template ht⟩
  | none =>
    rcases h with ⟨t, h⟩ | ⟨h, hc⟩
    · rw [ht] at h
      cases h
    · exact ⟨_, call_host ht hc⟩

theorem Refuses.call (h : b.Refuses a.language) : b.call a = .error ⟨a.language⟩ := by
  obtain ⟨hn, hc⟩ := h
  refine call_other hn fun h hh => ?_
  rcases hc with hc | ⟨f, hc⟩ <;> rw [hc] at hh <;> cases hh

/-- The three ways in which a call can end, and what each leaves. -/
theorem behind_cases (b : Bindings) (a : Advice) :
    (∃ t, b.templates.get? a.language = some t ∧
      b.behind a = { b with templates := b.templates.set a.language (t.advised a.before a.after) }) ∨
    (b.templates.get? a.language = none ∧ ∃ h, b.compilers.get? a.language = some (.host h) ∧
      b.behind a =
        { b with compilers := b.compilers.set a.language (.host (h.advised a.before a.after)) }) ∨
    (b.templates.get? a.language = none ∧ (∀ h, b.compilers.get? a.language ≠ some (.host h)) ∧
      b.behind a = b) := by
  cases ht : b.templates.get? a.language with
  | some t => exact .inl ⟨t, rfl, by rw [behind, call_template ht]⟩
  | none =>
    by_cases hc : ∃ h, b.compilers.get? a.language = some (.host h)
    · obtain ⟨h, hc⟩ := hc
      exact .inr (.inl ⟨rfl, h, hc, by rw [behind, call_host ht hc]⟩)
    · have hc' : ∀ h, b.compilers.get? a.language ≠ some (.host h) := fun h hh => hc ⟨h, hh⟩
      exact .inr (.inr ⟨rfl, hc', by rw [behind, call_other ht hc']⟩)

theorem behind_templates (b : Bindings) (a : Advice) (l : Text) : (b.behind a).templates.get? l =
    if a.language = l then (b.templates.get? l).map (·.advised a.before a.after)
    else b.templates.get? l := by
  by_cases hl : a.language = l
  · subst hl
    rw [if_pos rfl]
    rcases behind_cases b a with ⟨t, ht, h⟩ | ⟨hn, k, hk, h⟩ | ⟨hn, hk, h⟩
    · rw [h, Table.get?_set, if_pos rfl, ht, Option.map_some]
    · rw [h, hn, Option.map_none]
    · rw [h, hn, Option.map_none]
  · rw [if_neg hl]
    rcases behind_cases b a with ⟨t, ht, h⟩ | ⟨hn, k, hk, h⟩ | ⟨hn, hk, h⟩
    · rw [h, Table.get?_set, if_neg hl]
    · rw [h]
    · rw [h]

theorem behind_compilers (b : Bindings) (a : Advice) (l : Text) : (b.behind a).compilers.get? l =
    if a.language = l ∧ b.templates.get? l = none
    then (b.compilers.get? l).map (.advised a.before a.after) else b.compilers.get? l := by
  by_cases hl : a.language = l
  · subst hl
    rcases behind_cases b a with ⟨t, ht, h⟩ | ⟨hn, k, hk, h⟩ | ⟨hn, hk, h⟩
    · rw [h, if_neg (by simp [ht])]
    · rw [h, if_pos ⟨rfl, hn⟩, Table.get?_set, if_pos rfl, hk]
      rfl
    · rw [h, if_pos ⟨rfl, hn⟩]
      cases hc : b.compilers.get? a.language with
      | none => rfl
      | some c =>
        cases c with
        | host k => exact absurd hc (hk k)
        | evaluate | shell => rfl
  · rw [if_neg fun h => hl h.1]
    rcases behind_cases b a with ⟨t, ht, h⟩ | ⟨hn, k, hk, h⟩ | ⟨hn, hk, h⟩
    · rw [h]
    · rw [h, Table.get?_set, if_neg hl]
    · rw [h]

end Call

/-- A call keeps all but the two tables, and the names that are bound in these. -/
structure Reworks (b c : Bindings) : Prop where
  templates : c.templates.keys = b.templates.keys
  compilers : c.compilers.keys = b.compilers.keys
  rest : c = { b with templates := c.templates, compilers := c.compilers }

theorem Reworks.refl (b : Bindings) : b.Reworks b := ⟨rfl, rfl, rfl⟩

theorem Reworks.trans {b c d : Bindings} (h : b.Reworks c) (k : c.Reworks d) : b.Reworks d where
  templates := k.templates.trans h.templates
  compilers := k.compilers.trans h.compilers
  rest := by rw [k.rest, h.rest]

theorem behind_reworks (b : Bindings) (a : Advice) : b.Reworks (b.behind a) := by
  rcases behind_cases b a with ⟨t, ht, h⟩ | ⟨-, k, hk, h⟩ | ⟨-, -, h⟩
  · rw [h]
    exact ⟨Table.keys_set_of_bound ht _, rfl, rfl⟩
  · rw [h]
    exact ⟨rfl, Table.keys_set_of_bound hk _, rfl⟩
  · rw [h]
    exact .refl b

section Calls
variable (b : Bindings) (calls : List Advice) (l : Text)

theorem foldl_templates : (calls.foldl behind b).templates.get? l =
    (b.templates.get? l).map fun t => (on l calls).foldl (fun t a => t.advised a.before a.after) t := by
  induction calls generalizing b with
  | nil => simp [on]
  | cons a calls ih =>
    rw [List.foldl_cons, ih, behind_templates]
    by_cases hl : a.language = l
    · simp [on, hl, Function.comp_def]
    · simp [on, hl]

theorem foldl_compilers : (calls.foldl behind b).compilers.get? l =
    if b.templates.get? l = none
    then (b.compilers.get? l).map fun c => (on l calls).foldl (fun c a => c.advised a.before a.after) c
    else b.compilers.get? l := by
  induction calls generalizing b with
  | nil => simp [on]
  | cons a calls ih =>
    have hn : (b.behind a).templates.get? l = none ↔ b.templates.get? l = none := by
      rw [behind_templates]
      split <;> simp
    rw [List.foldl_cons, ih, behind_compilers]
    by_cases ht : b.templates.get? l = none
    · rw [if_pos (hn.mpr ht), if_pos ht]
      by_cases hl : a.language = l
      · simp [on, hl, ht, Function.comp_def]
      · simp [on, hl]
    · rw [if_neg (hn.not.mpr ht), if_neg ht, if_neg fun h => ht h.2]

theorem foldl_reworks : b.Reworks (calls.foldl behind b) := by
  induction calls generalizing b with
  | nil => exact .refl b
  | cons a calls ih => exact (behind_reworks b a).trans (ih _)

end Calls

/-- What calls of advice make of bindings. -/
structure Advised (b : Bindings) (calls : List Advice) (c : Bindings) : Prop extends b.Reworks c where
  template : ∀ l t, b.templates.get? l = some t →
    c.templates.get? l =
      some ⟨Text.joinFilled (leading (on l calls) ++ t.body :: trailing (on l calls)), t.name⟩ ∧
    c.compilers.get? l = b.compilers.get? l
  host : ∀ l h, b.templates.get? l = none → b.compilers.get? l = some (.host h) →
    c.templates.get? l = none ∧ ∃ k, c.compilers.get? l = some (.host k) ∧ k.name = h.name ∧
      ∀ content tag t, h.run content tag = .ok (.text t) →
        k.run content tag = .ok (.text (around (on l calls) t))
  other : ∀ l, b.Refuses l ∨ on l calls = [] →
    c.templates.get? l = b.templates.get? l ∧ c.compilers.get? l = b.compilers.get? l

theorem foldl_advised (b : Bindings) (calls : List Advice) : b.Advised calls (calls.foldl behind b) where
  toReworks := foldl_reworks b calls
  template l t ht := by
    constructor
    · rw [foldl_templates, ht, Option.map_some, Template.foldl_advised]
    · rw [foldl_compilers, if_neg (by simp [ht])]
  host l h hn hh := by
    refine ⟨by rw [foldl_templates, hn, Option.map_none], ?_⟩
    refine ⟨(on l calls).foldl (fun h a => h.advised a.before a.after) h, ?_, ?_, ?_⟩
    · rw [foldl_compilers, if_pos hn, hh, Option.map_some, CompileHook.foldl_advised_host]
    · exact h.name_foldl_advised _
    · intro content tag t ht
      rw [h.run_foldl_advised, ht]
      exact congrArg Except.ok (frame_text _ t)
  other l h := by
    rw [foldl_templates, foldl_compilers]
    rcases h with ⟨hn, hc⟩ | ho
    · rw [if_pos hn, hn]
      refine ⟨rfl, ?_⟩
      rcases hc with hc | ⟨f, hc⟩
      · rw [hc, Option.map_none]
      · rw [hc, Option.map_some, CompileHook.foldl_advised_shell]
    · simp [ho]

/-- Whether advice can be given for a language is not changed by advice. -/
theorem Advised.takes {b c : Bindings} {calls : List Advice} (h : b.Advised calls c) {l : Text}
    (ht : b.Takes l) : c.Takes l := by
  cases hl : b.templates.get? l with
  | some t => exact .inl ⟨_, (h.template l t hl).1⟩
  | none =>
    rcases ht with ⟨t, ht⟩ | ⟨k, hk⟩
    · rw [hl] at ht
      cases ht
    · obtain ⟨-, k', hk', -⟩ := h.host l k hl hk
      exact .inr ⟨k', hk'⟩

theorem Advised.refuses {b c : Bindings} {calls : List Advice} (h : b.Advised calls c) {l : Text}
    (hr : b.Refuses l) : c.Refuses l := by
  obtain ⟨ht, hc⟩ := h.other l (.inl hr)
  rw [Refuses, ht, hc]
  exact hr

end Bindings

/-- The environments of a program, in the order in which they were made. -/
abbrev Environments := List Bindings

namespace Environments

/-- What a program does with its environments. A copy is a new environment, behind all others. -/
inductive Move where
  | copy (i : Nat)
  | advise (i : Nat) (a : Advice)

def perform (es : Environments) : Move → Environments
  | .copy i => es ++ es[i]?.toList
  | .advise i a => es.modify i (·.behind a)

def run (es : Environments) (moves : List Move) : Environments := moves.foldl perform es

/-- The call of a move on an environment. -/
def Move.callOn? (i : Nat) : Move → Option Advice
  | copy _ => none
  | advise j a => if j = i then some a else none

def callsOn (i : Nat) (moves : List Move) : List Advice := moves.filterMap (Move.callOn? i)

theorem run_append (es : Environments) (moves more : List Move) :
    es.run (moves ++ more) = (es.run moves).run more := by
  rw [run, List.foldl_append]
  rfl

/-- A move leaves all environments but the one it is a call on, and that has what the call leaves. -/
theorem getElem?_perform {es : Environments} {i : Nat} {b : Bindings} (h : es[i]? = some b) (move : Move) :
    (es.perform move)[i]? = some ((move.callOn? i).toList.foldl Bindings.behind b) := by
  cases move with
  | copy j =>
    obtain ⟨hi, -⟩ := List.getElem?_eq_some_iff.mp h
    rw [perform, List.getElem?_append_left hi, h]
    rfl
  | advise j a =>
    rw [perform, List.getElem?_modify, h]
    by_cases hj : j = i
    · simp [Move.callOn?, hj]
    · simp [Move.callOn?, hj]

theorem getElem?_run {es : Environments} {i : Nat} {b : Bindings} (h : es[i]? = some b)
    (moves : List Move) : (es.run moves)[i]? = some ((callsOn i moves).foldl Bindings.behind b) := by
  induction moves generalizing es b with
  | nil => exact h
  | cons move moves ih =>
    have hm := ih (getElem?_perform h move)
    rw [run, List.foldl_cons]
    refine hm.trans ?_
    rw [← List.foldl_append, callsOn, callsOn, List.filterMap_cons]
    cases move.callOn? i <;> rfl

theorem perform_refused {es : Environments} {i : Nat} {b : Bindings} (h : es[i]? = some b) {a : Advice}
    (hr : b.Refuses a.language) : es.perform (.advise i a) = es := by
  have hb : b.behind a = b := by
    rw [Bindings.behind, hr.call]
  apply List.ext_getElem?
  intro j
  rw [perform, List.getElem?_modify]
  by_cases hj : i = j
  · subst hj
    simp [h, hb]
  · simp [hj]

/-- Whatever is copied and advised in a program, each environment has in the end what the calls on it have made
of it: a template has the texts around its body, a host hook frames its output, and all else is as it was. A
call is refused exactly for a language that is unbound, or bound to a function of the shell only, and then
changes nothing. A copy has what its original had, and goes on with the calls on itself. -/
theorem advice_composes {es : Environments} {i : Nat} {b : Bindings} (h : es[i]? = some b)
    (moves : List Move) :
    ∃ c, (es.run moves)[i]? = some c ∧ b.Advised (callsOn i moves) c ∧
      (∀ a, b.Takes a.language →
        ∃ d, c.call a = .ok d ∧ (es.run (moves ++ [.advise i a]))[i]? = some d) ∧
      (∀ a, b.Refuses a.language →
        c.call a = .error ⟨a.language⟩ ∧ es.run (moves ++ [.advise i a]) = es.run moves) ∧
      ∀ more, ∃ d, (es.run (moves ++ .copy i :: more))[(es.run moves).length]? = some d ∧
        c.Advised (callsOn (es.run moves).length more) d := by
  have hc := getElem?_run h moves
  have ha := Bindings.foldl_advised b (callsOn i moves)
  generalize (callsOn i moves).foldl Bindings.behind b = c at hc ha
  refine ⟨c, hc, ha, ?_, ?_, ?_⟩
  · intro a ht
    obtain ⟨d, hd⟩ := (ha.takes ht).call
    have hb : c.behind a = d := by
      rw [Bindings.behind, hd]
    have hn := getElem?_perform hc (.advise i a)
    refine ⟨d, hd, ?_⟩
    rw [run_append, run, List.foldl_cons, List.foldl_nil, hn]
    simp [Move.callOn?, hb]
  · intro a hr
    have hr := ha.refuses hr
    refine ⟨hr.call, ?_⟩
    rw [run_append, run, List.foldl_cons, List.foldl_nil, perform_refused hc hr]
  · intro more
    have hn : ((es.run moves).perform (.copy i))[(es.run moves).length]? = some c := by
      rw [perform, hc]
      exact List.getElem?_concat_length
    refine ⟨_, ?_, Bindings.foldl_advised c _⟩
    rw [run_append, run, List.foldl_cons]
    exact getElem?_run hn more

/-- A template without a body, and a host hook that hands back the content. -/
def advisable : Bindings where
  templates := Table.empty.set "awk" ⟨[], "caller"⟩
  compilers := Table.empty.set "up" (.host ⟨"upper", fun content _ => .ok (.text content)⟩)

/-- What follows a first call, and a copy. -/
def laterMoves : List Move :=
  [.advise 0 ⟨"up", "<", ">"⟩, .advise 0 ⟨"awk", [], "out"⟩, .advise 0 ⟨"up", "[", "]"⟩]

/-- Empty texts leave no line behind, and the copy has the first call only. -/
theorem advice_composes_mixed : ∃ c d : Bindings,
    (run [advisable] (.advise 0 ⟨"awk", "in", []⟩ :: .copy 0 :: laterMoves))[0]? = some c ∧
    (run [advisable] (.advise 0 ⟨"awk", "in", []⟩ :: .copy 0 :: laterMoves))[1]? = some d ∧
    c.templates.get? "awk" = some ⟨"in\nout", "caller"⟩ ∧ d.templates.get? "awk" = some ⟨"in", "caller"⟩ ∧
    (∃ k, c.compilers.get? "up" = some (.host k) ∧ k.run "x" ⟨"up", .plain []⟩ = .ok (.text "[<x>]")) ∧
    c.call ⟨"sh", "<", ">"⟩ = .error ⟨"sh"⟩ := by
  have hb : ([advisable] : Environments)[0]? = some advisable := rfl
  obtain ⟨c, hc, ha, -, hr, -⟩ :=
    advice_composes hb (.advise 0 ⟨"awk", "in", []⟩ :: .copy 0 :: laterMoves)
  obtain ⟨e, -, he, -, -, hcopy⟩ := advice_composes hb [.advise 0 ⟨"awk", "in", []⟩]
  obtain ⟨d, hd, had⟩ := hcopy laterMoves
  obtain ⟨-, k, hk, -, hrun⟩ := ha.host "up" _ rfl rfl
  refine ⟨c, d, hc, hd, (ha.template "awk" _ rfl).1, ?_, ⟨k, hk, hrun "x" _ "x" rfl⟩, ?_⟩
  · exact (had.template "awk" _ (he.template "awk" _ rfl).1).1
  · exact (hr ⟨"sh", "<", ">"⟩ ⟨rfl, .inl rfl⟩).1

end Environments
end Tangle
