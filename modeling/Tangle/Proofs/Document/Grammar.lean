import Tangle.Document.Block
import Tangle.Proofs.Text.Run

/-! # The block grammar

The pieces that the lines of a document are made of: prose, maximal runs of indented lines, and fences,
of which only the last may lack its closing line. Every list of lines has exactly one decomposition. -/
namespace Tangle.Document

/-- The line opens a fence: once trimmed, it is the mark, as often as the width says, and the rest. -/
structure Opens (o : Opening) (line : Text) : Prop where
  mark : o.mark = .char '\x60' ∨ o.mark = .char '~'
  width : 3 ≤ o.width
  trimmed : line.trimLine = o.run ++ o.rest
  maximal : o.rest.head? ≠ some o.mark

/-- The line closes a fence: once trimmed, it is the mark alone, at least as often as it opened. -/
def Closes (o : Opening) (line : Text) : Prop :=
  ∃ n, o.width ≤ n ∧ line.trimLine = List.replicate n o.mark

def Indented (line : Text) : Prop :=
  (∃ s ∈ line, s.isLineBlank = false) ∧ (Text.ofString "    " <+: line ∨ Text.ofString "\t" <+: line)

theorem closes_iff {o : Opening} {line : Text} : closes o.mark o.width line = true ↔ Closes o line := by
  simp only [closes, Bool.and_eq_true, decide_eq_true_eq, List.all_eq_true, Closes]
  constructor
  · rintro ⟨hw, hm⟩
    exact ⟨_, hw, List.eq_replicate_of_mem hm⟩
  · rintro ⟨n, hw, ht⟩
    rw [ht]
    exact ⟨by simpa using hw, fun s hs => List.eq_of_mem_replicate hs⟩

theorem isIndented_iff {line : Text} : isIndented line = true ↔ Indented line := by
  have ht : line.trimLine.isEmpty = false ↔ ∃ s ∈ line, s.isLineBlank = false := by
    rw [List.isEmpty_eq_false_iff, ne_eq, Text.trimLine, Text.trimBy_eq_nil_iff]
    simp
  simp [isIndented, Indented, Text.startsWith, ht, and_comm]

theorem takeWhile_mark (c : Symbol) (t : Text) :
    t.takeWhile (· = c) = List.replicate (t.takeWhile (· = c)).length c :=
  List.eq_replicate_of_mem fun s hs => by simpa using List.mem_takeWhile_imp hs

theorem head?_dropWhile_mark (c : Symbol) (t : Text) : (t.dropWhile (· = c)).head? ≠ some c := by
  intro h
  have hn := List.head?_dropWhile_not (fun d => decide (d = c)) t
  simp [h] at hn

theorem ofTrimmed?_eq_some_iff {t : Text} {o : Opening} : Opening.ofTrimmed? t = some o ↔
    (o.mark = .char '\x60' ∨ o.mark = .char '~') ∧ 3 ≤ o.width ∧ t = o.run ++ o.rest ∧
      o.rest.head? ≠ some o.mark := by
  obtain ⟨m, w, r⟩ := o
  simp only [Opening.run]
  cases t with
  | nil =>
    simp only [Opening.ofTrimmed?, reduceCtorEq, false_iff]
    rintro ⟨-, hw, ht, -⟩
    have hl := congrArg List.length ht
    simp only [List.length_nil, List.length_append, List.length_replicate] at hl
    omega
  | cons c t =>
    simp only [Opening.ofTrimmed?, Bool.or_eq_true, Symbol.is_iff]
    constructor
    · intro h
      split at h
      · next hc =>
        split at h
        · next hw =>
          cases h
          refine ⟨hc, by omega, ?_, head?_dropWhile_mark _ t⟩
          rw [List.replicate_succ, ← takeWhile_mark, List.cons_append, List.takeWhile_append_dropWhile]
        · cases h
      · cases h
    · rintro ⟨hc, hw, ht, hx⟩
      obtain ⟨k, rfl⟩ : ∃ k, w = k + 1 := ⟨w - 1, by omega⟩
      rw [List.replicate_succ, List.cons_append] at ht
      obtain ⟨rfl, ht⟩ := List.cons.inj ht
      have hd : t.takeWhile (· = c) ++ t.dropWhile (· = c) = List.replicate k c ++ r := by
        rw [List.takeWhile_append_dropWhile, ht]
      obtain ⟨hk, hr⟩ := run_unique (P := (· = c)) hd
        (fun s hs => by simpa using (List.mem_takeWhile_imp (p := (· = c)) hs))
        (fun s hs => List.eq_of_mem_replicate hs)
        (fun s hs he => head?_dropWhile_mark c t (he ▸ hs)) (fun s hs he => hx (he ▸ hs))
      rw [if_pos hc, hk, hr, List.length_replicate, if_pos (by omega)]

theorem ofLine?_eq_some_iff {line : Text} {o : Opening} :
    Opening.ofLine? line = some o ↔ Opens o line := by
  rw [Opening.ofLine?, ofTrimmed?_eq_some_iff]
  exact ⟨fun ⟨hm, hw, ht, hx⟩ => ⟨hm, hw, ht, hx⟩, fun h => ⟨h.mark, h.width, h.trimmed, h.maximal⟩⟩

theorem ofLine?_eq_none_iff {line : Text} : Opening.ofLine? line = none ↔ ∀ o, ¬Opens o line := by
  simp only [Option.eq_none_iff_forall_ne_some, ne_eq, ofLine?_eq_some_iff]

theorem Opens.unique {o o' : Opening} {line : Text} (h : Opens o line) (h' : Opens o' line) :
    o = o' := by
  have he := (ofLine?_eq_some_iff.mpr h).symm.trans (ofLine?_eq_some_iff.mpr h')
  exact Option.some.inj he

/-- The line is part of an indented block, if it stands outside of any fence. -/
def InRun (line : Text) : Prop := Indented line ∧ ∀ o, ¬Opens o line

/-- A fence has no last line if it is never closed. -/
inductive Piece where
  | prose (line : Text)
  | indent (run : List Text)
  | fence (first : Text) (opening : Opening) (body : List Text) (last : Option Text)

namespace Piece

def lines : Piece → List Text
  | prose line => [line]
  | indent run => run
  | fence first _ body last => first :: (body ++ last.toList)

def WellFormed : Piece → Prop
  | prose line => ¬Indented line ∧ ∀ o, ¬Opens o line
  | indent run => run ≠ [] ∧ ∀ line ∈ run, InRun line
  | fence first o body last =>
    Opens o first ∧ (∀ line ∈ body, ¬Closes o line) ∧ ∀ line ∈ last, Closes o line

/-- What can stand behind a piece: a run is maximal, and an unclosed fence is the last piece. -/
def Precedes : Piece → List Text → Prop
  | prose _, _ => True
  | indent _, rest => ∀ line ∈ rest.head?, ¬InRun line
  | fence _ _ _ last, rest => last = none → rest = []

theorem lines_ne_nil {p : Piece} (h : p.WellFormed) : p.lines ≠ [] := by
  cases p with
  | prose l => exact List.cons_ne_nil _ _
  | indent run => exact h.1
  | fence f o body last => exact List.cons_ne_nil _ _

theorem lines_fence (f : Text) (o : Opening) (body : List Text) (last : Option Text) (r : List Text) :
    (fence f o body last).lines ++ r = f :: (body ++ (last.toList ++ r)) := by
  simp [lines]

theorem inRun_of_wellFormed {run t t' : List Text} {l : Text} (h : (indent run).WellFormed)
    (he : run ++ t = l :: t') : InRun l := by
  obtain ⟨hne, hrun⟩ := h
  cases run with
  | nil => exact absurd rfl hne
  | cons l' run =>
    obtain ⟨rfl, -⟩ := List.cons.inj he
    exact hrun l' (by simp)

theorem closes_of_precedes {f : Text} {o : Opening} {body r : List Text} {last : Option Text}
    (h : (fence f o body last).WellFormed) (hr : (fence f o body last).Precedes r) :
    ∀ l ∈ (last.toList ++ r).head?, Closes o l := by
  intro l hl
  cases last with
  | none =>
    rw [hr rfl] at hl
    cases hl
  | some l' =>
    obtain rfl : l' = l := by simpa using hl
    exact h.2.2 l' rfl

end Piece

/-- The lines are those of the pieces, one behind the other. -/
inductive Decomposes : List Text → List Piece → Prop
  | nil : Decomposes [] []
  | cons {p : Piece} {ps : List Piece} {rest : List Text} (hp : p.WellFormed) (hr : p.Precedes rest)
      (h : Decomposes rest ps) : Decomposes (p.lines ++ rest) (p :: ps)

theorem Decomposes.flatMap_lines {ls : List Text} {ps : List Piece} (h : Decomposes ls ps) :
    ps.flatMap Piece.lines = ls := by
  induction h with
  | nil => rfl
  | cons _ _ _ ih => rw [List.flatMap_cons, ih]

theorem Decomposes.wellFormed {ls : List Text} {ps : List Piece} (h : Decomposes ls ps) :
    ∀ p ∈ ps, p.WellFormed := by
  induction h with
  | nil => nofun
  | cons hw _ _ ih => exact List.forall_mem_cons.mpr ⟨hw, ih⟩

theorem Piece.unique {p q : Piece} {r s : List Text} (h : p.lines ++ r = q.lines ++ s)
    (hp : p.WellFormed) (hq : q.WellFormed) (hr : p.Precedes r) (hs : q.Precedes s) :
    p = q ∧ r = s := by
  cases p with
  | prose l =>
    cases q with
    | prose l' =>
      obtain ⟨rfl, rfl⟩ := List.cons.inj h
      exact ⟨rfl, rfl⟩
    | indent run => exact absurd (inRun_of_wellFormed hq h.symm).1 hp.1
    | fence f o body last =>
      obtain ⟨rfl, -⟩ := List.cons.inj h
      exact absurd hq.1 (hp.2 o)
  | indent run =>
    cases q with
    | prose l => exact absurd (inRun_of_wellFormed hp h).1 hq.1
    | indent run' =>
      obtain ⟨rfl, rfl⟩ := run_unique h hp.2 hq.2 hr hs
      exact ⟨rfl, rfl⟩
    | fence f o body last => exact absurd hq.1 ((inRun_of_wellFormed hp h).2 o)
  | fence f o body last =>
    cases q with
    | prose l =>
      obtain ⟨rfl, -⟩ := List.cons.inj h
      exact absurd hp.1 (hq.2 o)
    | indent run => exact absurd hp.1 ((inRun_of_wellFormed hq h.symm).2 o)
    | fence f' o' body' last' =>
      rw [lines_fence, lines_fence] at h
      obtain ⟨rfl, ht⟩ := List.cons.inj h
      obtain rfl := hp.1.unique hq.1
      obtain ⟨rfl, hl⟩ := run_unique ht hp.2.1 hq.2.1
        (fun l hl => not_not_intro (closes_of_precedes hp hr l hl))
        (fun l hl => not_not_intro (closes_of_precedes hq hs l hl))
      cases last with
      | none =>
        obtain rfl := hr rfl
        cases last' with
        | none => exact ⟨rfl, hl⟩
        | some l => cases hl
      | some l =>
        cases last' with
        | none =>
          obtain rfl := hs rfl
          cases hl
        | some l' =>
          obtain ⟨rfl, rfl⟩ := List.cons.inj hl
          exact ⟨rfl, rfl⟩

theorem exists_decomposes (ls : List Text) : ∃ ps, Decomposes ls ps := by
  induction hn : ls.length using Nat.strongRecOn generalizing ls with
  | ind n ih =>
  cases ls with
  | nil => exact ⟨[], .nil⟩
  | cons l ls =>
    by_cases ho : ∃ o, Opens o l
    · obtain ⟨o, ho⟩ := ho
      obtain ⟨body, rest, rfl, hb, hr⟩ := exists_run (fun l => ¬Closes o l) ls
      cases rest with
      | nil =>
        have hf : (Piece.fence l o body none).WellFormed := ⟨ho, hb, by simp⟩
        refine ⟨[.fence l o body none], ?_⟩
        simpa [Piece.lines] using Decomposes.cons hf (fun _ => rfl) .nil
      | cons last rest =>
        have hl : Closes o last := by simpa using hr
        obtain ⟨ps, hps⟩ := ih rest.length (by simp [← hn]; omega) rest rfl
        have hf : (Piece.fence l o body (some last)).WellFormed := ⟨ho, hb, by simpa using hl⟩
        refine ⟨.fence l o body (some last) :: ps, ?_⟩
        simpa [Piece.lines] using Decomposes.cons hf (by simp [Piece.Precedes]) hps
    have ho : ∀ o, ¬Opens o l := fun o h => ho ⟨o, h⟩
    by_cases hi : Indented l
    · obtain ⟨run, rest, he, hrun, hr⟩ := exists_run InRun (l :: ls)
      have hne : run ≠ [] := by
        rintro rfl
        exact hr l (by simp [← show l :: ls = rest from he]) ⟨hi, ho⟩
      have hlen : rest.length < n := by
        have hlen := congrArg List.length he
        have hpos := List.length_pos_iff.mpr hne
        rw [List.length_append] at hlen
        omega
      obtain ⟨ps, hps⟩ := ih rest.length hlen rest rfl
      exact ⟨.indent run :: ps, he ▸ .cons (p := .indent run) ⟨hne, hrun⟩ hr hps⟩
    · obtain ⟨ps, hps⟩ := ih ls.length (by simp [← hn]) ls rfl
      exact ⟨.prose l :: ps, .cons (p := .prose l) ⟨hi, ho⟩ trivial hps⟩

theorem Decomposes.unique {ls : List Text} {ps qs : List Piece} (hp : Decomposes ls ps)
    (hq : Decomposes ls qs) : ps = qs := by
  induction hp generalizing qs with
  | nil =>
    generalize hl : [] = ls at hq
    cases hq with
    | nil => rfl
    | cons hq => exact absurd (List.append_eq_nil_iff.mp hl.symm).1 (Piece.lines_ne_nil hq)
  | @cons p ps r hp hr _ ih =>
    generalize hl : p.lines ++ r = ls at hq
    cases hq with
    | nil => exact absurd (List.append_eq_nil_iff.mp hl).1 (Piece.lines_ne_nil hp)
    | cons hq hs h =>
      obtain ⟨rfl, rfl⟩ := Piece.unique hl hp hq hr hs
      rw [ih h]

end Tangle.Document
