import Tangle.Quoting.Heredoc
import Tangle.Shell.Reading.Command
import Tangle.Proofs.Text.Join
import Mathlib.Data.List.Dedup
import Mathlib.Data.List.Nodup
import Mathlib.Data.List.Perm.Subperm
import Mathlib.Order.Bounds.Defs

/-! # Finding a delimiter and reading here-documents back

The candidates for a delimiter differ from each other, so each test of the search but the last rules out a
line of its own, and the search ends at the first candidate that no line of the content equals. The shell
takes whole lines up to the first that equals the delimiter; what it takes from a statement is then the
content, and it stops at the end of the statement. -/
namespace Tangle

theorem Text.ofNat_injective {m n : Nat} (h : Text.ofNat m = Text.ofNat n) : m = n := by
  have hs : (toString m).toList = (toString n).toList :=
    List.map_injective_iff.mpr (fun _ _ h => Symbol.char.inj h) h
  have hd : Nat.toDigits 10 m = Nat.toDigits 10 n := by simpa [Nat.repr] using hs
  have hv := congrArg (Nat.ofDigitChars 10 · 0) hd
  simpa using hv

/-- The pieces of a text are what stands between its newlines. -/
theorem Text.join_pieces (t : Text) : Text.join "\n" (Text.pieces Symbol.newline t) = t ∧
    ∀ l ∈ Text.pieces Symbol.newline t, Symbol.newline ∉ l := by
  obtain ⟨ls, last, hp, ht, hn⟩ := Text.exists_pieces t
  refine ⟨?_, hp ▸ hn⟩
  have hj : Text.join "\n" (ls ++ [last]) ++ "\n" = t ++ "\n" := by
    rw [Text.join_newline (by simp), Text.unlines_append, ht]
    simp [Text.ofString, Symbol.newline]
  rw [hp]
  exact List.append_cancel_right hj

namespace Heredoc

/-! The search -/

theorem candidate_injective {base : Text} {m n : Nat} (h : candidate base m = candidate base n) :
    m = n := by
  cases m with
  | zero =>
    cases n with
    | zero => rfl
    | succ n =>
      have hl := congrArg List.length h
      simp [candidate, Text.ofString] at hl
  | succ m =>
    cases n with
    | zero =>
      have hl := congrArg List.length h
      simp [candidate, Text.ofString] at hl
    | succ n => exact Text.ofNat_injective (by simpa [candidate] using h)

/-- There cannot be more candidates among the lines than there are different lines. -/
theorem exists_candidate_not_mem (base : Text) (lines : List Text) :
    ∃ k ≤ lines.dedup.length, candidate base k ∉ lines := by
  by_contra h
  push Not at h
  have hn : ((List.range (lines.dedup.length + 1)).map (candidate base)).Nodup :=
    List.nodup_range.map fun _ _ h => candidate_injective h
  have hs : (List.range (lines.dedup.length + 1)).map (candidate base) ⊆ lines.dedup := by
    intro c hc
    obtain ⟨k, hk, rfl⟩ := List.mem_map.mp hc
    exact List.mem_dedup.mpr (h k (by have := List.mem_range.mp hk; omega))
  have hl := (hn.subperm hs).length_le
  simp only [List.length_map, List.length_range] at hl
  omega

/-- A search that goes on from the candidate with the counter `start` ends after so many tests, at the candidate
with the counter `found`. -/
inductive Searches (base : Text) (lines : List Text) : (start tests found : Nat) → Prop
  | free {n : Nat} (h : candidate base n ∉ lines) : Searches base lines n 1 n
  | taken {n tests found : Nat} (h : candidate base n ∈ lines) (hs : Searches base lines (n + 1) tests found) :
      Searches base lines n (tests + 1) found

section
variable {base : Text} {lines : List Text} {start tests found : Nat}

namespace Searches

/-- Every test but the last one moves the counter on by one. -/
theorem found_eq (h : Searches base lines start tests found) : found + 1 = start + tests := by
  induction h with
  | free => rfl
  | taken _ _ ih => omega

theorem found_not_mem (h : Searches base lines start tests found) : candidate base found ∉ lines := by
  induction h with
  | free h => exact h
  | taken _ _ ih => exact ih

theorem mem_of_lt (h : Searches base lines start tests found) {j : Nat} (hs : start ≤ j) (hf : j < found) :
    candidate base j ∈ lines := by
  induction h with
  | free => omega
  | taken hm _ ih =>
    rcases Nat.eq_or_lt_of_le hs with rfl | hs
    · exact hm
    · exact ih hs hf

/-- A limit of the tests does not show, if it lets the search come to its end. -/
theorem firstFree_eq (h : Searches base lines start tests found) {fuel : Nat} (hf : tests ≤ fuel + 1) :
    firstFree base lines start fuel = candidate base found := by
  induction h generalizing fuel with
  | free h =>
    cases fuel with
    | zero => rfl
    | succ fuel => rw [firstFree, if_neg h]
  | taken h hs ih =>
    cases fuel with
    -- A search that goes on makes one more test at least.
    | zero => cases hs <;> omega
    | succ fuel => rw [firstFree, if_pos h, ih (by omega)]

end Searches

/-- A search ends if there is a candidate for it to end at. -/
theorem exists_searches {k : Nat} (hs : start ≤ k) (hk : candidate base k ∉ lines) :
    ∃ tests found, Searches base lines start tests found ∧ found ≤ k := by
  -- The induction is on the distance to the candidate that is known to be none of the lines.
  induction hd : k - start generalizing start with
  | zero =>
    obtain rfl : start = k := by omega
    exact ⟨1, start, .free hk, Nat.le_refl start⟩
  | succ n ih =>
    by_cases hc : candidate base start ∈ lines
    · obtain ⟨tests, found, hf, hle⟩ := ih (show start + 1 ≤ k by omega) (by omega)
      exact ⟨tests + 1, found, .taken hc hf, hle⟩
    · exact ⟨1, start, .free hc, hs⟩

end

/-- The search among the lines of a content ends within one test more than there are different lines, and what it
finds is the delimiter. -/
theorem exists_search (content base : Text) :
    ∃ tests found, Searches base (Text.pieces Symbol.newline content) 0 tests found ∧
      tests ≤ (Text.pieces Symbol.newline content).dedup.length + 1 ∧
      delimiter content base = candidate base found := by
  obtain ⟨k, hk, hfree⟩ := exists_candidate_not_mem base (Text.pieces Symbol.newline content)
  obtain ⟨tests, found, hs, hf⟩ := exists_searches (Nat.zero_le k) hfree
  have ht := hs.found_eq
  have hd := (List.dedup_sublist (Text.pieces Symbol.newline content)).length_le
  exact ⟨tests, found, hs, by omega, hs.firstFree_eq (by omega)⟩

theorem delimiter_not_mem (content base : Text) :
    delimiter content base ∉ Text.pieces Symbol.newline content := by
  obtain ⟨tests, found, hs, -, he⟩ := exists_search content base
  exact he ▸ hs.found_not_mem

/-- For every content, the search ends within one test more than there are different pieces between its newlines,
under every limit that allows so many. It finds the base, if that is none of the pieces, and else the base with the
least counter from one on with which it is none. -/
theorem delimiter_search (content base : Text) :
    let lines := Text.pieces Symbol.newline content
    Text.join "\n" lines = content ∧ (∀ l ∈ lines, Symbol.newline ∉ l) ∧
    (∃ tests found, Searches base lines 0 tests found ∧ tests ≤ lines.dedup.length + 1 ∧
      delimiter content base = candidate base found ∧
      ∀ fuel, lines.dedup.length ≤ fuel → firstFree base lines 0 fuel = delimiter content base) ∧
    (base ∉ lines → delimiter content base = base) ∧
    (base ∈ lines → ∃ n, IsLeast {n | 1 ≤ n ∧ base ++ "_" ++ Text.ofNat n ∉ lines} n ∧
      delimiter content base = base ++ "_" ++ Text.ofNat n) := by
  obtain ⟨tests, found, hs, ht, he⟩ := exists_search content base
  obtain ⟨hj, hn⟩ := Text.join_pieces content
  refine ⟨hj, hn, ⟨tests, found, hs, ht, he, fun fuel hf => ?_⟩, fun hb => ?_, fun hb => ?_⟩
  · exact (hs.firstFree_eq (by omega)).trans he.symm
  · have h0 : found = 0 := by
      by_contra h
      exact hb (hs.mem_of_lt (Nat.le_refl 0) (Nat.pos_of_ne_zero h))
    rw [he, h0, candidate]
  · obtain _ | n := found
    · exact absurd hb hs.found_not_mem
    · refine ⟨n + 1, ⟨⟨by omega, hs.found_not_mem⟩, ?_⟩, he⟩
      rintro (_ | m) ⟨hm, hfree⟩
      · omega
      · by_contra hlt
        exact hfree (hs.mem_of_lt (Nat.zero_le _) (by omega : m + 1 < n + 1))

example : delimiter "b\nb_2\nb_1" "b" = "b_3" := by decide

/-! Delimiters that can be quoted -/

theorem isUsable_iff {d : Text} :
    isUsable d = true ↔ Symbol.char '\'' ∉ d ∧ Symbol.newline ∉ d := by
  simp only [isUsable, Bool.not_eq_true', List.any_eq_false, Bool.or_eq_true, Symbol.is_iff, not_or]
  constructor
  · intro h
    exact ⟨fun hq => (h _ hq).1 rfl, fun hn => (h _ hn).2 rfl⟩
  · rintro ⟨hq, hn⟩ s hs
    exact ⟨fun he => hq (he ▸ hs), fun he => hn (show Symbol.char '\n' ∈ d from he ▸ hs)⟩

/-- Digits and an underscore do no harm to a delimiter. -/
theorem isUsable_candidate {base : Text} (h : isUsable base = true) (n : Nat) :
    isUsable (candidate base n) = true := by
  cases n with
  | zero => exact h
  | succ n =>
    rw [isUsable_iff] at h ⊢
    have hd {c : Char} (hc : Symbol.char c ∈ Text.ofNat (n + 1)) : c.isDigit = true := by
      obtain ⟨d, hd, he⟩ := List.mem_map.mp hc
      cases he
      exact Nat.isDigit_of_mem_toDigits (b := 10) (by decide) (by decide) (by simpa [Nat.repr] using hd)
    simp only [candidate, List.mem_append, not_or]
    exact ⟨⟨⟨h.1, by decide⟩, fun hc => absurd (hd hc) (by decide)⟩,
      ⟨⟨h.2, by decide⟩, fun hc => absurd (hd hc) (by decide)⟩⟩

theorem isUsable_delimiter {base : Text} (h : isUsable base = true) (content : Text) :
    isUsable (delimiter content base) = true := by
  obtain ⟨-, found, -, -, he⟩ := exists_search content base
  exact he ▸ isUsable_candidate h found

/-! Delimiters that have bytes -/

theorem isEncodable_candidate {base : Text} (h : base.isEncodable = true) (n : Nat) :
    (candidate base n).isEncodable = true := by
  cases n with
  | zero => exact h
  | succ n => simp [candidate, h, Text.ofNat]

theorem isEncodable_delimiter {base : Text} (h : base.isEncodable = true) (content : Text) :
    (delimiter content base).isEncodable = true := by
  obtain ⟨-, found, -, -, he⟩ := exists_search content base
  exact he ▸ isEncodable_candidate h found

theorem isEncodable_statement {head content d text : Text} (hh : head.isEncodable = true)
    (hc : content.isEncodable = true) (hd : d.isEncodable = true) (h : statement head content d = .ok text) :
    text.isEncodable = true := by
  have ht : content.terminated.isEncodable = true := by
    rw [Text.terminated]
    split
    · exact hc
    · rw [Text.isEncodable_append, hc]
      rfl
  rw [statement] at h
  split at h
  · cases h
    simp [hh, hd, ht]
  · cases h

/-! Reading -/

/-- The delimiter between apostrophes, and what stands behind its line. -/
def opened (t : Text) : Option (Text × Text) :=
  match t.after? " <<'" with
  | none => none
  | some t => (Text.after? (t.dropWhile (!·.is '\'')) "'\n").map (t.takeWhile (!·.is '\''), ·)

/-- The document with a quoted delimiter that the shell finds in a text, and what it leaves. -/
def document (delimiter t : Text) : Option (Text × Text) :=
  match Shell.Read.documentLines ⟨0, delimiter, true, false, 1⟩ (t.length + 1) t with
  | (body, some rest) => some (body, rest)
  | (_, none) => none

/-- The content that the shell feeds to `head`, and what it leaves of a text that begins with `head`
and a here-document. -/
def read (head t : Text) : Option (Text × Text) := do
  let (delimiter, t) ← opened (← t.after? head)
  document delimiter t

/-- The contents of statements that follow each other. -/
def readAll : (heads : List Text) → Text → Option (List Text × Text)
  | [], t => some ([], t)
  | head :: heads, t => do
    let (content, t) ← read head t
    let (contents, t) ← readAll heads t
    return (content :: contents, t)

theorem takeWhile_line {l : Text} (h : Symbol.newline ∉ l) (t : Text) :
    (l ++ Symbol.newline :: t).takeWhile (· ≠ Symbol.newline) = l := by
  have hp : ∀ s ∈ l, (decide (s ≠ Symbol.newline)) = true := by
    intro s hs
    simpa using fun he : s = Symbol.newline => h (he ▸ hs)
  rw [List.takeWhile_append_of_pos hp]
  simp

/-- One line of a here-document is read. -/
theorem documentLines_line (d : Shell.Awaited) (hd : d.stripsTabs = false) (n : Nat) {l : Text}
    (hl : Symbol.newline ∉ l) (t : Text) :
    Shell.Read.documentLines d (n + 1) (l ++ Symbol.newline :: t) =
      if l = d.delimiter then ([], some t)
      else (l ++ Symbol.newline :: (Shell.Read.documentLines d n t).1,
        (Shell.Read.documentLines d n t).2) := by
  have ht : (l ++ Symbol.newline :: t).drop (l.length + 1) = t := by simp
  cases hs : l ++ Symbol.newline :: t with
  | nil => simp at hs
  | cons s u =>
    rw [Shell.Read.documentLines, ← hs, takeWhile_line hl, ht]
    · simp [hd]
    · simp

theorem documentLines_unlines (d : Shell.Awaited) (hd : d.stripsTabs = false)
    (hn : Symbol.newline ∉ d.delimiter) (ls : List Text)
    (hl : ∀ l ∈ ls, l ≠ d.delimiter ∧ Symbol.newline ∉ l) (t : Text) (n : Nat) (h : ls.length < n) :
    Shell.Read.documentLines d n (Text.unlines ls ++ d.delimiter ++ Symbol.newline :: t) =
      (Text.unlines ls, some t) := by
  induction ls generalizing n with
  | nil =>
    obtain ⟨n, rfl⟩ := Nat.exists_eq_add_one_of_ne_zero (Nat.ne_of_gt h)
    simp [documentLines_line d hd n hn]
  | cons l ls ih =>
    obtain ⟨n, rfl⟩ := Nat.exists_eq_add_one_of_ne_zero (Nat.ne_of_gt (Nat.zero_lt_of_lt h))
    have hll := hl l (by simp)
    have hr := ih (fun m hm => hl m (by simp [hm])) n (by simp at h; omega)
    simp only [Text.unlines_cons, List.append_assoc, List.cons_append] at hr ⊢
    rw [documentLines_line d hd n hll.2, if_neg hll.1, hr]

theorem opened_line {d : Text} (h : Symbol.char '\'' ∉ d) (t : Text) :
    opened (" <<'" ++ d ++ "'\n" ++ t) = some (d, t) := by
  have hp : ∀ s ∈ d, (!s.is '\'') = true := by
    intro s hs
    rw [Bool.not_eq_true', Bool.eq_false_iff, ne_eq, Symbol.is_iff]
    exact fun he => h (he ▸ hs)
  have hopen : Text.after? (" <<'" ++ d ++ "'\n" ++ t) " <<'" = some (d ++ ("'\n" ++ t)) := by
    rw [Text.after?_eq_some_iff]
    simp
  have hclose : Text.after? ("'\n" ++ t) "'\n" = some t := Text.after?_eq_some_iff.mpr rfl
  have htake : (d ++ ("'\n" ++ t)).takeWhile (!·.is '\'') = d := by
    rw [List.takeWhile_append_of_pos hp]
    simp [Text.ofString, Symbol.is]
  have hdrop : (d ++ ("'\n" ++ t)).dropWhile (!·.is '\'') = "'\n" ++ t := by
    rw [List.dropWhile_append_of_pos hp]
    simp [Text.ofString, Symbol.is]
  rw [opened, hopen]
  simp only [htake, hdrop, hclose, Option.map_some]

theorem document_unlines {d : Text} (hd : Symbol.newline ∉ d) {ls : List Text}
    (hl : ∀ l ∈ ls, l ≠ d ∧ Symbol.newline ∉ l) (t : Text) :
    document d (Text.unlines ls ++ d ++ Symbol.newline :: t) = some (Text.unlines ls, t) := by
  have hf := Text.length_le_unlines ls
  rw [document, documentLines_unlines ⟨0, d, true, false, 1⟩ rfl hd ls hl t _
    (by simp only [List.length_append]; omega)]

/-- A statement that feeds a content to a head. -/
def Feeds (text head content : Text) : Prop :=
  ∀ rest, read head (text ++ rest) = some (content.terminated, rest)

theorem statement_feeds {base : Text} (h : isUsable base = true) (head content : Text) :
    ∃ text, statement head content (delimiter content base) = .ok text ∧ Feeds text head content := by
  have hu := isUsable_delimiter h content
  obtain ⟨hq, hn⟩ := isUsable_iff.mp hu
  obtain ⟨ls, ht, hl⟩ := content.terminated_eq_unlines
  refine ⟨_, by rw [statement, if_pos hu], fun rest => ?_⟩
  have hne : ∀ l ∈ ls, l ≠ delimiter content base ∧ Symbol.newline ∉ l := fun l hm =>
    ⟨fun he => delimiter_not_mem content base (he ▸ (hl l hm).1), (hl l hm).2⟩
  have htext : head ++ " <<'" ++ delimiter content base ++ "'\n" ++ content.terminated ++
      delimiter content base ++ "\n" ++ rest = head ++ (" <<'" ++ delimiter content base ++ "'\n" ++
        (Text.unlines ls ++ delimiter content base ++ Symbol.newline :: rest)) := by
    rw [ht, show ("\n" : Text) = [Symbol.newline] from rfl]
    simp only [List.append_assoc, List.cons_append, List.nil_append]
  have hhead : ∀ t, Text.after? (head ++ t) head = some t := fun t => Text.after?_eq_some_iff.mpr rfl
  rw [htext, read, hhead]
  simp only [Option.bind_eq_bind, Option.bind_some, opened_line hq, document_unlines hn hne, ht]

end Heredoc
end Tangle
