import Tangle.Fragment
import Tangle.Embedding
import Tangle.Proofs.Quoting.Heredoc

/-! # Contents that reach their commands

Groups and embedded modules are fed by here-documents. Whatever the content, the shell gives it to the
command as it was, and goes on with the text behind the statement. -/
namespace Tangle.Heredoc

/-- A statement with the command that it feeds and the content. -/
structure Fed where
  text : Text
  head : Text
  content : Text

/-- The ways in which a statement comes to be written. -/
inductive Written : Fed → Prop
  | statement {base head content text : Text} (h : isUsable base = true)
      (hs : statement head content (delimiter content base) = .ok text) : Written ⟨text, head, content⟩
  | wrapper {base body content text : Text} (h : isUsable base = true)
      (hs : Fragment.wrapper base body content = .ok text) : Written ⟨text, Fragment.group body, content⟩
  | embedded {p : Path} {content text : Text} (hs : Embedding.statement p content = .ok text) :
      Written ⟨text, Embedding.sourceStatement, content⟩

theorem wrapper_feeds {base : Text} (h : isUsable base = true) (body content : Text) :
    ∃ text, Fragment.wrapper base body content = .ok text ∧ Feeds text (Fragment.group body) content :=
  statement_feeds h (Fragment.group body) content

/-- The label leaves out of a file name what a delimiter must not hold. -/
theorem isUsable_label (p : Path) :
    isUsable ("# --- EOF " ++ Embedding.label p ++ " ---") = true := by
  have hl (c : Char) (hc : Symbol.char c ∈ Embedding.label p) : c ≠ '\'' ∧ c ≠ '\n' := by
    have hp := (List.mem_filter.mp hc).2
    rw [Bool.and_eq_true, Bool.not_eq_true', Bool.not_eq_true'] at hp
    constructor
    · rintro rfl
      exact absurd hp.1 (by decide)
    · rintro rfl
      exact absurd hp.2 (by decide)
  rw [isUsable_iff]
  simp only [List.mem_append, not_or]
  exact ⟨⟨⟨by decide, fun h => (hl _ h).1 rfl⟩, by decide⟩,
    ⟨by decide, fun h => (hl _ h).2 rfl⟩, by decide⟩

theorem embedded_feeds (p : Path) (content : Text) :
    ∃ text, Embedding.statement p content = .ok text ∧ Feeds text Embedding.sourceStatement content := by
  obtain ⟨text, hs, hf⟩ := statement_feeds (isUsable_label p) Embedding.sourceStatement content
  exact ⟨text, by rw [Embedding.statement, hs]; rfl, hf⟩

theorem embed_eq_ok_iff {t : Tree} {cwd : Place} {name : Text} {searchPath : List Text} {text : Text} :
    Embedding.embed t cwd name searchPath = .ok text ↔
      ∃ p bytes, Embedding.find t cwd name searchPath = .ok p ∧ t.read cwd p = .ok bytes ∧
        Embedding.statement p (Text.decode bytes) = .ok text := by
  unfold Embedding.embed
  cases hf : Embedding.find t cwd name searchPath with
  | error e => simp [bind, Except.bind]
  | ok p => cases hr : t.read cwd p <;> simp [bind, Except.bind, hr]

theorem Written.feeds {s : Fed} (h : Written s) : Feeds s.text s.head s.content := by
  cases h with
  | statement h hs =>
    obtain ⟨text, he, hf⟩ := statement_feeds h _ _
    cases hs.symm.trans he
    exact hf
  | wrapper h hs =>
    obtain ⟨text, he, hf⟩ := wrapper_feeds h _ _
    cases hs.symm.trans he
    exact hf
  | embedded hs =>
    obtain ⟨text, he, hf⟩ := embedded_feeds _ _
    cases hs.symm.trans he
    exact hf

/-- Each statement is read to its end, so the next one is read from its start. -/
theorem readAll_flatMap {ss : List Fed} (h : ∀ s ∈ ss, Feeds s.text s.head s.content) (rest : Text) :
    readAll (ss.map (·.head)) (ss.flatMap (·.text) ++ rest) =
      some (ss.map (·.content.terminated), rest) := by
  induction ss with
  | nil => rfl
  | cons s ss ih =>
    have hs := h s (by simp) (ss.flatMap (·.text) ++ rest)
    have hr := ih fun u hu => h u (by simp [hu])
    simp only [List.map_cons, List.flatMap_cons, List.append_assoc, readAll, hs, Option.bind_eq_bind,
      Option.bind_some, hr]
    rfl

/-- Statements with a here-document can always be written, and every one of them feeds its content
and nothing else, alone or among others. -/
theorem contents_read_back {base : Text} (hq : Symbol.char '\'' ∉ base)
    (hn : Symbol.newline ∉ base) :
    (∀ head content, ∃ text, statement head content (delimiter content base) = .ok text ∧
      Feeds text head content) ∧
    (∀ body content, ∃ text, Fragment.wrapper base body content = .ok text ∧
      Feeds text (Fragment.group body) content) ∧
    (∀ p content, ∃ text, Embedding.statement p content = .ok text ∧
      Feeds text Embedding.sourceStatement content) ∧
    (∀ t cwd name searchPath text, Embedding.embed t cwd name searchPath = .ok text ↔
      ∃ p bytes, Embedding.find t cwd name searchPath = .ok p ∧ t.read cwd p = .ok bytes ∧
        Embedding.statement p (Text.decode bytes) = .ok text) ∧
    ∀ ss : List Fed, (∀ s ∈ ss, Written s) → ∀ rest,
      readAll (ss.map (·.head)) (ss.flatMap (·.text) ++ rest) =
        some (ss.map (·.content.terminated), rest) := by
  have hu := isUsable_iff.mpr ⟨hq, hn⟩
  refine ⟨statement_feeds hu, wrapper_feeds hu, embedded_feeds, ?_, ?_⟩
  · intro t cwd name searchPath text
    exact embed_eq_ok_iff
  · intro ss hs rest
    exact readAll_flatMap (fun s hm => (hs s hm).feeds) rest

/-- A content that holds the delimiter and its first substitute, fed twice before a line that looks
like its end. -/
theorem contents_read_back_fences :
    (Symbol.char '\'' ∉ ("```" : Text) ∧ Symbol.newline ∉ ("```" : Text)) ∧
    Written ⟨"\x7b\ncat\n\x7d <<'```_2'\n```\n```_1\n```_2\n", Fragment.group "cat", "```\n```_1"⟩ ∧
    readAll (List.replicate 2 (Fragment.group "cat"))
      ((List.replicate 2 ("\x7b\ncat\n\x7d <<'```_2'\n```\n```_1\n```_2\n" : Text)).flatten ++ "```_2\n") =
        some (List.replicate 2 ("```\n```_1\n" : Text), ("```_2\n" : Text)) := by
  have hw : Written ⟨"\x7b\ncat\n\x7d <<'```_2'\n```\n```_1\n```_2\n", Fragment.group "cat",
      "```\n```_1"⟩ := @Written.wrapper "```" "cat" "```\n```_1" _ (by decide) (by decide)
  have hq : Symbol.char '\'' ∉ ("```" : Text) := by decide
  have hn : Symbol.newline ∉ ("```" : Text) := by decide
  have hs : ∀ s ∈ List.replicate 2 _, Written s := fun s hs => (List.eq_of_mem_replicate hs) ▸ hw
  exact ⟨⟨hq, hn⟩, hw, (contents_read_back hq hn).2.2.2.2 _ hs "```_2\n"⟩

end Tangle.Heredoc
