import Tangle.Definition
import Tangle.Proofs.Text.Run

/-! # The layouts of function definitions

A text defines a function exactly if it is a header, a delimiter, a body, the closing delimiter and a
trailer without another one. The parts are found again, so to exchange the delimiters is to write the same
parts with other texts between them. -/
namespace Tangle

namespace Header

/-- Holds of a text that starts with parentheses around nothing but blanks. -/
def StartsEmpty (t : Text) : Prop :=
  ∃ b r : Text, b.isBlank = true ∧ t = .char '(' :: b ++ .char ')' :: r

/-- All blanks are blanks, and the name is a name. -/
structure IsWellFormed (h : Header) : Prop where
  lead : h.lead.isBlank = true
  keyword : ∀ b ∈ h.keyword, b ≠ [] ∧ b.isBlank = true
  name_ne_nil : h.name ≠ []
  name : ∀ s ∈ h.name, isNameSymbol s = true
  gap : h.gap.isBlank = true
  parens : ∀ b ∈ h.parens, b.isBlank = true
  tail : h.tail.isBlank = true

/-- The header with all blanks behind the name in one place, if there are no parentheses. -/
def normal (h : Header) : Header :=
  match h.parens with
  | some _ => h
  | none => { h with gap := h.gap ++ h.tail, tail := [] }

@[simp] theorem normal_name (h : Header) : h.normal.name = h.name := by
  unfold normal
  split <;> rfl

@[simp] theorem normal_isMarked (h : Header) : h.normal.isMarked = h.isMarked := by
  unfold normal
  split <;> rfl

@[simp] theorem normal_parens (h : Header) : h.normal.parens = h.parens := by
  unfold normal
  split <;> rfl

theorem normal_tail {h : Header} (hp : h.parens = none) : h.normal.tail = [] := by
  simp [normal, hp]

@[simp] theorem normal_text (h : Header) : h.normal.text = h.text := by
  unfold normal
  split
  · rfl
  · next hp => simp [text, hp]

theorem IsWellFormed.normal {h : Header} (hh : h.IsWellFormed) : h.normal.IsWellFormed := by
  unfold Header.normal
  split
  · exact hh
  · next hp =>
    refine ⟨hh.lead, hh.keyword, hh.name_ne_nil, hh.name, ?_, hh.parens, rfl⟩
    have hg := hh.gap
    have ht := hh.tail
    rw [Text.isBlank_iff] at hg ht ⊢
    intro s hs
    exact (List.mem_append.mp hs).elim (hg s) (ht s)

/-- What stands behind the blanks after the name. -/
def ending (h : Header) : Text :=
  (match h.parens with | some b => "(" ++ b ++ ")" | none => []) ++ h.tail

theorem text_eq (h : Header) : h.text = h.lead ++
    ((match h.keyword with | some b => "function" ++ b | none => []) ++ (h.name ++ (h.gap ++ h.ending))) := by
  rw [text, ending]
  cases h.keyword <;> cases h.parens <;> simp only [List.append_assoc]

theorem readParens_eq_some_iff {t b r : Text} :
    readParens t = (some b, r) ↔ b.isBlank = true ∧ t = .char '(' :: b ++ .char ')' :: r := by
  constructor
  · intro h
    unfold readParens at h
    split at h
    · next t₁ =>
      split at h
      · next c t₂ hb =>
        obtain ⟨rfl, hc, -⟩ := Text.span_eq_iff.mp hb
        cases h
        exact ⟨Text.isBlank_iff.mpr hc, rfl⟩
      · cases h
    · cases h
  · rintro ⟨hb, rfl⟩
    have hs : blanks (b ++ .char ')' :: r) = (b, .char ')' :: r) :=
      Text.span_eq_iff.mpr ⟨rfl, Text.isBlank_iff.mp hb, by simp [Symbol.isBlank, Symbol.holds, isBlankChar]⟩
    rw [List.cons_append, readParens, hs]
    rfl

theorem readParens_eq_none_iff {t r : Text} : readParens t = (none, r) ↔ ¬StartsEmpty t ∧ r = t := by
  have hn : ∀ q, readParens t = q → q.1 = none → q.2 = t := by
    intro q hq
    unfold readParens at hq
    split at hq
    · split at hq <;> cases hq
      · exact nofun
      · exact fun _ => rfl
    · cases hq
      exact fun _ => rfl
  constructor
  · intro h
    refine ⟨?_, hn _ h rfl⟩
    rintro ⟨b, u, hb, ht⟩
    cases h.symm.trans (readParens_eq_some_iff.mpr ⟨hb, ht⟩)
  · rintro ⟨hs, rfl⟩
    rcases hq : readParens r with ⟨b | b, u⟩
    · obtain rfl : u = r := hn _ hq rfl
      rfl
    · obtain ⟨hb, ht⟩ := readParens_eq_some_iff.mp hq
      exact absurd ⟨b, u, hb, ht⟩ hs

/-- Holds of what can stand behind a header: no blank, and no symbol of a name. -/
def Ends (t : Text) : Prop := ∀ s ∈ t.head?, s.isBlank = false ∧ isNameSymbol s = false

/-- Behind the gap stands no blank, and no symbol of a name. -/
theorem ends_ending {h : Header} (ht : h.parens = none → h.tail = []) {t : Text} (he : Ends t) :
    Ends (h.ending ++ t) := by
  cases hp : h.parens with
  | none =>
    have hn : h.ending = [] := by simp [ending, hp, ht hp]
    rw [hn]
    exact he
  | some b =>
    have hs : (h.ending ++ t).head? = some (.char '(') := by
      rw [ending, hp]
      rfl
    intro s hm
    rw [hs] at hm
    cases hm
    decide

theorem isNameSymbol_of_isBlank {s : Symbol} (h : s.isBlank = true) : isNameSymbol s = false := by
  simp [isNameSymbol, h]

/-- A name ends at blanks, or where a header can end. -/
theorem head?_blanks {g t : Text} (hg : ∀ s ∈ g, s.isBlank = true) (ht : g ≠ [] ∨ Ends t) :
    ∀ s ∈ (g ++ t).head?, ¬isNameSymbol s = true := by
  intro s hs
  cases g with
  | nil => simp [(ht.resolve_left (fun h => h rfl) s hs).2]
  | cons c g =>
    cases hs
    simp [isNameSymbol_of_isBlank (hg s (by simp))]

theorem readFrom_ending {h : Header} (hh : h.IsWellFormed) (hn : h.parens = none → h.tail = []) {t : Text}
    (he : Ends t) (hs : h.parens = none → ¬StartsEmpty t) :
    readFrom h.lead h.keyword (h.name ++ (h.gap ++ (h.ending ++ t))) = some (h, t) := by
  have hends := ends_ending hn he
  have hname : (h.name ++ (h.gap ++ (h.ending ++ t))).span isNameSymbol =
      (h.name, h.gap ++ (h.ending ++ t)) :=
    Text.span_eq_iff.mpr ⟨rfl, hh.name, head?_blanks (Text.isBlank_iff.mp hh.gap) (.inr hends)⟩
  have hgap : blanks (h.gap ++ (h.ending ++ t)) = (h.gap, h.ending ++ t) :=
    Text.span_eq_iff.mpr ⟨rfl, Text.isBlank_iff.mp hh.gap, fun s hm => by simp [(hends s hm).1]⟩
  have htail : blanks (h.tail ++ t) = (h.tail, t) :=
    Text.span_eq_iff.mpr ⟨rfl, Text.isBlank_iff.mp hh.tail, fun s hm => by simp [(he s hm).1]⟩
  have hparens : readParens (h.ending ++ t) = (h.parens, h.tail ++ t) := by
    cases hp : h.parens with
    | none => exact readParens_eq_none_iff.mpr (by simp [ending, hp, hn hp, hs hp])
    | some b => exact readParens_eq_some_iff.mpr ⟨hh.parens b hp, by simp [ending, hp, Text.ofString]⟩
  have hne : h.name.isEmpty = false := by simpa using hh.name_ne_nil
  simp only [readFrom, hname, hne, hgap, hparens, htail]
  rfl

theorem readFrom_of_ends {t : Text} (he : Ends t) (lead : Text) (keyword : Option Text) :
    readFrom lead keyword t = none := by
  have hs : t.span isNameSymbol = ([], t) :=
    Text.span_eq_iff.mpr ⟨rfl, by simp, fun s hm => by simp [(he s hm).2]⟩
  simp only [readFrom, hs]
  rfl

/-- A name that starts with the word `function` is not taken for a keyword. -/
theorem readFrom_behind_keyword {h : Header} (hh : h.IsWellFormed) (hn : h.parens = none → h.tail = [])
    {t u b r : Text} (he : Ends t) (hu : h.name ++ (h.gap ++ (h.ending ++ t)) = "function" ++ u)
    (hb : blanks u = (b, r)) (hne : b ≠ []) (lead : Text) (keyword : Option Text) :
    readFrom lead keyword r = none := by
  have hends := ends_ending hn he
  have hgap := Text.isBlank_iff.mp hh.gap
  obtain ⟨rfl, hblank, hr⟩ := Text.span_eq_iff.mp hb
  have hword : ∀ s ∈ Text.ofString "function", isNameSymbol s = true := by decide
  obtain ⟨-, hrest⟩ := run_unique (P := (isNameSymbol · = true)) hu hh.name hword
    (head?_blanks hgap (.inr hends)) (head?_blanks hblank (.inl hne))
  obtain ⟨-, rfl⟩ := run_unique (P := (Symbol.isBlank · = true)) hrest hgap hblank
    (fun s hs => by simp [(hends s hs).1]) hr
  exact readFrom_of_ends hends lead keyword

theorem isBlank_of_isNameSymbol {s : Symbol} (h : isNameSymbol s = true) : s.isBlank = false := by
  rw [Bool.eq_false_iff]
  intro hb
  rw [isNameSymbol_of_isBlank hb] at h
  cases h

theorem IsWellFormed.head?_name {h : Header} (hh : h.IsWellFormed) (t : Text) :
    ∀ s ∈ (h.name ++ t).head?, s.isBlank = false := by
  obtain ⟨c, n, hc⟩ := List.exists_cons_of_ne_nil hh.name_ne_nil
  intro s hs
  rw [hc] at hs
  cases hs
  exact isBlank_of_isNameSymbol (hh.name c (by simp [hc]))

/-- A header in normal form is read as it is written. -/
theorem read_text {h : Header} (hh : h.IsWellFormed) (hn : h.parens = none → h.tail = []) {t : Text}
    (he : Ends t) (hs : h.parens = none → ¬StartsEmpty t) : read (h.text ++ t) = some (h, t) := by
  have hfrom := readFrom_ending hh hn he hs
  have hlead : ∀ u : Text, (∀ s ∈ u.head?, s.isBlank = false) → blanks (h.lead ++ u) = (h.lead, u) :=
    fun u hu => Text.span_eq_iff.mpr ⟨rfl, Text.isBlank_iff.mp hh.lead, fun s hm => by simp [hu s hm]⟩
  rw [text_eq]
  simp only [List.append_assoc]
  cases hk : h.keyword with
  | none =>
    rw [hk] at hfrom
    have hl := hlead (h.name ++ (h.gap ++ (h.ending ++ t))) (hh.head?_name _)
    simp only [List.nil_append]
    rw [read, hl]
    simp only
    split
    · exact hfrom
    · next u hu =>
      rw [Text.after?_eq_some_iff] at hu
      rcases hb : blanks u with ⟨b, r⟩
      simp only
      split
      · exact hfrom
      · next hne =>
        rw [readFrom_behind_keyword hh hn he hu hb (by simpa using hne)]
        exact hfrom
  | some b =>
    rw [hk] at hfrom
    obtain ⟨hne, hblank⟩ := hh.keyword b hk
    have hl := hlead ("function" ++ (b ++ (h.name ++ (h.gap ++ (h.ending ++ t))))) (by
      intro s hm
      cases hm
      decide)
    have hb : blanks (b ++ (h.name ++ (h.gap ++ (h.ending ++ t)))) =
        (b, h.name ++ (h.gap ++ (h.ending ++ t))) :=
      Text.span_eq_iff.mpr ⟨rfl, Text.isBlank_iff.mp hblank, fun s hm => by simp [hh.head?_name _ s hm]⟩
    simp only [List.append_assoc]
    rw [read, hl]
    simp only [Text.after?_eq_some_iff.mpr rfl, hb]
    rw [if_neg (by simpa using hne), hfrom]

theorem readFrom_ok {lead : Text} {keyword : Option Text} {t r : Text} {h : Header}
    (hr : readFrom lead keyword t = some (h, r)) (hl : lead.isBlank = true)
    (hk : ∀ b ∈ keyword, b ≠ [] ∧ b.isBlank = true) :
    h.IsWellFormed ∧ h.lead = lead ∧ h.keyword = keyword ∧ t = h.name ++ (h.gap ++ (h.ending ++ r)) ∧
      (h.parens = none → ¬StartsEmpty r) := by
  rcases hname : t.span isNameSymbol with ⟨name, t₁⟩
  rcases hgap : blanks t₁ with ⟨gap, t₂⟩
  rcases hparens : readParens t₂ with ⟨parens, t₃⟩
  rcases htail : blanks t₃ with ⟨tail, t₄⟩
  simp only [readFrom, hname, hgap, hparens, htail] at hr
  split at hr
  · cases hr
  next hne =>
  cases hr
  obtain ⟨rfl, hn, -⟩ := Text.span_eq_iff.mp hname
  obtain ⟨rfl, hg, hhead⟩ := Text.span_eq_iff.mp hgap
  obtain ⟨rfl, ht, -⟩ := Text.span_eq_iff.mp htail
  have hwf : ∀ b ∈ parens, b.isBlank = true := by
    rintro b rfl
    exact (readParens_eq_some_iff.mp hparens).1
  refine ⟨⟨hl, hk, by simpa using hne, hn, Text.isBlank_iff.mpr hg, hwf, Text.isBlank_iff.mpr ht⟩,
    rfl, rfl, ?_, ?_⟩
  · cases parens with
    | none => simp [ending, (readParens_eq_none_iff.mp hparens).2]
    | some b => simp [ending, (readParens_eq_some_iff.mp hparens).2, Text.ofString]
  · rintro rfl
    obtain ⟨hs, rfl⟩ := readParens_eq_none_iff.mp hparens
    -- the gap has taken all blanks, so none are left for the tail
    cases tail with
    | nil => exact hs
    | cons c tail => exact absurd (ht c (by simp)) (hhead c (by simp))

theorem read_ok {source r : Text} {h : Header} (hr : read source = some (h, r)) :
    h.IsWellFormed ∧ source = h.text ++ r ∧ (h.parens = none → ¬StartsEmpty r) := by
  rcases hlead : blanks source with ⟨lead, t⟩
  obtain ⟨rfl, hl, -⟩ := Text.span_eq_iff.mp hlead
  have hnamed : readFrom lead none t = some (h, r) →
      h.IsWellFormed ∧ lead ++ t = h.text ++ r ∧ (h.parens = none → ¬StartsEmpty r) := by
    intro hr
    obtain ⟨hh, rfl, hk, rfl, hs⟩ := readFrom_ok hr (Text.isBlank_iff.mpr hl) nofun
    exact ⟨hh, by simp only [text_eq, hk, List.nil_append, List.append_assoc], hs⟩
  rw [read, hlead] at hr
  simp only at hr
  split at hr
  · exact hnamed hr
  next u hu =>
  rcases hb : blanks u with ⟨b, v⟩
  simp only [hb] at hr
  split at hr
  · exact hnamed hr
  next hne =>
  split at hr
  · exact hnamed hr
  obtain ⟨rfl, hblank, -⟩ := Text.span_eq_iff.mp hb
  have hk : ∀ c ∈ some b, c ≠ [] ∧ Text.isBlank c = true := by
    rintro c ⟨⟩
    exact ⟨by simpa using hne, Text.isBlank_iff.mpr hblank⟩
  obtain ⟨hh, rfl, hkey, rfl, hs⟩ := readFrom_ok hr (Text.isBlank_iff.mpr hl) hk
  refine ⟨hh, ?_, hs⟩
  rw [Text.after?_eq_some_iff.mp hu]
  simp only [text_eq, hkey, List.append_assoc]

end Header

namespace Enclosure

theorem ofOpener?_eq_some_iff {s : Symbol} {e : Enclosure} : ofOpener? s = some e ↔ s = e.opener := by
  rw [ofOpener?]
  constructor
  · intro h
    split at h
    · next hs =>
      cases h
      exact hs
    · split at h
      · next hs =>
        cases h
        exact hs
      · cases h
  · rintro rfl
    cases e <;> rfl

theorem ends_opener (e : Enclosure) (t : Text) : Header.Ends (e.opener :: t) := by
  rintro s ⟨⟩
  cases e <;> decide

end Enclosure

namespace Definition

theorem splitLast?_eq_none_iff {c : Symbol} {t : Text} : splitLast? c t = none ↔ c ∉ t := by
  induction t with
  | nil => simp [splitLast?]
  | cons s t ih =>
    rw [splitLast?]
    cases h : splitLast? c t with
    | some p => simp [show c ∈ t by simpa [h] using ih]
    | none =>
      have hn := ih.mp h
      by_cases hs : s = c
      · simp [hs]
      · simpa [hs, hn] using fun h : c = s => hs h.symm

theorem splitLast?_eq_some_iff {c : Symbol} {t a b : Text} :
    splitLast? c t = some (a, b) ↔ t = a ++ c :: b ∧ c ∉ b := by
  constructor
  · intro h
    induction t generalizing a with
    | nil => cases h
    | cons s t ih =>
      rw [splitLast?] at h
      split at h
      · next a' b' hp =>
        cases h
        obtain ⟨rfl, hb⟩ := ih hp
        exact ⟨rfl, hb⟩
      · next hn =>
        split at h
        · next hs =>
          cases h
          exact ⟨hs ▸ rfl, splitLast?_eq_none_iff.mp hn⟩
        · cases h
  · rintro ⟨rfl, hb⟩
    induction a with
    | nil => simp [splitLast?, splitLast?_eq_none_iff.mpr hb]
    | cons s a ih => rw [List.cons_append, splitLast?, ih]

/-- The parts are those of a definition: the header names a function, and the closing delimiter is the last
of its kind. A header without parentheses is not followed by empty ones, for these would be its own. -/
structure IsWellFormed (d : Definition) : Prop where
  header : d.header.IsWellFormed
  marked : d.header.isMarked = true
  body : d.header.parens = none →
    ¬Header.StartsEmpty (d.enclosure.opener :: d.body ++ d.enclosure.closer :: d.trailer)
  trailer : d.enclosure.closer ∉ d.trailer

/-- The definition with its header in normal form. -/
def normal (d : Definition) : Definition := { d with header := d.header.normal }

theorem IsWellFormed.read_text {d : Definition} (hd : d.IsWellFormed) : read d.text = .ok d.normal := by
  have hn : d.header.normal.parens = none → d.header.normal.tail = [] := fun hp =>
    Header.normal_tail (Header.normal_parens d.header ▸ hp)
  have hh := Header.read_text hd.header.normal hn (d.enclosure.ends_opener (d.body ++ d.enclosure.closer :: d.trailer))
    fun hp => hd.body (Header.normal_parens d.header ▸ hp)
  have ht : d.text = d.header.normal.text ++ d.enclosure.opener :: (d.body ++ d.enclosure.closer :: d.trailer) := by
    rw [text, Header.normal_text, List.append_assoc]
    rfl
  have hs : splitLast? d.enclosure.closer (d.body ++ d.enclosure.closer :: d.trailer) =
      some (d.body, d.trailer) := splitLast?_eq_some_iff.mpr ⟨rfl, hd.trailer⟩
  simp only [read, ht, hh, Header.normal_isMarked, hd.marked, Enclosure.ofOpener?_eq_some_iff.mpr rfl, hs]
  rfl

theorem read_ok {source : Text} {d : Definition} (h : read source = .ok d) :
    d.IsWellFormed ∧ d.text = source := by
  rw [read] at h
  split at h
  · cases h
  next hd rest hr =>
  split at h
  next hm =>
    split at h
    · cases h
    next s t =>
    split at h
    · cases h
    next e he =>
    obtain rfl := Enclosure.ofOpener?_eq_some_iff.mp he
    split at h
    · cases h
    next body trailer hs =>
    cases h
    obtain ⟨rfl, htrailer⟩ := splitLast?_eq_some_iff.mp hs
    obtain ⟨hh, rfl, hempty⟩ := Header.read_ok hr
    exact ⟨⟨hh, hm, hempty, htrailer⟩, by simp [text]⟩
  · cases h

/-- The definition in braces, with texts added at the start and at the end of its body. -/
def advised (d : Definition) (before after : Text) : Definition :=
  { d with enclosure := .braces, body := before ++ d.body ++ after }

theorem IsWellFormed.advised {d : Definition} (hd : d.IsWellFormed) (ht : Enclosure.braces.closer ∉ d.trailer)
    (before after : Text) : (d.advised before after).IsWellFormed where
  header := hd.header
  marked := hd.marked
  body _ := by
    rintro ⟨b, r, -, he⟩
    cases he
  trailer := ht

theorem advised_advised (d : Definition) (before after before' after' : Text) :
    (d.advised before after).advised before' after' = d.advised (before' ++ before) (after ++ after') := by
  simp only [advised, List.append_assoc]

theorem rewritten_braces (d : Definition) (before after : Text) :
    d.rewritten (some (Enclosure.braces.opener :: before)) (some (after ++ [Enclosure.braces.closer])) =
      (d.advised before after).text := by
  simp [rewritten, text, advised]

theorem IsWellFormed.definedName_text {d : Definition} (hd : d.IsWellFormed) :
    definedName d.text = .ok d.name := by
  rw [definedName, hd.read_text]
  exact congrArg Except.ok d.header.normal_name

theorem IsWellFormed.rewriteDefinition_text {d : Definition} (hd : d.IsWellFormed) (before after : Option Text) :
    rewriteDefinition d.text before after = .ok (d.rewritten before after) := by
  rw [rewriteDefinition, hd.read_text]
  show Except.ok (d.normal.rewritten before after) = _
  rw [rewritten, rewritten, normal, Header.normal_text]

/-- A text is read as a definition exactly if it is laid out as one, and the name, the delimiters and the body
are found where they stand. Other delimiters are put in the place of the old ones. What is added inside the
braces twice nests, if no further closing brace follows them. -/
theorem layouts_read (source : Text) (d : Definition) :
    (∀ e, read source = .ok e → e.IsWellFormed ∧ e.text = source) ∧
    (d.IsWellFormed →
      (∃ e, read d.text = .ok e ∧ e.name = d.header.name ∧ e.openIndex = d.header.text.length ∧
        e.closeIndex = d.header.text.length + 1 + d.body.length ∧ e.bodyText = d.body.trim) ∧
      (∀ before after, rewriteDefinition d.text before after = .ok (d.header.text ++
        before.getD [d.enclosure.opener] ++ d.body ++ after.getD [d.enclosure.closer] ++ d.trailer)) ∧
      (Enclosure.braces.closer ∉ d.trailer → ∀ before after before' after' : Text, ∃ once twice,
        rewriteDefinition d.text (some (Enclosure.braces.opener :: before))
          (some (after ++ [Enclosure.braces.closer])) = .ok once ∧
        rewriteDefinition once (some (Enclosure.braces.opener :: before'))
          (some (after' ++ [Enclosure.braces.closer])) = .ok twice ∧
        definedName once = .ok d.header.name ∧ definedName twice = .ok d.header.name ∧
        rewriteDefinition d.text (some (Enclosure.braces.opener :: (before' ++ before)))
          (some (after ++ after' ++ [Enclosure.braces.closer])) = .ok twice)) := by
  refine ⟨fun e h => read_ok h, fun hd => ⟨⟨d.normal, hd.read_text, d.header.normal_name, ?_, ?_, rfl⟩,
    hd.rewriteDefinition_text, fun ht before after before' after' => ?_⟩⟩
  · rw [openIndex, normal, Header.normal_text]
  · rw [closeIndex, openIndex, normal, Header.normal_text]
  · have hfirst := hd.advised ht before after
    have hboth := hd.advised ht (before' ++ before) (after ++ after')
    refine ⟨(d.advised before after).text, (d.advised (before' ++ before) (after ++ after')).text, ?_, ?_,
      hfirst.definedName_text, hboth.definedName_text, ?_⟩
    · rw [hd.rewriteDefinition_text, rewritten_braces]
    · rw [hfirst.rewriteDefinition_text, rewritten_braces, advised_advised]
    · rw [hd.rewriteDefinition_text, rewritten_braces]

/-- A header by the word `function`, with a body in parentheses that holds another opening one. -/
theorem layouts_read_subshell :
    let source : Text := "\nfunction f (a \x7d (b) >\"$l\""
    ∃ once, rewriteDefinition source (some "\x7bx;") (some ";y\x7d") = .ok once ∧
      rewriteDefinition once (some "\x7bv;") (some ";w\x7d") =
        .ok "\nfunction f \x7bv;x;a \x7d (b;y;w\x7d >\"$l\"" := by
  intro source
  let d : Definition := ⟨⟨"\n", some " ", "f", " ", none, []⟩, .parens, "a \x7d (b", " >\"$l\""⟩
  have hh : d.header.IsWellFormed :=
    ⟨by decide, by rintro b ⟨⟩; decide, by decide, by decide, by decide, nofun, by decide⟩
  have hp : Header.readParens (d.enclosure.opener :: d.body ++ d.enclosure.closer :: d.trailer) =
      (none, d.enclosure.opener :: d.body ++ d.enclosure.closer :: d.trailer) := by decide
  have hd : d.IsWellFormed := ⟨hh, rfl, fun _ => (Header.readParens_eq_none_iff.mp hp).1, by decide⟩
  obtain ⟨once, twice, honce, htwice, -, -, hboth⟩ :=
    ((layouts_read source d).2 hd).2.2 (by decide) "x;" ";y" "v;" ";w"
  refine ⟨once, honce, htwice.trans (hboth.symm.trans ?_)⟩
  exact ((layouts_read source d).2 hd).2.1 _ _

/-- A body in parentheses with a closing brace behind it: once the body stands in braces, that brace is the
last one, and the second text is added there. -/
theorem advice_behind_body :
    let d : Definition := ⟨⟨[], none, "f", [], some [], " "⟩, .parens, "x", " >\"$\x7bl\x7d\""⟩
    d.IsWellFormed ∧
    (rewriteDefinition d.text (some "\x7ba;") (some ";b\x7d")).bind
      (rewriteDefinition · (some "\x7bc;") (some ";d\x7d")) = .ok "f() \x7bc;a;x;b\x7d >\"$\x7bl;d\x7d\"" ∧
    rewriteDefinition d.text (some "\x7bc;a;") (some ";b;d\x7d") = .ok "f() \x7bc;a;x;b;d\x7d >\"$\x7bl\x7d\"" ∧
    (rewriteDefinition d.text (some "\x7ba;") (some ";b\x7d")).bind
      (rewriteDefinition · (some "\x7bc;") (some ";d\x7d")) ≠
      rewriteDefinition d.text (some "\x7bc;a;") (some ";b;d\x7d") := by
  intro d
  have hh : d.header.IsWellFormed :=
    ⟨by decide, nofun, by decide, by decide, by decide, by rintro b ⟨⟩; decide, by decide⟩
  exact ⟨⟨hh, rfl, nofun, by decide⟩, by decide +kernel, by decide +kernel, by decide +kernel⟩

end Definition
end Tangle
