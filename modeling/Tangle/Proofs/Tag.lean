import Tangle.Tag
import Tangle.Proofs.Text.Run

/-! # The grammar of tags

A tag is blank, a language alone, a language with a command behind a marker, or a language with words. Every
text is a tag of exactly one form, up to the blanks around it, and is read as that form says. -/
namespace Tangle
namespace Tag

/-- The marks that a command begins with. -/
inductive Marker where
  | run
  | compile
deriving DecidableEq

namespace Marker

def symbol : Marker → Symbol
  | run => .char '|'
  | compile => .char '!'

def request : Marker → Text → Request
  | run => .run
  | compile => .compile

end Marker

/-- The forms of a tag. -/
inductive Form where
  | blank
  | alone (language : Text)
  | command (language : Text) (marker : Marker) (code : Text)
  | listed (language : Text) (words : List Text)
deriving DecidableEq

namespace Form

def tag : Form → Tag
  | blank => { language := [] }
  | alone l => { language := l }
  | command l m code => { language := l, request := m.request code }
  | listed l ws => { language := l, request := .plain ws }

/-- The form that a tag is of, once it is read. -/
def ofTag (t : Tag) : Form :=
  match t.request with
  | .run code => command t.language .run code
  | .compile code => command t.language .compile code
  | .plain ws => if t.language = [] then blank else if ws = [] then alone t.language else listed t.language ws

/-- The texts of a form, without blanks around them. A language may hold the marks anywhere; a word behind it
may not begin with one if it is the first. The code goes on to the end. -/
inductive Writes : Form → Text → Prop
  | blank : Writes blank []
  | alone {l : Text} (hl : l.IsToken) : Writes (alone l) l
  | command {l gap code : Text} {m : Marker} (hl : l.IsToken) (hg : gap.IsGap)
      (hc : ∀ s ∈ code.getLast?, s.isBlank = false) : Writes (command l m code) (l ++ gap ++ m.symbol :: code)
  | listed {l gap t : Text} {ws : List Text} (hl : l.IsToken) (hg : gap.IsGap) (hws : Text.Spaced ws t)
      (hm : ∀ w ∈ ws.head?, ∀ m : Marker, w.head? ≠ some m.symbol) : Writes (listed l ws) (l ++ gap ++ t)

end Form

/-- The text is of a form, up to the blanks around it. -/
def HasForm (raw : Text) (f : Form) : Prop :=
  ∃ a t b : Text, raw = a ++ t ++ b ∧ a.isBlank = true ∧ f.Writes t ∧ b.isBlank = true

namespace Marker

theorem isBlank_symbol (m : Marker) : m.symbol.isBlank = false := by cases m <;> rfl

theorem ofText_symbol (m : Marker) (code : Text) : Request.ofText (m.symbol :: code) = m.request code := by
  cases m <;> rfl

end Marker

theorem ofText_unmarked {s : Symbol} {t : Text} (h : ∀ m : Marker, s ≠ m.symbol) :
    Request.ofText (s :: t) = .plain (Text.words (s :: t)) := by
  have hr : ¬ s.is '|' = true := fun hs => h .run (Symbol.is_iff.mp hs)
  have hc : ¬ s.is '!' = true := fun hs => h .compile (Symbol.is_iff.mp hs)
  rw [Request.ofText, if_neg hr, if_neg hc]

namespace Form
variable {f : Form} {t : Text}

theorem Writes.trimmed (h : f.Writes t) : t.trim = t := by
  cases h with
  | blank => rfl
  | alone hl => exact hl.trimmed
  | @command l gap code m hl hg hc =>
    rw [List.append_assoc]
    refine Text.trimmed_append hl fun s hs => ?_
    rw [List.getLast?_append_of_ne_nil _ (List.cons_ne_nil _ _), List.getLast?_cons] at hs
    cases hl : code.getLast? with
    | none =>
      rw [hl] at hs
      cases hs
      exact m.isBlank_symbol
    | some c =>
      rw [hl] at hs
      cases hs
      exact hc _ hl
  | @listed l gap u ws hl hg hws hm =>
    have hu := (Text.trimmed_iff.mp hws.trimmed).2
    obtain ⟨-, -, c, -, hc⟩ := hws.head?
    have hu₀ : u ≠ [] := by
      rintro rfl
      cases hc
    rw [List.append_assoc]
    refine Text.trimmed_append hl fun s hs => hu s ?_
    rwa [List.getLast?_append_of_ne_nil _ hu₀] at hs

theorem Writes.ofTag_tag (h : f.Writes t) : ofTag f.tag = f := by
  cases h with
  | blank => rfl
  | alone hl => exact (if_neg hl.1).trans (if_pos rfl)
  | @command l gap code m => cases m <;> rfl
  | @listed l gap u ws hl hg hws hm =>
    obtain ⟨w, hw, -⟩ := hws.exists_first
    have hne : ws ≠ [] := by
      rintro rfl
      cases hw
    exact (if_neg hl.1).trans (if_neg hne)

end Form

theorem HasForm.trim {raw : Text} {f : Form} (h : HasForm raw f) : f.Writes raw.trim := by
  obtain ⟨a, t, b, rfl, ha, ht, hb⟩ := h
  rwa [Text.trim_append ha ht.trimmed hb]

theorem ofText_eq {raw l r : Text} (ht : raw.trim = l ++ r) (hl : ∀ s ∈ l, s.isBlank = false)
    (hr : ∀ s ∈ r.head?, s.isBlank = true) :
    ofText raw = { language := l, request := .ofText (Text.trimStartBy Symbol.isBlank r) } := by
  have hs : raw.trim.span (!·.isBlank) = (l, r) :=
    Text.span_eq_iff.mpr ⟨ht, by simpa using hl, by simpa using hr⟩
  rw [List.span_eq_takeWhile_dropWhile, Prod.mk.injEq] at hs
  simp only [ofText, hs.1, hs.2]

/-- What stands behind the gap says what is asked for. -/
theorem ofText_gap {raw l gap u : Text} (ht : raw.trim = l ++ gap ++ u) (hl : l.IsToken) (hg : gap.IsGap)
    (hu : ∀ s ∈ u.head?, s.isBlank = false) : ofText raw = { language := l, request := .ofText u } := by
  have hgap := Text.isBlank_iff.mp hg.2
  have hs : (gap ++ u).span Symbol.isBlank = (gap, u) :=
    Text.span_eq_iff.mpr ⟨rfl, hgap, fun s hm => by simp [hu s hm]⟩
  rw [List.span_eq_takeWhile_dropWhile, Prod.mk.injEq] at hs
  rw [List.append_assoc] at ht
  rw [ofText_eq ht hl.2, Text.trimStartBy, hs.2]
  intro s hm
  rw [List.head?_append_of_ne_nil _ hg.1] at hm
  exact hgap s (List.mem_of_mem_head? hm)

theorem ofText_of_writes {raw : Text} {f : Form} (h : f.Writes raw.trim) : ofText raw = f.tag := by
  generalize ht : raw.trim = t at h
  cases h with
  | blank => exact ofText_eq (l := []) (r := []) ht (by simp) (by simp)
  | alone hl => exact ofText_eq (r := []) (by rw [ht, List.append_nil]) hl.2 (by simp)
  | @command l gap code m hl hg hc =>
    rw [ofText_gap ht hl hg (by rintro s ⟨⟩; exact m.isBlank_symbol), m.ofText_symbol]
    rfl
  | @listed l gap u ws hl hg hws hm =>
    obtain ⟨w, hw, s, hws₀, hs⟩ := hws.head?
    obtain ⟨hhead, -⟩ := Text.trimmed_iff.mp hws.trimmed
    have hne : ∀ m : Marker, s ≠ m.symbol := fun m he => hm w hw m (he ▸ hws₀)
    obtain ⟨u, rfl⟩ : ∃ v, u = s :: v := by
      cases u with
      | nil => cases hs
      | cons c v =>
        cases hs
        exact ⟨v, rfl⟩
    rw [ofText_gap ht hl hg hhead, ofText_unmarked hne, hws.words_eq]
    rfl

theorem ofText_of_isBlank {raw : Text} (h : raw.isBlank = true) : ofText raw = { language := [] } :=
  ofText_of_writes (Text.trim_eq_nil_iff.mpr h ▸ Form.Writes.blank)

/-- A tag has no language only if it is blank. -/
theorem language_eq_nil_iff (raw : Text) : (ofText raw).language = [] ↔ raw.isBlank = true := by
  constructor
  · intro h
    obtain ⟨hhead, -⟩ := Text.trimmed_iff.mp (Text.trim_trim raw)
    rw [ofText] at h
    rw [← Text.trim_eq_nil_iff]
    cases ht : raw.trim with
    | nil => rfl
    | cons s t =>
      simp [ht, hhead s (by simp [ht])] at h
  · intro h
    rw [ofText_of_isBlank h]

/-- A trimmed text is blank, or a language, or what stands behind the language and the gap decides. -/
theorem exists_writes {t : Text} (ht : t.trim = t) : ∃ f : Form, f.Writes t := by
  by_cases hn : t = []
  · exact ⟨.blank, hn ▸ .blank⟩
  rcases Text.isToken_or_split hn ht with hl | ⟨l, gap, u, rfl, hl, hg, hu₀, hu⟩
  · exact ⟨.alone t, .alone hl⟩
  obtain ⟨s, v, rfl⟩ := List.exists_cons_of_ne_nil hu₀
  by_cases hm : ∃ m : Marker, s = m.symbol
  · obtain ⟨m, rfl⟩ := hm
    refine ⟨.command l m v, .command hl hg fun c hc => (Text.trimmed_iff.mp hu).2 c ?_⟩
    rw [List.getLast?_cons, Option.mem_def.mp hc]
    rfl
  · obtain ⟨ws, hws⟩ := Text.exists_spaced hu₀ hu
    refine ⟨.listed l ws, .listed hl hg hws fun w hw m hs => hm ⟨m, ?_⟩⟩
    obtain ⟨w', hw', c, hc, hsc⟩ := hws.head?
    cases hw.symm.trans hw'
    cases hsc
    exact Option.some.inj (hc.symm.trans hs)

/-- The code of a command does not end in a blank. -/
theorem request_code {raw code : Text} {m : Marker} (h : (ofText raw).request = m.request code) :
    ∀ s ∈ code.getLast?, s.isBlank = false := by
  obtain ⟨f, hf⟩ := exists_writes (Text.trim_trim raw)
  rw [ofText_of_writes hf] at h
  generalize raw.trim = t at hf
  cases hf with
  | blank | alone | listed => cases m <;> cases h
  | @command l gap code' m' hl hg hc => cases m <;> cases m' <;> cases h <;> exact hc

/-- Every text is a tag of exactly one form, and is read as that form says. -/
theorem forms_read (raw : Text) : (∃! f, HasForm raw f) ∧ ∀ f, HasForm raw f → ofText raw = f.tag := by
  have hread : ∀ f, HasForm raw f → ofText raw = f.tag := fun f hf => ofText_of_writes hf.trim
  have hform : ∀ f, HasForm raw f → f = Form.ofTag (ofText raw) := fun f hf => by
    rw [hread f hf, hf.trim.ofTag_tag]
  obtain ⟨f, hf⟩ := exists_writes (Text.trim_trim raw)
  obtain ⟨a, b, hraw, ha, hb⟩ := Text.exists_trim raw
  have hraw : HasForm raw f := ⟨a, raw.trim, b, hraw, ha, hf, hb⟩
  exact ⟨⟨f, hraw, fun g hg => (hform g hg).trans (hform f hraw).symm⟩, hread⟩

/-- A language that begins with a mark, and a command that goes on over lines and holds further marks. -/
theorem forms_read_command :
    HasForm " !a\t\u00a0| b\n  !c | d\n" (.command "!a" .run " b\n  !c | d") ∧
    ofText " !a\t\u00a0| b\n  !c | d\n" = { language := "!a", request := .run " b\n  !c | d" } := by
  have h : HasForm " !a\t\u00a0| b\n  !c | d\n" (.command "!a" .run " b\n  !c | d") := by
    refine ⟨" ", "!a" ++ "\t\u00a0" ++ Marker.run.symbol :: (" b\n  !c | d" : Text), "\n", by decide, rfl, ?_, rfl⟩
    exact .command (by decide) (by decide) (by decide)
  exact ⟨h, (forms_read _).2 _ h⟩

/-- A mark in the third word is no command. -/
example : ofText "a b |x" = { language := "a", request := .plain ["b", "|x"] } := by decide

end Tag
end Tangle
