import Tangle.Proofs.Definition.Layout
import Tangle.Proofs.Session.Bindings

/-! # Balanced bodies

A delimiter is closed by the one behind the shortest balanced text. A definition is read up to its last
closing delimiter, and that is the one which closes its body exactly if none stands in the trailer; else the
body, and the template made of it, goes on into the trailer. -/
namespace Tangle

namespace Enclosure

/-- Each opening delimiter is closed by a later one, and each closing one closes one. -/
inductive Balanced (e : Enclosure) : Text → Prop
  | nil : Balanced e []
  | cons {s : Symbol} {t : Text} (ho : s ≠ e.opener) (hc : s ≠ e.closer) (ht : Balanced e t) : Balanced e (s :: t)
  | group {a b : Text} (ha : Balanced e a) (hb : Balanced e b) : Balanced e (e.opener :: a ++ e.closer :: b)

/-- The delimiter at `j` closes the one at `i`. -/
def Matches (e : Enclosure) (source : Text) (i j : Nat) : Prop :=
  ∃ a b c, source = a ++ e.opener :: b ++ e.closer :: c ∧ e.Balanced b ∧ i = a.length ∧
    j = a.length + 1 + b.length

variable {e : Enclosure} {t : Text}

theorem closer_ne_opener (e : Enclosure) : e.closer ≠ e.opener := by
  cases e <;> decide

theorem balanced_of_free (ho : e.opener ∉ t) (hc : e.closer ∉ t) : e.Balanced t := by
  induction t with
  | nil => exact .nil
  | cons s t ih =>
    obtain ⟨hos, hot⟩ := not_or.mp (mt List.mem_cons.mpr ho)
    obtain ⟨hcs, hct⟩ := not_or.mp (mt List.mem_cons.mpr hc)
    exact .cons (Ne.symm hos) (Ne.symm hcs) (ih hot hct)

theorem Balanced.append {u : Text} (ht : e.Balanced t) (hu : e.Balanced u) : e.Balanced (t ++ u) := by
  induction ht with
  | nil => exact hu
  | cons ho hc _ ih => exact .cons ho hc ih
  | @group a b ha _ _ ih =>
    rw [List.append_assoc, List.cons_append]
    exact .group ha ih

theorem Balanced.count_eq (ht : e.Balanced t) : t.count e.closer = t.count e.opener := by
  have hne := e.closer_ne_opener
  induction ht with
  | nil => rfl
  | cons ho hc _ ih => rw [List.count_cons_of_ne hc, List.count_cons_of_ne ho, ih]
  | group _ _ iha ihb =>
    simp only [List.count_append, List.cons_append, List.count_cons_self, List.count_cons_of_ne hne,
      List.count_cons_of_ne hne.symm, iha, ihb]
    omega

/-- No text that starts a balanced one closes more than it opens. -/
theorem Balanced.count_le (ht : e.Balanced t) {p : Text} (hp : p <+: t) :
    p.count e.closer ≤ p.count e.opener := by
  have hne := e.closer_ne_opener
  induction ht generalizing p with
  | nil => simp [List.prefix_nil.mp hp]
  | cons ho hc _ ih =>
    rcases List.prefix_cons_iff.mp hp with rfl | ⟨q, rfl, hq⟩
    · exact Nat.le_refl _
    · rw [List.count_cons_of_ne hc, List.count_cons_of_ne ho]
      exact ih hq
  | @group a b ha _ iha ihb =>
    rcases List.prefix_cons_iff.mp hp with rfl | ⟨q, rfl, hq⟩
    · exact Nat.le_refl _
    rw [List.count_cons_of_ne hne.symm, List.count_cons_self]
    obtain ⟨u, hu⟩ := hq
    rcases List.append_eq_append_iff.mp hu with ⟨r, rfl, -⟩ | ⟨r, rfl, hr⟩
    · exact Nat.le_succ_of_le (iha ⟨r, rfl⟩)
    have hab := ha.count_eq
    rcases List.prefix_cons_iff.mp ⟨u, hr.symm⟩ with rfl | ⟨s, rfl, hs⟩
    · simp only [List.append_nil]
      omega
    · have hbs := ihb hs
      simp only [List.count_append, List.count_cons_self, List.count_cons_of_ne hne]
      omega

/-- A balanced text ends before the first delimiter that closes none of its own. -/
theorem Balanced.unique {a b c d : Text} (ha : e.Balanced a) (hb : e.Balanced b)
    (h : a ++ e.closer :: c = b ++ e.closer :: d) : a = b := by
  -- The longer text would start with the shorter one and its closing delimiter, one too many.
  have hlonger : ∀ {a b c d : Text}, e.Balanced a → e.Balanced b →
      ∀ r, b = a ++ r → e.closer :: c = r ++ e.closer :: d → r = [] := by
    intro a b c d ha hb r hr hcd
    cases r with
    | nil => rfl
    | cons s r =>
      obtain ⟨rfl, -⟩ := List.cons.inj hcd
      have hle := hb.count_le (p := a ++ [e.closer]) ⟨r, by simp [hr]⟩
      have heq := ha.count_eq
      simp only [List.count_append, List.count_cons_self, List.count_cons_of_ne e.closer_ne_opener,
        List.count_nil] at hle
      omega
  rcases List.append_eq_append_iff.mp h with ⟨r, hr, hcd⟩ | ⟨r, hr, hcd⟩
  · rw [hr, hlonger ha hb r hr hcd, List.append_nil]
  · rw [hr, hlonger hb ha r hr hcd, List.append_nil]

theorem matches_iff {a b c : Text} (hb : e.Balanced b) {j : Nat} :
    e.Matches (a ++ e.opener :: b ++ e.closer :: c) a.length j ↔ j = a.length + 1 + b.length := by
  constructor
  · rintro ⟨a', b', c', hs, hb', ha, rfl⟩
    simp only [List.append_assoc, List.cons_append] at hs
    obtain ⟨rfl, ht⟩ := List.append_inj hs ha
    rw [hb.unique hb' (List.cons.inj ht).2]
  · rintro rfl
    exact ⟨a, b, c, rfl, hb, rfl, rfl⟩

end Enclosure

namespace Text

theorem count_trim {c : Symbol} (hc : c.isBlank = false) (t : Text) : t.trim.count c = t.count c := by
  have hd : ∀ u : Text, (u.dropWhile Symbol.isBlank).count c = u.count c := by
    intro u
    have hn : c ∉ u.takeWhile Symbol.isBlank := fun hm => by
      rw [List.mem_takeWhile_imp hm] at hc
      cases hc
    conv_rhs => rw [← List.takeWhile_append_dropWhile (p := Symbol.isBlank) (l := u), List.count_append,
      List.count_eq_zero.mpr hn, Nat.zero_add]
  rw [trim, trimBy, trimEndBy, List.count_reverse, hd, List.count_reverse, trimStartBy, hd]

end Text

namespace Session

/-- The template of a hook function in the table is made of its body. -/
theorem Overlaid.get?_templates {s : Session} (hs : s.Overlaid) {language source : Text} (hl : language ≠ [])
    (hf : s.functions.get? (s.settings.hookName "lang" language) = some source) {d : Definition}
    (hd : Definition.read source = .ok d) :
    s.bindings.templates.get? language = some ⟨d.bodyText, s.settings.hookName "lang" language⟩ := by
  have h := hs.overlay (.template language)
  rw [hook?, Slot.functionName?, if_neg hl, Option.bind_some, hf, Option.bind_some, Slot.handler,
    Slot.templateOf, hd] at h
  cases ht : s.bindings.templates.get? language with
  | none =>
    rw [Bindings.handler?, ht] at h
    cases h
  | some t =>
    rw [Bindings.handler?, ht] at h
    cases h
    rfl

/-- After any steps of a session, the template of a hook function in the table is made of its body. -/
theorem get?_templates_of_run {site : Site} {settings : Settings} {path : List Text} {caller : Bindings}
    {s₀ s : Session} {steps : List Step} (hstart : start site settings path caller = .ok s₀)
    (hrun : steps.foldlM perform s₀ = .ok s) {language source : Text} (hl : language ≠ [])
    (hf : s.functions.get? (settings.hookName "lang" language) = some source) {d : Definition}
    (hd : Definition.read source = .ok d) :
    s.bindings.templates.get? language = some ⟨d.bodyText, settings.hookName "lang" language⟩ := by
  obtain ⟨ho, -, hset₀⟩ := start_ok hstart
  obtain ⟨s', hrun', hs, -, hset⟩ := run_ok ho steps
  obtain rfl := Except.ok.inj (hrun.symm.trans hrun')
  rw [← hset₀, ← hset] at hf ⊢
  exact hs.get?_templates hl hf hd

end Session

namespace Definition

/-- A definition in braces is read up to the last closing brace, which may stand in the trailer. -/
theorem read_braces {h : Header} (hh : h.IsWellFormed) (hm : h.isMarked = true) (raw trailer : Text) :
    ∃ d, read (h.text ++ Enclosure.braces.opener :: raw ++ Enclosure.braces.closer :: trailer) = .ok d ∧
      d.name = h.name ∧ d.openIndex = h.text.length ∧
      (Enclosure.braces.closer ∉ trailer ∧ d.body = raw ∨ ∃ t₁ t₂, Enclosure.braces.closer ∉ t₂ ∧
        trailer = t₁ ++ Enclosure.braces.closer :: t₂ ∧ d.body = raw ++ Enclosure.braces.closer :: t₁) := by
  have hread : ∀ body t : Text, Enclosure.braces.closer ∉ t → ∃ d,
      read (h.text ++ Enclosure.braces.opener :: body ++ Enclosure.braces.closer :: t) = .ok d ∧
        d.name = h.name ∧ d.openIndex = h.text.length ∧ d.body = body := by
    intro body t ht
    have hd : (⟨h, .braces, body, t⟩ : Definition).IsWellFormed :=
      ⟨hh, hm, fun _ ⟨_, _, _, he⟩ => (nomatch he), ht⟩
    exact ⟨_, hd.read_text, h.normal_name, congrArg List.length h.normal_text, rfl⟩
  cases hs : splitLast? Enclosure.braces.closer trailer with
  | none =>
    have ht := splitLast?_eq_none_iff.mp hs
    obtain ⟨d, hd, hname, hopen, hbody⟩ := hread raw trailer ht
    exact ⟨d, hd, hname, hopen, .inl ⟨ht, hbody⟩⟩
  | some p =>
    obtain ⟨t₁, t₂⟩ := p
    obtain ⟨rfl, ht⟩ := splitLast?_eq_some_iff.mp hs
    obtain ⟨d, hd, hname, hopen, hbody⟩ := hread (raw ++ Enclosure.braces.closer :: t₁) t₂ ht
    refine ⟨d, ?_, hname, hopen, .inr ⟨t₁, t₂, ht, rfl, hbody⟩⟩
    simpa only [List.append_assoc, List.cons_append] using hd

theorem trim_append_closer_ne (raw t : Text) :
    (raw ++ Enclosure.braces.closer :: t).trim ≠ raw.trim := by
  intro h
  have hcount := congrArg (List.count Enclosure.braces.closer) h
  have hblank : Enclosure.braces.closer.isBlank = false := by decide
  rw [Text.count_trim hblank, Text.count_trim hblank, List.count_append, List.count_cons_self] at hcount
  omega

/-- A definition with a balanced body in braces: the closing brace that is found closes the body, and the
template that is harvested has the text of the body, exactly if no other closing brace follows. -/
theorem closes_at_last {h : Header} (hh : h.IsWellFormed) (hm : h.isMarked = true) {raw : Text}
    (hr : Enclosure.braces.Balanced raw) (trailer : Text) :
    let source := h.text ++ Enclosure.braces.opener :: raw ++ Enclosure.braces.closer :: trailer
    ∃ d, read source = .ok d ∧ d.name = h.name ∧ d.openIndex = h.text.length ∧
      (∀ j, Enclosure.braces.Matches source d.openIndex j ↔ j = d.openIndex + 1 + raw.length) ∧
      (Enclosure.braces.Matches source d.openIndex d.closeIndex ↔ Enclosure.braces.closer ∉ trailer) ∧
      (d.bodyText = raw.trim ↔ Enclosure.braces.closer ∉ trailer) ∧
      (∀ t₁ t₂, trailer = t₁ ++ Enclosure.braces.closer :: t₂ → Enclosure.braces.closer ∉ t₂ →
        d.body = raw ++ Enclosure.braces.closer :: t₁) ∧
      ∀ (site : Site) (settings : Settings) (path : List Text) (caller : Bindings) (s₀ s : Session)
        (steps : List Session.Step) (language : Text),
        Session.start site settings path caller = .ok s₀ → steps.foldlM Session.perform s₀ = .ok s →
        language ≠ [] → s.functions.get? (settings.hookName "lang" language) = some source →
        s.bindings.templates.get? language = some ⟨d.bodyText, settings.hookName "lang" language⟩ := by
  intro source
  obtain ⟨d, hd, hname, hopen, hbody⟩ := read_braces hh hm raw trailer
  have hmatches : ∀ j, Enclosure.braces.Matches source d.openIndex j ↔ j = d.openIndex + 1 + raw.length := by
    intro j
    rw [hopen]
    exact Enclosure.matches_iff hr
  refine ⟨d, hd, hname, hopen, hmatches, ?_, ?_, ?_, fun _ _ _ _ _ _ _ _ hstart hrun hl hf =>
    Session.get?_templates_of_run hstart hrun hl hf hd⟩
  · rw [hmatches, closeIndex]
    rcases hbody with ⟨hn, hb⟩ | ⟨t₁, t₂, -, rfl, hb⟩
    · simp [hb, hn]
    · simp [hb]
  · rw [bodyText]
    rcases hbody with ⟨hn, hb⟩ | ⟨t₁, t₂, -, rfl, hb⟩
    · simp [hb, hn]
    · simp [hb, trim_append_closer_ne]
  · intro t₁ t₂ ht hn
    rcases hbody with ⟨hn', -⟩ | ⟨u₁, u₂, hn', ht', hb⟩
    · simp [ht] at hn'
    · have h := (splitLast?_eq_some_iff.mpr ⟨ht, hn⟩).symm.trans (splitLast?_eq_some_iff.mpr ⟨ht', hn'⟩)
      cases h
      exact hb

/-- The header of a hook function as a shell writes it. -/
def hookHeader : Header := ⟨[], none, "mdsh-lang-awk", " ", some [], " \n"⟩

theorem hookHeader_isWellFormed : hookHeader.IsWellFormed :=
  ⟨by decide, nofun, by decide, by decide, by decide, by rintro b ⟨⟩; decide, by decide⟩

/-- The dump of a shell that knows one function. -/
def dumpOf (source : Text) : Dump := .files [] [] (source ++ [Symbol.nul]).encode

/-- A hook function whose body holds braces, with a trailer without any. -/
theorem closes_at_last_redirected :
    let raw : Text := " \n    gawk \"$\x7bX\x7d\"\n"
    let source := hookHeader.text ++ Enclosure.braces.opener :: raw ++ Enclosure.braces.closer :: " > out"
    ∃ (d : Definition) (s : Session), read source = .ok d ∧
      Enclosure.braces.Matches source d.openIndex d.closeIndex ∧
      s.functions.get? "mdsh-lang-awk" = some source ∧
      s.bindings.templates.get? "awk" = some ⟨"gawk \"$\x7bX\x7d\"", "mdsh-lang-awk"⟩ := by
  intro raw source
  have hraw : Enclosure.braces.Balanced raw :=
    (Enclosure.balanced_of_free (by decide) (by decide) : Enclosure.braces.Balanced " \n    gawk \"$").append
      (.group (a := "X") (Enclosure.balanced_of_free (by decide) (by decide))
        (Enclosure.balanced_of_free (by decide) (by decide) : Enclosure.braces.Balanced "\"\n"))
  obtain ⟨d, hd, -, -, -, hclose, hbody, -, htemplate⟩ :=
    closes_at_last hookHeader_isWellFormed rfl hraw " > out"
  have hload : ((Session.start ⟨"/tmp", "mdsh"⟩ {} [] {}).bind fun s =>
      ([Session.Step.load (dumpOf source) {}].foldlM Session.perform s).map
        fun s => s.functions.get? "mdsh-lang-awk") = .ok (some source) := by decide +kernel
  cases hstart : Session.start ⟨"/tmp", "mdsh"⟩ {} [] {} with
  | error f =>
    rw [hstart] at hload
    cases hload
  | ok s₀ =>
    simp only [hstart, Except.bind] at hload
    cases hrun : [Session.Step.load (dumpOf source) {}].foldlM Session.perform s₀ with
    | error f =>
      rw [hrun] at hload
      cases hload
    | ok s =>
      rw [hrun] at hload
      have hf : s.functions.get? "mdsh-lang-awk" = some source := Except.ok.inj hload
      have ht := htemplate _ _ _ _ _ _ _ "awk" hstart hrun (by decide) hf
      refine ⟨d, s, hd, hclose.mpr (by decide), hf, ht.trans ?_⟩
      rw [hbody.mpr (by decide)]
      rfl

/-- A hook function with a redirection to a file whose name is in a variable: the brace of the variable is
found in place of the one that closes the body, and what is harvested goes on into the redirection. -/
theorem body_in_trailer :
    let raw : Text := " \n    gawk\n"
    let trailer : Text := " > \"$\x7bLOG\x7d\""
    let source := hookHeader.text ++ Enclosure.braces.opener :: raw ++ Enclosure.braces.closer :: trailer
    hookHeader.IsWellFormed ∧ Enclosure.braces.Balanced raw ∧ Enclosure.braces.Balanced trailer ∧
    Enclosure.braces.Matches source 18 30 ∧
    (read source).map (fun d => (d.openIndex, d.closeIndex)) = .ok (18, 40) ∧
    ((Session.start ⟨"/tmp", "mdsh"⟩ {} [] {}).bind fun s =>
      ([Session.Step.load (dumpOf source) {}].foldlM Session.perform s).map fun s =>
        s.bindings.templates.get? "awk") = .ok (some ⟨"gawk\n\x7d > \"$\x7bLOG", "mdsh-lang-awk"⟩) := by
  intro raw trailer source
  have hraw : Enclosure.braces.Balanced raw := Enclosure.balanced_of_free (by decide) (by decide)
  have htrailer : Enclosure.braces.Balanced trailer :=
    (Enclosure.balanced_of_free (by decide) (by decide) : Enclosure.braces.Balanced " > \"$").append
      (.group (a := "LOG") (Enclosure.balanced_of_free (by decide) (by decide))
        (Enclosure.balanced_of_free (by decide) (by decide) : Enclosure.braces.Balanced "\""))
  exact ⟨hookHeader_isWellFormed, hraw, htrailer, ⟨hookHeader.text, raw, trailer, rfl, hraw, rfl, rfl⟩,
    by decide +kernel, by decide +kernel⟩

end Definition
end Tangle
