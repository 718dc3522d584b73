import Tangle.Proofs.HookFile.Schema
import Tangle.Proofs.Pass.Failure
import Tangle.Proofs.Session.Bindings
import Tangle.Proofs.Session.Script

/-! # Accepted hook files

The bindings of an accepted hook file are closed: its hooks call functions that it has the sources of, and
each source defines the function of its name. So a session over them starts, whatever names hooks have, and
its first script defines every function that a hook calls. -/
namespace Tangle

/-- The function of the shell that a handler calls. -/
def Handler.function? : Handler → Option Text
  | .compiler (.shell n) | .misc (.shell n) | .file (.shell n) => some n
  | .template _ | .compiler (.host _) | .compiler .evaluate | .misc (.host _) | .file (.host _) => none

theorem Slot.function?_of_handler {slot : Slot} {name source n : Text} {v : Handler}
    (h : slot.handler name source = .ok v) (hv : v.function? = some n) : n = name := by
  cases slot with
  | template l | after l =>
    obtain ⟨t, -, rfl⟩ := map_eq_ok.mp h
    cases hv
  | compiler l | misc | fileHeader | fileFooter =>
    cases h
    exact (Option.some.inj hv).symm

namespace Bindings

/-- Some hook calls the function of a name. -/
def Calls (b : Bindings) (name : Text) : Prop :=
  ∃ slot v, b.handler? slot = some v ∧ v.function? = some name

/-- Every function that a hook calls has a source, and every source defines the function of its name. -/
structure IsClosed (b : Bindings) : Prop where
  called : ∀ name, b.Calls name → ∃ source, b.functions.get? name = some source
  defined : ∀ name source, b.functions.get? name = some source → definedName source = .ok name

end Bindings

namespace Session
variable {b : Bindings} {s : Session}

/-- A session over closed bindings starts, and holds the functions of the bindings. -/
theorem exists_start (hb : b.IsClosed) (site : Site) (settings : Settings) (path : List Text) :
    ∃ s, start site settings path b = .ok s ∧ s.Overlaid ∧ s.base = b ∧ s.site = site ∧
      s.searchPath = path ∧ s.functions = b.functions := by
  have hd : Defines b.functions := fun name source hs => by
    obtain ⟨d, hd, -⟩ := map_eq_ok.mp (hb.defined name source hs)
    exact ⟨d, hd⟩
  obtain ⟨s, hs⟩ := exists_harvest
    (s := { site, settings, searchPath := path, base := b, bindings := b, functions := b.functions }) hd
  obtain ⟨ho, b', slots, rfl⟩ := harvest_ok hs ⟨fun _ _ => rfl, rfl, rfl⟩
  exact ⟨_, hs, ho, rfl, rfl, rfl, rfl⟩

/-- A hook in effect calls a function of the table, or it is a hook of the base. -/
theorem Overlaid.calls (hs : s.Overlaid) {name : Text} (hc : s.bindings.Calls name) :
    (∃ source, s.functions.get? name = some source) ∨ s.base.Calls name := by
  obtain ⟨slot, v, hv, hn⟩ := hc
  rw [hs.overlay] at hv
  rcases Option.or_eq_some_iff.mp hv with hv | ⟨-, hv⟩
  · obtain ⟨n, -, hv⟩ := Option.bind_eq_some_iff.mp hv
    obtain ⟨source, hg, hv⟩ := Option.bind_eq_some_iff.mp hv
    have ho : slot.handler n source = .ok v := by
      cases hh : slot.handler n source with
      | ok w =>
        rw [hh] at hv
        exact congrArg _ (Option.some.inj hv)
      | error e =>
        rw [hh] at hv
        cases hv
    obtain rfl := Slot.function?_of_handler ho hn
    exact .inl ⟨source, hg⟩
  · exact .inr ⟨slot, v, hv, hn⟩

/-- To install hooks that call no function adds no calls. -/
theorem calls_of_install {hooks : List (Text × CompileHook)}
    (hh : ∀ h ∈ hooks, (Handler.compiler h.2).function? = none) {name : Text}
    (hc : (s.install hooks).bindings.Calls name) : s.bindings.Calls name := by
  obtain ⟨slot, v, hv, hn⟩ := hc
  rw [install_eq, Bindings.handler?_withDefaults] at hv
  rcases Option.or_eq_some_iff.mp hv with hv | ⟨-, hv⟩
  · exact ⟨slot, v, hv, hn⟩
  · cases slot with
    | compiler l =>
      obtain ⟨c, hd, rfl⟩ := Option.map_eq_some_iff.mp hv
      obtain ⟨h, hm, rfl⟩ := Option.map_eq_some_iff.mp hd
      rw [hh h (List.mem_of_find?_eq_some hm)] at hn
      cases hn
    | template | after | misc | fileHeader | fileFooter => cases hv

/-- Over closed bindings, each function that a hook in effect calls is one of theirs. -/
theorem exists_source (hb : b.IsClosed) (hs : s.Overlaid) (hbase : s.base = b) (hf : s.functions = b.functions)
    {hooks : List (Text × CompileHook)} (hh : ∀ h ∈ hooks, (Handler.compiler h.2).function? = none)
    {name : Text} (hn : b.Calls name ∨ (s.install hooks).bindings.Calls name) :
    ∃ source, b.functions.get? name = some source := by
  rcases hn with hn | hn
  · exact hb.called name hn
  · rcases hs.calls (calls_of_install hh hn) with hn | hn
    · rwa [hf] at hn
    · exact hb.called name (hbase ▸ hn)

/-- Over closed bindings, the script of a session that has had no run defines each function that a hook
calls. -/
theorem exists_script (hb : b.IsClosed) (hs : s.Overlaid) (hbase : s.base = b) (hf : s.functions = b.functions)
    {hooks : List (Text × CompileHook)} (hh : ∀ h ∈ hooks, (Handler.compiler h.2).function? = none)
    {codeFile : Text} {args : List Text} (hq : s.Quotable codeFile args) :
    ∃ t, (s.install hooks).script codeFile args = .ok t ∧
      ∀ name, b.Calls name ∨ (s.install hooks).bindings.Calls name →
        ∃ source before behind code, b.functions.get? name = some source ∧
          definedName source = .ok name ∧ t = Text.unlines (before ++ source :: behind ++ scriptTail code) := by
  have hq' : (s.install hooks).Quotable codeFile args := by
    rw [install_eq]
    exact ⟨hq.directory, hq.searchPath, hq.codeFile, hq.args⟩
  have ht := script_eq_ok.mpr ⟨hq', rfl⟩
  refine ⟨_, ht, fun name hn => ?_⟩
  obtain ⟨source, hsource⟩ := exists_source hb hs hbase hf hh hn
  have hdefined := hb.defined name source hsource
  have hne : source ≠ [] := by
    rintro rfl
    cases hdefined
  have hv : source ∈ (s.install hooks).bindings.functions.values := by
    rw [install_eq]
    show source ∈ s.bindings.functions.values
    rw [hs.functions, hbase]
    exact List.mem_map.mpr ⟨_, Table.get?_eq_some_iff.mp hsource, rfl⟩
  obtain ⟨before, behind, code, hlines⟩ := script_defines ht hv hne
  exact ⟨source, before, behind, code, hsource, hdefined, hlines⟩

end Session

namespace HookFile
open Yaml (Document)

/-- A handler made of the name that a key gives calls a function of the file. -/
theorem IsHook.contains {config : Entries} {functions : Table Text} {key name : Text} {n : Option Text}
    (h : IsHook config functions key n) {α : Type} {f : Text → α} {g : α → Handler}
    (hg : ∀ m, (g (f m)).function? = some m) {v : Handler} (hv : (n.map f).map g = some v)
    (hn : v.function? = some name) : functions.contains name = true := by
  cases h with
  | absent => cases hv
  | named _ hm =>
    cases hv
    exact Option.some.inj ((hg _).symm.trans hn) ▸ hm

section
variable {path : Text} {d : Document} {config : Entries} {b : Bindings}

namespace Parts
variable {p : Parts}

/-- The hooks of the parts that a file gives call functions of its own. -/
theorem Fits.contains (hp : p.Fits d config) {name : Text} (hc : (p.bindings path).Calls name) :
    p.functions.contains name = true := by
  obtain ⟨slot, v, hv, hn⟩ := hc
  cases slot with
  | template l | after l =>
    obtain ⟨t, -, rfl⟩ := Option.map_eq_some_iff.mp hv
    cases hn
  | compiler l =>
    obtain ⟨c, hg, rfl⟩ := Option.map_eq_some_iff.mp hv
    obtain ⟨n, hn', rfl⟩ := Option.map_eq_some_iff.mp ((Table.get?_map p.compilers _ l).symm.trans hg)
    cases hn
    exact hp.compiled _ (Table.get?_eq_some_iff.mp hn')
  | misc => exact hp.misc.contains (fun _ => rfl) hv hn
  | fileHeader => exact hp.fileHeader.contains (fun _ => rfl) hv hn
  | fileFooter => exact hp.fileFooter.contains (fun _ => rfl) hv hn

theorem Fits.isClosed (hp : p.Fits d config) : (p.bindings path).IsClosed where
  called _ hc := Option.isSome_iff_exists.mp (hp.contains hc)
  defined := hp.defined

theorem returnsText (p : Parts) (path : Text) : (p.bindings path).ReturnsText := by
  refine ⟨fun run hr => ?_, fun v hv => ?_, fun v hv => ?_⟩
  · obtain ⟨n, -, hr⟩ := Option.map_eq_some_iff.mp hr
    cases hr
  · obtain ⟨n, -, hv⟩ := Option.map_eq_some_iff.mp hv
    cases hv
  · obtain ⟨n, -, hv⟩ := Option.map_eq_some_iff.mp hv
    cases hv

end Parts

/-- The bindings of an accepted hook file are closed. -/
theorem bindings_isClosed (h : bindings path d config = .ok b) : b.IsClosed := by
  obtain ⟨p, hp, rfl⟩ := bindings_eq_ok.mp h
  exact hp.isClosed

/-- The hooks of an accepted hook file are shell functions, which return texts. -/
theorem bindings_returnsText (h : bindings path d config = .ok b) : b.ReturnsText := by
  obtain ⟨p, -, rfl⟩ := bindings_eq_ok.mp h
  exact p.returnsText path

theorem loadWith_ok {parse : Parser} {t : Tree} {cwd : Place} {p : Path} (h : loadWith parse t cwd p = .ok b) :
    ∃ path d config, bindings path d config = .ok b := by
  rw [loadWith] at h
  split at h
  · cases h
  split at h
  · cases h
  · obtain ⟨config, -, h⟩ := bind_eq_ok.mp h
    exact ⟨_, _, _, h⟩

/-- The functions of an accepted hook file define themselves, and its hooks call functions of its own. So a
session over it starts, whatever hooks are called, and has a first script that defines each function which a
hook calls. -/
theorem accepted_usable (h : bindings path d config = .ok b) :
    b.IsClosed ∧ ∀ (site : Site) (settings : Settings) (searchPath : List Text),
      ∃ s, Session.start site settings searchPath b = .ok s ∧
        ∀ hooks : List (Text × CompileHook), (∀ h ∈ hooks, (Handler.compiler h.2).function? = none) →
          ∀ codeFile args, Symbol.nul ∉ site.directory → (∀ p ∈ searchPath, Symbol.nul ∉ p) →
            Symbol.nul ∉ codeFile → (∀ a ∈ args, Symbol.nul ∉ a) →
            ∃ t, (s.install hooks).script codeFile args = .ok t ∧
              ∀ name, b.Calls name ∨ (s.install hooks).bindings.Calls name →
                ∃ source before behind code, b.functions.get? name = some source ∧
                  definedName source = .ok name ∧
                  t = Text.unlines (before ++ source :: behind ++ Session.scriptTail code) := by
  have hb := bindings_isClosed h
  refine ⟨hb, fun site settings searchPath => ?_⟩
  obtain ⟨s, hs, ho, hbase, rfl, rfl, hf⟩ := Session.exists_start hb site settings searchPath
  exact ⟨s, hs, fun hooks hh codeFile args hd hp hc ha =>
    Session.exists_script hb ho hbase hf hh ⟨hd, hp, hc, ha⟩⟩

end

/-- A file with a hook for a language whose name is no text. -/
def truthKeyed : Document where
  root := .map 0
  contents := [
    (0, .entries [(.text "functions", .map 1), (.text "compilers", .map 2), (.text "misc", .text "fill")]),
    (1, .entries [(.text "mdsh-lang-awk", .text "mdsh-lang-awk() \x7b gawk; \x7d"),
      (.text "fill", .text "function fill \x7b cat; \x7d")]),
    (2, .entries [(.bool true, .text "fill")])]

theorem accepted_usable_called : ∃ b s t,
    bindings "hooks.yml" truthKeyed (truthKeyed.entries 0) = .ok b ∧ b.Calls "fill" ∧
    Session.start ⟨"/tmp", "mdsh"⟩ {} ["lib"] b = .ok s ∧
    (s.install builtinHooks).script "/tmp/code-1.bash" ["it's"] = .ok t ∧
    ∃ source before behind code, b.functions.get? "fill" = some source ∧
      t = Text.unlines (before ++ source :: behind ++ Session.scriptTail code) := by
  have h : ∃ b, bindings "hooks.yml" truthKeyed (truthKeyed.entries 0) = .ok b ∧
      b.misc = some (.shell "fill") := ⟨_, rfl, rfl⟩
  obtain ⟨b, hb, hm⟩ := h
  have hc : b.Calls "fill" := ⟨.misc, .misc (.shell "fill"), by rw [Bindings.handler?, hm]; rfl, rfl⟩
  obtain ⟨-, hs⟩ := accepted_usable hb
  obtain ⟨s, hs, ht⟩ := hs ⟨"/tmp", "mdsh"⟩ {} ["lib"]
  obtain ⟨t, ht, hd⟩ := ht builtinHooks (by decide) "/tmp/code-1.bash" ["it's"] (by decide) (by decide)
    (by decide) (by decide)
  obtain ⟨source, before, behind, code, hg, -, he⟩ := hd "fill" (.inl hc)
  exact ⟨b, s, t, hb, hc, hs, ht, source, before, behind, code, hg, he⟩

end HookFile
end Tangle
