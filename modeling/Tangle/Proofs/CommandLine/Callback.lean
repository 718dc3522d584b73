import Tangle.CommandLine.Callback
import Tangle.Text.LetterCase
import Tangle.Proofs.Embedding
import Tangle.Proofs.Session.Script
import Tangle.Proofs.Text.Blank

/-! # Modules that are embedded through the callback command

The command that a session calls for its modules finds them where the session would find them itself: the
search path that is written into a script comes back as the directories of the command. All of the modules are
written, or none of them. -/
namespace Tangle

namespace Settings

theorem directories_join {ds : List Text} (h : ∀ d ∈ ds, Symbol.char ':' ∉ d) :
    directories (Text.join ":" ds) = ds.filter (!·.isEmpty) := by
  by_cases hs : ds = []
  · subst hs
    rfl
  · rw [directories, show (":" : Text) = [Symbol.char ':'] from rfl, Text.pieces_join hs h]

/-- Directories that are joined and cut again are the same ones. -/
theorem directories_directories (path : Text) : directories (Text.join ":" (directories path)) = directories path := by
  have hfree : ∀ d ∈ directories path, Symbol.char ':' ∉ d :=
    fun d hd => Text.free_of_mem_pieces (List.mem_filter.mp hd).1
  rw [directories_join hfree, directories, List.filter_filter]
  simp only [Bool.and_self]

theorem searchPath_searchPath (s : Settings) (commandPath : Text) (explicit : Option Text) :
    s.searchPath commandPath (some (Text.join ":" (s.searchPath commandPath explicit))) =
      s.searchPath commandPath explicit :=
  directories_directories _

end Settings

namespace CommandLine

section Grammar
variable {g : Grammar} {p : Positional} {a : Text} {arguments : List Text}

/-- An argument that is not taken for an option, whatever options there are. -/
def IsOperand (a : Text) : Prop := a.head?.any isDash = false

instance : Decidable (IsOperand a) := inferInstanceAs (Decidable (_ = _))

theorem IsOperand.ne_divider (h : IsOperand a) : a ≠ ("--" : Text) := by
  rintro rfl
  exact absurd h (by decide)

theorem marks_operands (g : Grammar) (h : ∀ a ∈ arguments, IsOperand a) :
    g.marks arguments = .ok (arguments.map (·, .argument)) := by
  induction arguments with
  | nil => rfl
  | cons a as ih =>
    obtain ⟨ha, has⟩ := List.forall_mem_cons.mp h
    have hm : g.mark a = .ok .argument := by rw [Grammar.mark, ha]; rfl
    rw [Grammar.marks, if_neg ha.ne_divider, hm, ih has]
    rfl

theorem isFlag_argument (a : Text) : Reading.isFlag (a, .argument) = false := rfl

theorem take_operands (ha : p.arity = .many ∨ p.arity = .rest) (hne : arguments ≠ []) :
    Reading.take p.arity (arguments.map (·, .argument)) = some (arguments.map (·, .argument), []) := by
  obtain ⟨a, as, rfl⟩ := List.exists_cons_of_ne_nil hne
  have hm : Reading.isArgument (a, .argument) = true := rfl
  have hspan : ((a, Mark.argument) :: as.map (·, Mark.argument)).span Reading.isDivider =
      ([], (a, .argument) :: as.map (·, Mark.argument)) := rfl
  have hall : (as.map (·, Mark.argument)).span (!Reading.isFlag ·) = (as.map (·, Mark.argument), []) := by
    simp [List.span_eq_takeWhile_dropWhile, isFlag_argument]
  rcases ha with ha | ha
  · simp only [Reading.take, hspan, ha, List.map_cons, hm, if_true, hall, List.nil_append]
  · simp only [Reading.take, hspan, ha, List.map_cons, hm, if_true, List.nil_append]

/-- Arguments that are no options are the values of a parameter that takes all of them. -/
theorem read_operands (hp : g.positionals = [p]) (ha : p.arity = .many ∨ p.arity = .rest)
    (ho : ∀ o ∈ g.options, o.isRequired = false) (hne : arguments ≠ []) (h : ∀ a ∈ arguments, IsOperand a) :
    g.read arguments = ({ events := [.positional p arguments], pending := [] }, none) := by
  have hv : Reading.valuesOf p.arity (arguments.map (·, .argument)) = arguments := by
    have hd : ("--" : Text) ∉ arguments := fun hm => (h _ hm).ne_divider rfl
    simp [Reading.valuesOf, Function.comp_def, List.erase_of_not_mem hd]
  have hf : (arguments.map (·, Mark.argument)).any Reading.isFlag = false := by
    simp [isFlag_argument]
  have ht : Reading.takePositionals { pending := g.positionals } (arguments.map (·, .argument)) =
      ({ events := [.positional p arguments], pending := [] }, []) := by
    simp only [Reading.takePositionals, hp, Reading.takePositionals.go, take_operands ha hne, hv, List.nil_append]
  have hr : Reading.readAll g ((arguments.map (·, Mark.argument)).length + 1) { pending := g.positionals }
      (arguments.map (·, .argument)) = ({ events := [.positional p arguments], pending := [] }, none) := by
    rw [Reading.readAll.eq_def]
    simp only [hf, ht, Bool.false_eq_true, if_false, List.map_nil, List.append_nil]
  have hm : g.missing { events := [.positional p arguments], pending := [] } = [] := by
    simpa [Grammar.missing] using ho
  simp only [Grammar.read, marks_operands g h, hr, hm, List.isEmpty_nil, if_true]

end Grammar

namespace Callback
variable {t : Tree} {cwd : Place} {path names : List Text} {out : Outcome}

theorem request_embed (hne : names ≠ []) (hn : ∀ n ∈ names, IsOperand n) :
    request ("embed" :: names) = .ok (.embed names) := by
  have hall : ∀ a ∈ ("embed" : Text) :: names, IsOperand a := List.forall_mem_cons.mpr ⟨by decide, hn⟩
  have ho : grammar.read ("embed" :: names) =
      ({ events := [.positional ⟨"command", .rest⟩ ("embed" :: names)], pending := [] }, none) :=
    read_operands rfl (.inr rfl) (by decide) (List.cons_ne_nil _ _) hall
  have hi : embedGrammar.read names = ({ events := [.positional ⟨"modules", .many⟩ names], pending := [] }, none) :=
    read_operands rfl (.inl rfl) (by decide) hne hn
  have hc : commandRequest "embed" names = .ok (.embed names, []) := by
    simp [commandRequest, reading, hi, asksHelp, positionalValues, bind, Except.bind, pure, Except.pure]
  simp [request, reading, ho, asksHelp, positionalValues, hc, bind, Except.bind, pure, Except.pure]

/-- What embedding modules in order comes to: all their texts are written, or none of them and the first fault is
reported, unless a path was too long to be looked up. -/
inductive Embeds (t : Tree) (cwd : Place) (path : List Text) : List Text → Outcome → Prop
  | all {names texts : List Text} {out : Outcome}
      (h : List.Forall₂ (fun n text => Embedding.embed t cwd n path = .ok text) names texts)
      (ho : out.answer? = some { status := 0, output := Text.encode texts.flatten }) : Embeds t cwd path names out
  | missing {before after : List Text} {n : Text} {f : EmbedFault} {out : Outcome}
      (hb : ∀ b ∈ before, ∃ text, Embedding.embed t cwd b path = .ok text)
      (h : Embedding.embed t cwd n path = .error f) (hf : Embedding.Names n f)
      (ho : out.answer? = some { status := 1, complaint := "mdsh-embed: " ++ f.message ++ "\n" }) :
      Embeds t cwd path (before ++ n :: after) out
  | tooLong {before after : List Text} {n : Text}
      (hb : ∀ b ∈ before, ∃ text, Embedding.embed t cwd b path = .ok text)
      (h : Embedding.embed t cwd n path = .error (.file .nameTooLong)) :
      Embeds t cwd path (before ++ n :: after) (.file .nameTooLong)

theorem embeds_embedAll (t : Tree) (cwd : Place) (path names : List Text) :
    Embeds t cwd path names (embedAll t cwd path names) := by
  rw [embedAll]
  cases hm : names.mapM fun n => Embedding.embed t cwd n path with
  | ok texts =>
    have hall := mapM_eq_ok.mp hm
    have hback : List.Forall₂ (fun text n => text.isEncodable = true ∧ Embedding.embed t cwd n path = .ok text)
        texts names := (hall.imp fun _ _ h => ⟨Embedding.isEncodable_embed h, h⟩).flip
    have henc : Text.isEncodable texts.flatten = true := by
      rw [Text.isEncodable, List.all_flatten]
      exact List.all_eq_true.mpr ((List.forall₂_and_left _ _).mp hback).1
    exact .all hall (by rw [Outcome.answer?, Text.encoded_eq_ok henc]; rfl)
  | error f =>
    obtain ⟨before, n, after, rfl, hb, hf⟩ := mapM_eq_error.mp hm
    rcases Embedding.embed_error hf with hnames | rfl
    · cases hnames with
      | notFound => exact .missing hb hf .notFound rfl
      | notInPath => exact .missing hb hf .notInPath rfl
      | unreadable e => exact .missing hb hf (.unreadable e) rfl
    · exact .tooLong hb hf

theorem embedAll_of_error {n : Text} {e : FileError} (h : Embedding.embed t cwd n path = .error (.file e))
    (after : List Text) : embedAll t cwd path (n :: after) = .file e := by
  have hm : ((n :: after).mapM fun n => Embedding.embed t cwd n path) = .error (.file e) :=
    mapM_eq_error.mpr ⟨[], n, after, rfl, nofun, h⟩
  rw [embedAll, hm]

section Start
variable {ε : Type} {read : Reader ε} {environment : Table Text}

/-- An environment gives a module path: there is a variable for it, in whatever letter case it is named, and no
other that differs. -/
structure Carries (environment : Table Text) (p : Text) : Prop where
  named : ∃ e ∈ environment.toList, e.1.lowered = ("mdsh_module_path" : Text)
  alike : ∀ e ∈ environment.toList, e.1.lowered = ("mdsh_module_path" : Text) → e.2 = p

/-- What the command relies on in a reader of settings. The module path is the one that the environment gives,
whatever the assignment file of the directory holds. Settings are read if there is no such file and all of their
variables are text. -/
structure Reader.Reliable (read : Reader ε) : Prop where
  modulePath {t : Tree} {cwd : Place} {environment : Table Text} {s : Settings} {p : Text}
    (hs : read t cwd environment = .ok s) (hv : Carries environment p) : s.modulePath = some p
  reads {t : Tree} {cwd : Place} {environment : Table Text} (hf : t.isFile cwd (Path.ofText ".env") = false)
    (hv : ∀ e ∈ environment.toList, e.1.lowered.startsWith "mdsh_" = true → e.2.chars?.isSome) :
    ∃ s, read t cwd environment = .ok s

/-- A command that is given a search path by its environment looks for modules there and nowhere else. -/
theorem start_embed (hr : read.Reliable) (hv : Carries environment (Text.join ":" path))
    (hp : ∀ d ∈ path, Symbol.char ':' ∉ d) (hne : names ≠ []) (hn : ∀ n ∈ names, IsOperand n) (t : Tree) (cwd : Place) :
    start read environment t cwd ("embed" :: names) =
      (fun _ => embedAll t cwd path names) <$> read t cwd environment := by
  cases hs : read t cwd environment with
  | error f =>
    rw [start, hs]
    rfl
  | ok s =>
    have hd : ∀ commandPath, s.searchPath commandPath none = path.filter (!·.isEmpty) := fun commandPath => by
      rw [Settings.searchPath, hr.modulePath hs hv, ← Settings.directories_join hp]
      rfl
    have hrun : ∀ commandPath, run t cwd (s.searchPath commandPath none) ("embed" :: names) =
        embedAll t cwd path names := fun commandPath => by
      simp only [run, request_embed hne hn, hd, embedAll, Embedding.embed_filter]
    rw [start, hs]
    exact congrArg Except.ok (hrun _)

/-- A reader that knows the variable of the module path alone, and refuses it unless it is text. -/
def pathReader : Reader Text := fun _ _ environment =>
  match environment.toList.find? fun e => e.1.lowered = ("mdsh_module_path" : Text) with
  | none => .ok {}
  | some e => if e.2.chars?.isSome then .ok { modulePath := some e.2 } else .error e.1

theorem pathReader_reliable : Reader.Reliable pathReader where
  modulePath {t cwd environment s p} hs hv := by
    obtain ⟨e, he, hn⟩ := hv.named
    rw [pathReader] at hs
    split at hs
    · next hf => exact absurd (decide_eq_true hn) (List.find?_eq_none.mp hf e he)
    · next e' hf =>
      split at hs
      · cases hs
        have hn' := List.find?_some hf
        exact congrArg some (hv.alike e' (List.mem_of_find?_eq_some hf) (of_decide_eq_true hn'))
      · cases hs
  reads {t cwd environment} _ hv := by
    rw [pathReader]
    split
    · exact ⟨_, rfl⟩
    · next e hf =>
      have hn := List.find?_some hf
      have ht := hv e (List.mem_of_find?_eq_some hf) (by rw [of_decide_eq_true hn]; decide)
      exact ⟨_, if_pos ht⟩

/-- An environment with a module path and nothing else. -/
def pathEnvironment (p : Text) : Table Text := ({} : Table Text).set "MDSH_MODULE_PATH" p

theorem lowered_moduleName : ("MDSH_MODULE_PATH" : Text).lowered = "mdsh_module_path" := by decide +kernel

theorem carries_pathEnvironment (p : Text) : Carries (pathEnvironment p) p where
  named := ⟨("MDSH_MODULE_PATH", p), List.mem_singleton_self _, lowered_moduleName⟩
  alike e he _ := by
    cases List.mem_singleton.mp he
    rfl

end Start

end Callback
end CommandLine
end Tangle
