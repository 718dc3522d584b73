import Tangle.CommandLine.Compilation
import Tangle.Proofs.Files.Growth
import Tangle.Proofs.Work

/-! # The preparation of a compilation

Before a command compiles its document it looks for the document and for the hook file, makes the directories that
are missing, and reads the document. Each of these steps ends it where it finds something else. What it has found by
then it finds again later, since it only makes directories. -/
namespace Tangle.CommandLine.Compilation
variable {σ : Type} {o : Order σ} {d k : Desk σ} {p : Path} {t : Tree} {stop : Stop}

section Lookup
variable {t : Tree} {cwd : Place} {kind : Node → Bool}

/-- A path leads to something of a kind. -/
def Leads (t : Tree) (cwd : Place) (p : Path) (kind : Node → Bool) : Prop :=
  ∃ place n, t.lookup cwd p = .ok (place, n) ∧ kind n = true

/-- A path is not too long to be looked up, and leads to nothing of a kind. -/
structure Lacks (t : Tree) (cwd : Place) (p : Path) (kind : Node → Bool) : Prop where
  short : t.lookup cwd p ≠ .error .nameTooLong
  none : ¬Leads t cwd p kind

theorem lookup_cases (t : Tree) (cwd : Place) (p : Path) (kind : Node → Bool) :
    t.lookup cwd p = .error .nameTooLong ∨ Lacks t cwd p kind ∨ Leads t cwd p kind := by
  by_cases hl : t.lookup cwd p = .error .nameTooLong
  · exact .inl hl
  · by_cases hk : Leads t cwd p kind
    · exact .inr (.inr hk)
    · exact .inr (.inl ⟨hl, hk⟩)

end Lookup

/-- The tree that the paths of a command lead through. -/
abbrev Desk.tree (d : Desk σ) : Tree := d.surroundings.tree

theorem nodeAt_apply (o : Order σ) (p : Path) (d : Desk σ) :
    nodeAt o p d = (match d.tree.lookup o.directory p with
      | .ok (_, n) => pure (some n)
      | .error .nameTooLong => throw (.unreported (.file .nameTooLong))
      | .error _ => pure none : Step σ (Option Node)) d := rfl

theorem nodeAt_of_tooLong (h : d.tree.lookup o.directory p = .error .nameTooLong) :
    nodeAt o p d = (.error (.unreported (.file .nameTooLong)), d) := by
  rw [nodeAt_apply, h]
  rfl

theorem nodeAt_of_ne (h : d.tree.lookup o.directory p ≠ .error .nameTooLong) :
    nodeAt o p d = (.ok ((d.tree.lookup o.directory p).toOption.map (·.2)), d) := by
  rw [nodeAt_apply]
  cases hl : d.tree.lookup o.directory p with
  | ok r => rfl
  | error e =>
    cases e with
    | nameTooLong => exact absurd hl h
    | _ => rfl

/-- Whether a path leads to something of a kind, from what is found at it. -/
theorem any_toOption {t : Tree} {cwd : Place} {kind : Node → Bool} :
    ((t.lookup cwd p).toOption.map (·.2)).any kind = true ↔ Leads t cwd p kind := by
  rw [Leads]
  cases t.lookup cwd p with
  | ok r =>
    obtain ⟨place, n⟩ := r
    simp [Except.toOption]
  | error e => simp [Except.toOption]

/-- A step that goes on if a path leads to something of a kind. -/
def need (o : Order σ) (p : Path) (kind : Node → Bool) (complaint : Text) : Step σ Unit := do
  if (← nodeAt o p).any kind then pure () else fail 1 complaint

section Need
variable {kind : Node → Bool} {complaint : Text}

theorem need_ok_iff : need o p kind complaint d = (.ok (), k) ↔ k = d ∧ Leads d.tree o.directory p kind := by
  rcases lookup_cases d.tree o.directory p kind with hl | hl | hl
  · rw [need, Work.bind_of_error (nodeAt_of_tooLong hl)]
    refine iff_of_false nofun fun ⟨_, _, _, h, _⟩ => ?_
    cases hl.symm.trans h
  · rw [need, Work.bind_of_ok (nodeAt_of_ne hl.short), if_neg (any_toOption.not.mpr hl.none)]
    exact iff_of_false nofun fun h => hl.none h.2
  · have hs : d.tree.lookup o.directory p ≠ .error .nameTooLong := by
      obtain ⟨place, n, h, -⟩ := hl
      rw [h]
      nofun
    rw [need, Work.bind_of_ok (nodeAt_of_ne hs), if_pos (any_toOption.mpr hl)]
    constructor
    · intro h
      cases h
      exact ⟨rfl, hl⟩
    · rintro ⟨rfl, -⟩
      rfl

theorem need_error (h : need o p kind complaint d = (.error stop, k)) :
    d.tree.lookup o.directory p = .error .nameTooLong ∧ stop = .unreported (.file .nameTooLong) ∨
      Lacks d.tree o.directory p kind ∧ stop = .ended { status := 1, complaint } := by
  rcases lookup_cases d.tree o.directory p kind with hl | hl | hl
  · rw [need, Work.bind_of_error (nodeAt_of_tooLong hl)] at h
    cases h
    exact .inl ⟨hl, rfl⟩
  · rw [need, Work.bind_of_ok (nodeAt_of_ne hl.short), if_neg (any_toOption.not.mpr hl.none)] at h
    cases h
    exact .inr ⟨hl, rfl⟩
  · cases (need_ok_iff.mpr ⟨rfl, hl⟩).symm.trans h

end Need

/-! Directories -/

/-- A desk with another tree. -/
def withTree (d : Desk σ) (t : Tree) : Desk σ := { d with surroundings := { d.surroundings with tree := t } }

theorem act_apply {α : Type} (f : Surroundings σ → Except FileError α × Surroundings σ) (d : Desk σ) :
    act f d = ((f d.surroundings).1.mapError fun e => .unreported (.file e),
      { d with surroundings := (f d.surroundings).2 }) := rfl

/-- What becomes of a tree in which directories are made. -/
def grow (o : Order σ) (p : Path) (t : Tree) : Except FileError Unit × Tree :=
  t.makeDirectories o.refused o.directory true p.root p.names

theorem makeDirectories_apply (o : Order σ) (p : Path) (d : Desk σ) : makeDirectories o p d =
    ((grow o p d.tree).1.mapError fun e => .unreported (.file e), withTree d (grow o p d.tree).2) := rfl

theorem makeDirectories_ok (h : makeDirectories o p d = (.ok (), k)) :
    grow o p d.tree = (.ok (), k.tree) ∧ k = withTree d k.tree := by
  rw [makeDirectories_apply] at h
  rcases hm : grow o p d.tree with ⟨e | ⟨⟩, u⟩ <;> rw [hm] at h <;> cases h
  exact ⟨rfl, rfl⟩

theorem makeDirectories_error (h : makeDirectories o p d = (.error stop, k)) :
    ∃ e, (grow o p d.tree).1 = .error e ∧ stop = .unreported (.file e) := by
  rw [makeDirectories_apply] at h
  rcases hm : grow o p d.tree with ⟨e | ⟨⟩, u⟩ <;> rw [hm] at h <;> cases h
  exact ⟨e, rfl, rfl⟩

/-! The document and the hook file -/

theorem findDocument_input (h : o.options.document = inputName) : findDocument o = pure (.ofText inputName) := by
  rw [findDocument, if_pos h]

theorem findDocument_file (h : o.options.document ≠ inputName) :
    let p := o.inputDirectory / o.options.document
    findDocument o = need o p Node.isRegular ("Error: no such document: " ++ p.text ++ "\n") >>= fun _ => pure p := by
  intro p
  rw [findDocument, if_neg h, need]
  simp only [bind_assoc]
  refine congrArg _ (funext fun n => ?_)
  split
  · rfl
  · rfl

/-- The path of a document, which is the standard input or leads to a regular file. -/
inductive Chosen (o : Order σ) (t : Tree) : Path → Prop
  | input (h : o.options.document = inputName) : Chosen o t (.ofText inputName)
  | file (h : o.options.document ≠ inputName)
      (hp : Leads t o.directory (o.inputDirectory / o.options.document) Node.isRegular) :
      Chosen o t (o.inputDirectory / o.options.document)

theorem findDocument_ok (h : findDocument o d = (.ok p, k)) : k = d ∧ Chosen o d.tree p := by
  by_cases hd : o.options.document = inputName
  · rw [findDocument_input hd] at h
    cases h
    exact ⟨rfl, .input hd⟩
  · rw [findDocument_file hd] at h
    obtain ⟨⟨⟩, k₁, hn, hp⟩ := Work.bind_ok_iff.mp h
    obtain ⟨rfl, hl⟩ := need_ok_iff.mp hn
    cases hp
    exact ⟨rfl, .file hd hl⟩

/-- The bindings of a compilation are those of its hook file, if there is one. -/
inductive Hooked (o : Order σ) (t : Tree) : Bindings → Prop
  | none (h : given o.options.hooks = .none) : Hooked o t {}
  | file {name : Text} {b : Bindings} (h : given o.options.hooks = some name)
      (hb : HookFile.loadWith o.parse t o.directory (o.inputDirectory / name) = .ok b) : Hooked o t b

theorem loadHooks_apply (o : Order σ) (name : Text) (d : Desk σ) : loadHooks o name d =
    (match HookFile.loadWith o.parse d.tree o.directory (o.inputDirectory / name) with
    | .ok b => do
      note 2 ("Hooks: " ++ (o.inputDirectory / name).text)
      return b
    | .error f => if f.isOfFile then fail 1 ("Error: " ++ f.message ++ "\n") else throw (.unreported (.hooks f)) :
      Step σ Bindings) d := rfl

theorem findBindings_ok {b : Bindings} (h : findBindings o d = (.ok b, k)) :
    Hooked o d.tree b ∧ ∃ j, k = { d with journal := j } := by
  rw [findBindings] at h
  cases hn : given o.options.hooks with
  | none =>
    rw [hn] at h
    cases h
    exact ⟨.none hn, _, rfl⟩
  | some name =>
    rw [hn] at h
    simp only [loadHooks_apply] at h
    cases hl : HookFile.loadWith o.parse d.tree o.directory (o.inputDirectory / name) with
    | ok b' =>
      rw [hl] at h
      cases h
      exact ⟨.file hn hl, _, rfl⟩
    | error f =>
      rw [hl] at h
      simp only at h
      split at h <;> cases h

/-! The text of the document -/

theorem note_apply (depth : Nat) (m : Text) (d : Desk σ) :
    note depth m d = (.ok (), { d with journal := d.journal.note depth m }) := rfl

theorem readDocument_apply (o : Order σ) (p : Path) (d : Desk σ) : ∃ j, readDocument o p d =
    (((bytesAt o d.tree p).map Text.decode).mapError (unreadable p), { d with journal := j }) := by
  show ∃ j, (do
    let bytes ← MonadExcept.ofExcept ((bytesAt o d.tree p).mapError (unreadable p))
    note 2 (Text.ofNat (Text.decode bytes).length ++ " characters read")
    return Text.decode bytes : Step σ Text) _ = _
  cases bytesAt o d.tree p with
  | ok bytes => exact ⟨_, rfl⟩
  | error e => exact ⟨_, rfl⟩

/-! The whole preparation -/

theorem makeWay_ok {script : Path} (h : makeWay o script d = (.ok (), k)) : d.tree.Extends k.tree := by
  rw [makeWay] at h
  split at h
  · obtain ⟨⟨⟩, k₁, hm, hk⟩ := Work.bind_ok_iff.mp h
    obtain ⟨hu, -⟩ := makeDirectories_ok hm
    cases hk
    have hg := Tree.Extends.makeDirectories o.refused o.directory true script.parent.root script.parent.names d.tree
    rw [← grow, hu] at hg
    exact hg
  · cases h
    exact .refl _

/-- What a plan is made of, and the desk that it leaves. -/
structure Planned (o : Order σ) (d : Desk σ) (p : Plan) (k : Desk σ) : Prop where
  document : Chosen o d.tree p.document
  bindings : Hooked o d.tree p.bindings
  script_eq : p.script = o.outputDirectory / scriptName o.options p.document
  grown : d.tree.Extends k.tree

theorem Planned.journal {p : Plan} (h : Planned o d p k) (j : Journal) : Planned o d p { k with journal := j } :=
  ⟨h.document, h.bindings, h.script_eq, h.grown⟩

theorem plan_planned {p : Plan} (h : plan o d = (.ok p, k)) : Planned o d p k := by
  rw [plan] at h
  obtain ⟨⟨⟩, k₁, h₁, h⟩ := Work.bind_ok_iff.mp h
  obtain ⟨⟨⟩, k₂, h₂, h⟩ := Work.bind_ok_iff.mp h
  obtain ⟨q, k₃, h₃, h⟩ := Work.bind_ok_iff.mp h
  obtain ⟨⟨⟩, k₄, h₄, h⟩ := Work.bind_ok_iff.mp h
  obtain ⟨b, k₅, h₅, h⟩ := Work.bind_ok_iff.mp h
  obtain ⟨⟨⟩, k₆, h₆, hp⟩ := Work.bind_ok_iff.mp h
  cases h₁
  cases h₂
  cases h₄
  cases hp
  obtain ⟨rfl, hc⟩ := findDocument_ok h₃
  obtain ⟨hb, j, rfl⟩ := findBindings_ok h₅
  exact ⟨hc, hb, rfl, (makeWay_ok h₆ :)⟩

/-- What a preparation comes to: the files have been found, and the document has been read. -/
structure Prepared (o : Order σ) (d : Desk σ) (p : Plan) (document : Text) (k : Desk σ) : Prop where
  planned : Planned o d p k
  text : ∃ bytes, bytesAt o k.tree p.document = .ok bytes ∧ document = Text.decode bytes

theorem readDocument_ok {document : Text} (h : readDocument o p d = (.ok document, k)) :
    (∃ bytes, bytesAt o d.tree p = .ok bytes ∧ document = Text.decode bytes) ∧ ∃ j, k = { d with journal := j } := by
  obtain ⟨j, hj⟩ := readDocument_apply o p d
  rw [hj] at h
  cases hg : bytesAt o d.tree p with
  | error e =>
    rw [hg] at h
    cases h
  | ok bytes =>
    rw [hg] at h
    cases h
    exact ⟨⟨bytes, rfl, rfl⟩, j, rfl⟩

theorem prepare_prepared {p : Plan} {document : Text} (h : prepare o d = (.ok (p, document), k)) :
    Prepared o d p document k := by
  rw [prepare] at h
  obtain ⟨⟨⟩, k₁, hm, h⟩ := Work.bind_ok_iff.mp h
  obtain ⟨q, k₂, hq, h⟩ := Work.bind_ok_iff.mp h
  obtain ⟨text, k₃, ht, hp⟩ := Work.bind_ok_iff.mp h
  cases hm
  have hplan := plan_planned hq
  obtain ⟨hbytes, j, rfl⟩ := readDocument_ok ht
  have hd : Planned o d q k₂ := ⟨hplan.document, hplan.bindings, hplan.script_eq, hplan.grown⟩
  split at hp
  all_goals
    cases hp
    exact ⟨hd.journal _, hbytes⟩

/-- Everything that ends a command before its document is compiled. A tree is the one that the command begins with,
and `u` one in which the directories of the script have been made. -/
inductive Stops (o : Order σ) (t : Tree) : Stop → Prop
  | tooLong (hd : o.options.document ≠ inputName)
      (h : t.lookup o.directory (o.inputDirectory / o.options.document) = .error .nameTooLong) :
      Stops o t (.unreported (.file .nameTooLong))
  | noDocument {p : Path} (hd : o.options.document ≠ inputName) (hp : p = o.inputDirectory / o.options.document)
      (h : Lacks t o.directory p Node.isRegular) :
      Stops o t (.ended { status := 1, complaint := "Error: no such document: " ++ p.text ++ "\n" })
  | hookFile {name : Text} {f : HookFile.Fault} (hn : given o.options.hooks = some name)
      (h : HookFile.loadWith o.parse t o.directory (o.inputDirectory / name) = .error f) (hf : f.isOfFile = true) :
      Stops o t (.ended { status := 1, complaint := "Error: " ++ f.message ++ "\n" })
  | hookValue {name : Text} {f : HookFile.Fault} (hn : given o.options.hooks = some name)
      (h : HookFile.loadWith o.parse t o.directory (o.inputDirectory / name) = .error f) (hf : f.isOfFile = false) :
      Stops o t (.unreported (.hooks f))
  | noWay {q : Path} {e : FileError} (hr : o.options.runs = false) (hq : Chosen o t q)
      (h : (grow o (o.outputDirectory / scriptName o.options q).parent t).1 = .error e) :
      Stops o t (.unreported (.file e))
  | unread {u : Tree} {p : Path} {e : FileError} (hp : Chosen o t p) (hu : t.Extends u)
      (h : bytesAt o u p = .error e) : Stops o t (unreadable p e)

theorem findDocument_error (h : findDocument o d = (.error stop, k)) : Stops o d.tree stop := by
  by_cases hd : o.options.document = inputName
  · rw [findDocument_input hd] at h
    cases h
  · rw [findDocument_file hd] at h
    rcases Work.bind_error_iff.mp h with hn | ⟨⟨⟩, k₁, -, hp⟩
    · obtain ⟨hl, rfl⟩ | ⟨hl, rfl⟩ := need_error hn
      · exact .tooLong hd hl
      · exact .noDocument hd rfl hl
    · cases hp

theorem findBindings_error (h : findBindings o d = (.error stop, k)) : Stops o d.tree stop := by
  rw [findBindings] at h
  cases hn : given o.options.hooks with
  | none =>
    rw [hn] at h
    cases h
  | some name =>
    rw [hn] at h
    simp only [loadHooks_apply] at h
    cases hl : HookFile.loadWith o.parse d.tree o.directory (o.inputDirectory / name) with
    | ok b =>
      rw [hl] at h
      cases h
    | error f =>
      rw [hl] at h
      simp only at h
      split at h
      · next hf =>
        cases h
        exact .hookFile hn hl hf
      · next hf =>
        cases h
        exact .hookValue hn hl (Bool.eq_false_iff.mpr hf)

theorem makeWay_error {script : Path} (h : makeWay o script d = (.error stop, k)) :
    o.options.runs = false ∧ ∃ e, (grow o script.parent d.tree).1 = .error e ∧ stop = .unreported (.file e) := by
  rw [makeWay] at h
  split at h
  · next hr =>
    rcases Work.bind_error_iff.mp h with hm | ⟨⟨⟩, k₁, -, hn⟩
    · exact ⟨by simpa using hr, makeDirectories_error hm⟩
    · cases hn
  · cases h

theorem plan_error (h : plan o d = (.error stop, k)) : Stops o d.tree stop := by
  rw [plan, Work.bind_of_ok (note_apply _ _ _), Work.bind_of_ok (note_apply _ _ _)] at h
  rcases Work.bind_error_iff.mp h with hf | ⟨q, k₁, hf, h⟩
  · exact (findDocument_error hf :)
  obtain ⟨rfl, hc⟩ := findDocument_ok hf
  rw [Work.bind_of_ok (note_apply _ _ _)] at h
  rcases Work.bind_error_iff.mp h with hb | ⟨b, k₂, hb, h⟩
  · exact (findBindings_error hb :)
  obtain ⟨-, j, rfl⟩ := findBindings_ok hb
  rcases Work.bind_error_iff.mp h with hw | ⟨⟨⟩, k₃, -, hp⟩
  · obtain ⟨hr, e, hm, rfl⟩ := makeWay_error hw
    exact .noWay hr hc hm
  · cases hp

/-- The reasons for which a preparation ends a command. -/
theorem prepare_error (h : prepare o d = (.error stop, k)) : Stops o d.tree stop := by
  rw [prepare] at h
  rcases Work.bind_error_iff.mp h with hm | ⟨⟨⟩, k₁, hm, h⟩
  · cases hm
  cases hm
  rcases Work.bind_error_iff.mp h with hp | ⟨p, k₂, hp, h⟩
  · exact (plan_error hp :)
  have hq := plan_planned hp
  rcases Work.bind_error_iff.mp h with hr | ⟨document, k₃, hr, h⟩
  · obtain ⟨j, hj⟩ := readDocument_apply o p.document k₂
    rw [hj] at hr
    cases hg : bytesAt o k₂.tree p.document with
    | ok bytes =>
      rw [hg] at hr
      cases hr
    | error e =>
      rw [hg] at hr
      cases hr
      exact .unread hq.document hq.grown hg
  · split at h <;> cases h

/-! The end of a command -/

section Run
variable {s : Surroundings σ}

theorem run_of_ok {e : Ending} (h : steps o { surroundings := s } = (.ok e, k)) : run o s = (.ok e, k) := by
  rw [run, show (steps o).run.run { surroundings := s } = _ from h]

theorem run_of_error (h : steps o { surroundings := s } = (.error stop, k)) : run o s = (stop.result, k) := by
  rw [run, show (steps o).run.run { surroundings := s } = _ from h]

end Run

/-- An order over two directories, where no program is found. -/
def sketched (options : Options) (input : Text) : Order Unit where
  options
  settings := { shell := "no-such-shell" }
  site := ⟨"/tmp/site", "mdsh"⟩
  commandPath := []
  mask := 0o022
  directory := []
  inputDirectory := .ofText "/in"
  outputDirectory := .ofText "/out"
  input := .ok input.encode
  parse _ := .error (.malformed "expected a mapping")
  shell := {
    openDirectory := fun s => (.ok (), s)
    writeFile := fun _ _ s => (.ok (), s)
    start := fun s _ => (.unstartable FileError.notFound.reason, s) }
  launcher := {
    openDirectory := fun s => (.ok "/tmp/run", s)
    write := fun _ _ s => (.ok (), s)
    start := fun _ s => (.error .notFound, s)
    removeDirectory := fun _ s => (.ok (), s) }

end Tangle.CommandLine.Compilation
