import Tangle.Proofs.CommandLine.Preparation
import Tangle.Proofs.Files.Replace
import Tangle.Proofs.Pass.Calls

/-! # Compilations to a file are all or nothing

A command that does not run its script changes no regular file until it writes the script. -/
namespace Tangle.CommandLine.Compilation
variable {σ α β : Type} {root : Place} {o : Order σ}

/-- Holds of an end that is no success: with one of two statuses, or unreported. -/
def Stop.IsFailure : Stop → Prop
  | .ended e => e.status = 1 ∨ e.status = 2
  | .unreported _ => True

theorem Stop.IsFailure.status_eq {stop : Stop} {e : Ending} (h : stop.IsFailure) (he : stop.result = .ok e) :
    e.status = 1 ∨ e.status = 2 := by
  cases stop with
  | ended e' => exact Except.ok.inj he ▸ h
  | unreported u => cases he

theorem isFailure_ofFile (e : FileError) (complaint : Text) : (Stop.ofFile e complaint).IsFailure := by
  rw [Stop.ofFile]
  split
  · exact .inl rfl
  · trivial

/-- A step that spares the regular files below a place, however it ends, and that ends the command only by a
failure. -/
structure Spares (root : Place) (x : Step σ α) : Prop where
  spared : ∀ d, Tree.SameBelow root d.tree (x d).2.tree
  failure : ∀ d e, (x d).1 = .error e → e.IsFailure

theorem Spares.bind {x : Step σ α} {f : α → Step σ β} (hx : Spares root x) (hf : ∀ a, Spares root (f a)) :
    Spares root (x >>= f) := by
  refine ⟨fun d => ?_, fun d e => ?_⟩
  · have h := hx.spared d
    rw [Work.bind_apply]
    rcases hd : x d with ⟨e | a, k⟩ <;> rw [hd] at h
    · exact h
    · exact h.trans ((hf a).spared k)
  · rw [Work.bind_apply]
    rcases hd : x d with ⟨e' | a, k⟩
    · rintro ⟨⟩
      exact hx.failure d e (congrArg Prod.fst hd)
    · exact (hf a).failure k e

/-- A step that does not touch the surroundings and does not end the command. -/
theorem Spares.of_eq {x : Step σ α} (h : ∀ d, ∃ a j, x d = (.ok a, { d with journal := j })) :
    Spares root x := by
  refine ⟨fun d => ?_, fun d e he => ?_⟩ <;> obtain ⟨a, j, hd⟩ := h d
  · rw [hd]
    exact .refl root d.tree
  · rw [hd] at he
    cases he

theorem spares_pure (a : α) : Spares root (pure a : Step σ α) := .of_eq fun d => ⟨a, d.journal, rfl⟩

theorem spares_throw {s : Stop} (h : s.IsFailure) : Spares root (throw s : Step σ α) := by
  refine ⟨fun d => .refl root d.tree, fun d e => ?_⟩
  rintro ⟨⟩
  exact h

theorem spares_fail {status : Int} (h : status = 1 ∨ status = 2) (complaint : Text) :
    Spares root (fail status complaint : Step σ α) := spares_throw h

theorem spares_unreported (u : Unreported) : Spares root (throw (.unreported u) : Step σ α) :=
  spares_throw trivial

theorem spares_note (depth : Nat) (m : Text) : Spares root (note depth m : Step σ Unit) := .of_eq fun _ => ⟨_, _, rfl⟩

theorem spares_tree : Spares root (tree : Step σ Tree) := .of_eq fun d => ⟨_, d.journal, rfl⟩

theorem spares_ofExcept {x : Except Stop α} (h : ∀ e, x = .error e → e.IsFailure) :
    Spares root (MonadExcept.ofExcept x : Step σ α) := by
  cases x with
  | ok a => exact spares_pure a
  | error e => exact spares_throw (h e rfl)

theorem spares_nodeAt (o : Order σ) (p : Path) : Spares root (nodeAt o p) := by
  refine spares_tree.bind fun t => ?_
  split
  · exact spares_pure _
  · exact spares_unreported _
  · exact spares_pure _

theorem spares_makeDirectories (o : Order σ) (p : Path) : Spares root (makeDirectories o p) := by
  refine ⟨fun d => ?_, fun d e he => ?_⟩
  · rw [makeDirectories_apply]
    exact Tree.makeDirectories_same root o.refused o.directory true p.root p.names d.tree
  · obtain ⟨e', -, rfl⟩ := makeDirectories_error (Prod.ext he rfl : makeDirectories o p d = (.error e, _))
    trivial

theorem spares_findDocument (o : Order σ) : Spares root (findDocument o) := by
  rw [findDocument]
  split
  · exact spares_pure _
  refine (spares_nodeAt o _).bind fun n => ?_
  split
  · exact spares_pure _
  · exact spares_fail (by decide) _

theorem spares_loadHooks (o : Order σ) (name : Text) : Spares root (loadHooks o name) := by
  refine spares_tree.bind fun t => ?_
  split
  · exact (spares_note _ _).bind fun _ => spares_pure _
  · split
    · exact spares_fail (by decide) _
    · exact spares_unreported _

theorem spares_findBindings (o : Order σ) : Spares root (findBindings o) := by
  rw [findBindings]
  split
  · exact spares_loadHooks o _
  · exact spares_pure _

theorem spares_makeWay (o : Order σ) (script : Path) : Spares root (makeWay o script) := by
  rw [makeWay]
  split
  · exact (spares_makeDirectories o _).bind fun _ => spares_note _ _
  · exact spares_pure _

theorem spares_plan (o : Order σ) : Spares root (plan o) := by
  rw [plan]
  exact (spares_note _ _).bind fun _ => (spares_note _ _).bind fun _ => (spares_findDocument o).bind fun _ =>
    (spares_note _ _).bind fun _ => (spares_findBindings o).bind fun _ => (spares_makeWay o _).bind fun _ =>
    spares_pure _

theorem spares_readDocument (o : Order σ) (p : Path) : Spares root (readDocument o p) := by
  rw [readDocument]
  refine (spares_note _ _).bind fun _ => spares_tree.bind fun t => Spares.bind (spares_ofExcept fun e he => ?_)
    fun _ => (spares_note _ _).bind fun _ => spares_pure _
  cases hb : bytesAt o t p with
  | ok bytes =>
    rw [hb] at he
    cases he
  | error f =>
    rw [hb] at he
    cases he
    exact isFailure_ofFile _ _

theorem spares_prepare (root : Place) (o : Order σ) : Spares root (prepare o) := by
  have hm : Spares root (modify fun d : Desk σ =>
      { d with journal := { verbosity := some o.options.verbosity } } : Step σ PUnit) :=
    .of_eq fun _ => ⟨_, _, rfl⟩
  rw [prepare]
  refine hm.bind fun _ => (spares_plan o).bind fun p => (spares_readDocument o p.document).bind fun document => ?_
  split
  · exact (spares_note _ _).bind fun _ => spares_pure _
  · exact spares_pure _

/-! The document and the script -/

/-- The bytes of a document: the standard input, or what a file holds. -/
inductive Reads (o : Order σ) (t : Tree) (p : Path) : Bytes → Prop
  | input {bytes : Bytes} (hp : p.name = inputName) (h : o.input = .ok bytes) : Reads o t p bytes
  | file {bytes : Bytes} (hp : p.name ≠ inputName) (h : t.read o.directory p = .ok bytes) : Reads o t p bytes

theorem reads_of_bytesAt {t : Tree} {p : Path} {bytes : Bytes} (h : bytesAt o t p = .ok bytes) :
    Reads o t p bytes := by
  rw [bytesAt] at h
  split at h
  · next hp => exact .input hp h
  · next hp => exact .file hp h

theorem prepare_ok {d k : Desk σ} {p : Plan} {document : Text} (h : prepare o d = (.ok (p, document), k)) :
    p.script = o.outputDirectory / scriptName o.options p.document ∧
    ∃ bytes, Reads o k.tree p.document bytes ∧ document = Text.decode bytes := by
  obtain ⟨hplan, bytes, hg, ht⟩ := prepare_prepared h
  exact ⟨hplan.script_eq, bytes, reads_of_bytesAt hg, ht⟩

/-! The compilation and the delivery -/

/-- What compiling a document comes to on a desk. -/
def compiled (o : Order σ) (p : Plan) (document : Text) (d : Desk σ) : Compiler.Result (Surroundings σ) :=
  (compiler o p.bindings).compile o.shell o.site o.settings d.surroundings d.journal document
    o.options.endsCaller

/-- The desk after a compilation. -/
def afterwards (o : Order σ) (p : Plan) (document : Text) (d : Desk σ) : Desk σ where
  surroundings := (compiled o p document d).world
  journal := (compiled o p document d).journal

theorem stopFor_isFailure (e : CompileError) : (stopFor e).IsFailure := by
  rw [stopFor]
  split
  · exact .inr rfl
  · trivial

theorem compile_end (o : Order σ) (p : Plan) (document : Text) (d : Desk σ) :
    (∃ script blocks, (compiled o p document d).script = .ok script ∧
      compile o p.bindings document o.options.endsCaller d =
        (.ok (script, blocks), afterwards o p document d)) ∨
    ∃ e, compile o p.bindings document o.options.endsCaller d = (.error e, afterwards o p document d) ∧
      e.IsFailure := by
  have hc : compile o p.bindings document o.options.endsCaller d =
      (do
        let script ← MonadExcept.ofExcept ((compiled o p document d).script.mapError stopFor)
        return (script, (compiled o p document d).compiler.blockCount) : Step σ (Text × Nat))
      (afterwards o p document d) := rfl
  rw [hc]
  cases (compiled o p document d).script with
  | ok t => exact .inl ⟨t, _, rfl, rfl⟩
  | error e => exact .inr ⟨stopFor e, rfl, stopFor_isFailure e⟩

theorem deliver_apply (o : Order σ) (p : Path) (script : Text) (blocks : Nat) (d : Desk σ) :
    deliver o p script blocks d =
      (fun r : Replacement.Trace => report p blocks r.outcome (withTree d (r.last d.tree)))
        (Replacement.runText o.circumstances o.mask d.tree o.directory p script) := rfl

/-- A script that is delivered has bytes, and takes the place of its destination; of one that is not, no trace is
left. -/
theorem deliver_end (o : Order σ) (p : Path) (script : Text) (blocks : Nat) (d : Desk σ) :
    (∃ k content target mode, deliver o p script blocks d = (.ok (), k) ∧ script.encoded = .ok content ∧
      Replacement.Replaced o.mask d.tree o.directory p content k.tree target mode) ∨
    ∃ e, deliver o p script blocks d = (.error e, d) ∧ e.IsFailure := by
  have hend := Replacement.runText_end o.circumstances o.mask d.tree o.directory p script
  rw [deliver_apply]
  generalize Replacement.runText o.circumstances o.mask d.tree o.directory p script = r at hend ⊢
  cases hend with
  | @done content us u target mode hs hu =>
    refine .inl ⟨_, content, target, mode, rfl, hs, ?_⟩
    rw [Replacement.last_concat]
    exact hu
  | @failed e us hl =>
    simp only [hl]
    exact .inr ⟨_, rfl, isFailure_ofFile _ _⟩

/-- The calls of the shell that a command makes, each with the surroundings that it acts on. -/
inductive Calls (o : Order σ) (s : Surroundings σ) : Surroundings σ → ShellCall → Prop
  | compile {p : Plan} {document : Text} {d : Desk σ} {u : Surroundings σ} {c : ShellCall}
      (hp : prepare o { surroundings := s } = (.ok (p, document), d))
      (h : (compiler o p.bindings).Calls o.shell o.site o.settings d.surroundings d.journal document u c) :
      Calls o s u c

section Run
variable {s : Surroundings σ}

/-- A script that was compiled from the document has been put where its path leads, and no other regular file
below a place has changed. The place where a file of several names is kept is apart: no path leads there. -/
inductive Delivered (o : Order σ) (s : Surroundings σ) (root : Place) (t : Tree) : Prop
  | mk {p : Plan} {d : Desk σ} {bytes content : Bytes} {script : Text} {target : Place} {mode : Nat}
      (prepared : prepare o { surroundings := s } = (.ok (p, Text.decode bytes), d))
      (read : Reads o d.tree p.document bytes)
      (path_eq : p.script = o.outputDirectory / scriptName o.options p.document)
      (script_eq : (compiled o p (Text.decode bytes) d).script = .ok script)
      (content_eq : script.encoded = .ok content)
      (located : (afterwards o p (Text.decode bytes) d).tree.locate o.directory p.script = .ok target)
      (written : t.node? target = some (.file content mode))
      (others : ∀ q, root <+: q → q ≠ target → t.node? q ≠ some (.shared target) →
        t.regular? q = s.tree.regular? q)

theorem afterwards_spared {p : Plan} {document : Text} {d : Desk σ}
    (hp : prepare o { surroundings := s } = (.ok (p, document), d))
    (hc : ∀ u c, Calls o s u c → Tree.SameBelow root u.tree (o.shell.after u c).tree) :
    Tree.SameBelow root s.tree (afterwards o p document d).tree := by
  have hs := (spares_prepare root o).spared { surroundings := s }
  rw [hp] at hs
  let R (u v : Surroundings σ) : Prop := Tree.SameBelow root u.tree v.tree
  have hr : ∀ u, R u u := fun u => .refl root u.tree
  have ht : ∀ {u v w}, R u v → R v w → R u w := fun h k => Tree.SameBelow.trans h k
  exact hs.trans (Compiler.compile_world hr ht (fun u c h => hc u c (.compile hp h)) o.options.endsCaller)

/-- Only the file that was replaced has changed. -/
theorem regular?_replaced {t u : Tree} {cwd target q : Place} {path : Path} {content : Bytes} {mask mode : Nat}
    (h : Replacement.Replaced mask u cwd path content t target mode) (hq : q ≠ target)
    (hs : t.node? q ≠ some (.shared target)) : t.regular? q = u.regular? q := by
  have hn := h.elsewhere q hq
  refine Tree.regular?_congr hn fun place hplace => h.elsewhere place ?_
  rintro rfl
  exact hs (hn.trans hplace)

theorem steps_end (hr : o.options.runs = false)
    (hc : ∀ u c, Calls o s u c → Tree.SameBelow root u.tree (o.shell.after u c).tree) :
    (∃ k, steps o { surroundings := s } = (.ok {}, k) ∧ Delivered o s root k.tree) ∨
    ∃ e k, steps o { surroundings := s } = (.error e, k) ∧ e.IsFailure ∧ Tree.SameBelow root s.tree k.tree := by
  rw [steps]
  rcases hp : prepare o { surroundings := s } with ⟨e | ⟨p, document⟩, d⟩
  · have hs := spares_prepare root o
    refine .inr ⟨e, d, Work.bind_of_error hp _, hs.failure _ e (congrArg Prod.fst hp), ?_⟩
    rw [← show (prepare o { surroundings := s }).2 = d from congrArg Prod.snd hp]
    exact hs.spared { surroundings := s }
  obtain ⟨hpath, bytes, hread, rfl⟩ := prepare_ok hp
  have hs := afterwards_spared hp hc
  rw [Work.bind_of_ok hp]
  simp only [hr, Bool.false_eq_true, if_false]
  rcases compile_end o p (Text.decode bytes) d with ⟨script, blocks, hscript, hcompile⟩ | ⟨e, hcompile, he⟩
  · rw [Work.bind_of_ok hcompile]
    simp only
    rcases deliver_end o p.script script blocks (afterwards o p (Text.decode bytes) d) with
      ⟨k, content, target, mode, hd, hcontent, hrep⟩ | ⟨e, hd, he⟩
    · refine .inl ⟨k, ?_, ?_⟩
      · rw [Work.bind_of_ok hd]
        rfl
      exact .mk hp hread hpath hscript hcontent hrep.replaceable.located hrep.destination_eq fun q hq hne hshared =>
        (regular?_replaced hrep hne hshared).trans (hs q hq)
    · exact .inr ⟨e, _, Work.bind_of_error hd _, he, hs⟩
  · exact .inr ⟨e, _, Work.bind_of_error hcompile _, he, hs⟩

end Run

end Tangle.CommandLine.Compilation
