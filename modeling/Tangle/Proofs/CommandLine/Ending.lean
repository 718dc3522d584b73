import Tangle.Proofs.CommandLine.Preparation
import Tangle.Proofs.HookFile
import Tangle.Proofs.Pass.Failure

/-! # How a command ends

A command ends with a status of its own at most of the things that can go wrong, and leaves the others to its
caller. Each way it can end is given here with its reason; a document that does not compile is the only one for
status 2, and where a script is run its own status is that of the command. -/
namespace Tangle.CommandLine.Compilation
variable {σ : Type} {o : Order σ} {s : Surroundings σ} {p : Plan} {document : Text} {d : Desk σ}

/-- Bindings that come with an order start a session, and their hooks return texts. -/
theorem Hooked.usable {t : Tree} {b : Bindings} (h : Hooked o t b) : b.IsClosed ∧ b.ReturnsText := by
  cases h with
  | none =>
    refine ⟨⟨fun name hc => ?_, nofun⟩, ⟨nofun, nofun, nofun⟩⟩
    obtain ⟨slot, v, hv, -⟩ := hc
    cases slot <;> cases hv
  | file _ hb =>
    obtain ⟨path, d, config, hb⟩ := HookFile.loadWith_ok hb
    exact ⟨HookFile.bindings_isClosed hb, HookFile.bindings_returnsText hb⟩

/-- What the document comes to on a desk, whether its script is to be run or written. -/
def compilation (o : Order σ) (p : Plan) (document : Text) (d : Desk σ) : Compiler.Result (Surroundings σ) :=
  (compiler o p.bindings).compile o.shell o.site o.settings d.surroundings d.journal document
    (!o.options.runs && o.options.endsCaller)

/-- The desk after a compilation. -/
def settled (o : Order σ) (p : Plan) (document : Text) (d : Desk σ) : Desk σ where
  surroundings := (compilation o p document d).world
  journal := (compilation o p document d).journal

/-- The arguments that a script is run with. -/
def argumentsOf (o : Order σ) : Except SplitFault (List Text) :=
  if o.options.runs then splitWords o.options.scriptArguments else .ok []

/-! Scripts that are run -/

/-- The ways a script is run from a file, each with the surroundings that it leaves. -/
inductive RunsFile (o : Order σ) (path script : Text) (arguments : List Text) (s : Surroundings σ) :
    Except FileError Execution → Surroundings σ → Prop
  | unencodable {f : EncodeFault} (h : script.encoded = .error f) :
      RunsFile o path script arguments s (.error (.unencodable f)) s
  | unwritten {content : Bytes} {e : FileError} {u : Surroundings σ} (hs : script.encoded = .ok content)
      (h : o.launcher.write path content s = (.error e, u)) : RunsFile o path script arguments s (.error e) u
  | uncallable {content : Bytes} {e : FileError} {u : Surroundings σ} (hs : script.encoded = .ok content)
      (hw : o.launcher.write path content s = (.ok (), u))
      (h : (o.settings.shell :: path :: arguments).forM FileError.checkText = .error e) :
      RunsFile o path script arguments s (.error e) u
  | started {content : Bytes} {r : Except FileError Execution} {u v : Surroundings σ}
      (hs : script.encoded = .ok content) (hw : o.launcher.write path content s = (.ok (), u))
      (hc : (o.settings.shell :: path :: arguments).forM FileError.checkText = .ok ())
      (h : o.launcher.start (o.settings.shell :: path :: arguments) u = (r, v)) :
      RunsFile o path script arguments s r v

/-- The ends of a script that is run under a name. The directory of the script is removed however the script ends, and
only if this fails the end of the script does not count. -/
inductive RunsScript (o : Order σ) (name script : Text) (arguments : List Text) (s : Surroundings σ) :
    Except FileError Execution → Prop
  | unhoused {e : FileError} {u : Surroundings σ} (h : o.launcher.openDirectory s = (.error e, u)) :
      RunsScript o name script arguments s (.error e)
  | uncleared {directory : Text} {r : Except FileError Execution} {e : FileError} {u v w : Surroundings σ}
      (hd : o.launcher.openDirectory s = (.ok directory, u))
      (hr : RunsFile o (directory ++ "/" ++ name) script arguments u r v)
      (h : o.launcher.removeDirectory directory v = (.error e, w)) : RunsScript o name script arguments s (.error e)
  | cleared {directory : Text} {r : Except FileError Execution} {u v w : Surroundings σ}
      (hd : o.launcher.openDirectory s = (.ok directory, u))
      (hr : RunsFile o (directory ++ "/" ++ name) script arguments u r v)
      (h : o.launcher.removeDirectory directory v = (.ok (), w)) : RunsScript o name script arguments s r

/-- An error of a file as the command leaves it to its caller. -/
def left {α : Type} (r : Except FileError α) : Except Stop α := r.mapError fun e => .unreported (.file e)

section Scripts
variable {path name script directory : Text} {arguments : List Text} {u : Surroundings σ}

theorem act_of {α : Type} {f : Surroundings σ → Except FileError α × Surroundings σ} {r : Except FileError α}
    (h : f d.surroundings = (r, u)) : act f d = (left r, { d with surroundings := u }) := by
  rw [act_apply, h]
  rfl

theorem writeText_of_error {f : EncodeFault} (h : script.encoded = .error f) :
    writeText o path script d = (.error (.unreported (.file (.unencodable f))), d) := by
  rw [writeText, act_apply, h]
  rfl

theorem writeText_of_ok {content : Bytes} {r : Except FileError Unit} {v : Surroundings σ}
    (hs : script.encoded = .ok content) (h : o.launcher.write path content u = (r, v)) (j : Journal) :
    writeText o path script ⟨u, j⟩ = (left r, ⟨v, j⟩) :=
  act_of (by rw [hs]; exact h)

theorem start_of_error {words : List Text} {e : FileError} (h : words.forM FileError.checkText = .error e) :
    start o words d = (.error (.unreported (.file e)), d) := by
  rw [start, act_apply, h]
  rfl

theorem start_of_ok {words : List Text} {r : Except FileError Execution} {v : Surroundings σ}
    (hc : words.forM FileError.checkText = .ok ()) (h : o.launcher.start words u = (r, v)) (j : Journal) :
    start o words ⟨u, j⟩ = (left r, ⟨v, j⟩) :=
  act_of (by rw [hc]; exact h)

theorem exists_runsFile (o : Order σ) (path script : Text) (arguments : List Text) (s : Surroundings σ) :
    ∃ r v, RunsFile o path script arguments s r v := by
  cases hs : script.encoded with
  | error f => exact ⟨_, _, .unencodable hs⟩
  | ok content =>
    rcases hw : o.launcher.write path content s with ⟨e | ⟨⟩, u⟩
    · exact ⟨_, _, .unwritten hs hw⟩
    cases hc : (o.settings.shell :: path :: arguments).forM FileError.checkText with
    | error e => exact ⟨_, _, .uncallable hs hw hc⟩
    | ok _ => exact ⟨_, _, .started hs hw hc rfl⟩

theorem RunsFile.runFile_eq {r : Except FileError Execution} {v : Surroundings σ}
    (h : RunsFile o path script arguments u r v) (j : Journal) :
    ∃ j', runFile o path script arguments ⟨u, j⟩ = (left r, ⟨v, j'⟩) := by
  rw [runFile]
  cases h with
  | unencodable h =>
    rw [Work.bind_of_error (writeText_of_error h)]
    exact ⟨_, rfl⟩
  | unwritten hs h =>
    rw [Work.bind_of_error (writeText_of_ok hs h j)]
    exact ⟨_, rfl⟩
  | uncallable hs hw hc =>
    rw [Work.bind_of_ok (writeText_of_ok hs hw j), Work.bind_of_ok (note_apply _ _ _),
      Work.bind_of_error (start_of_error hc)]
    exact ⟨_, rfl⟩
  | started hs hw hc h =>
    rw [Work.bind_of_ok (writeText_of_ok hs hw j), Work.bind_of_ok (note_apply _ _ _)]
    cases r with
    | error e =>
      rw [Work.bind_of_error (start_of_ok hc h _)]
      exact ⟨_, rfl⟩
    | ok x =>
      rw [Work.bind_of_ok (start_of_ok hc h _), Work.bind_of_ok (note_apply _ _ _)]
      exact ⟨_, rfl⟩

theorem exists_runsScript (o : Order σ) (name script : Text) (arguments : List Text) (s : Surroundings σ) :
    ∃ r, RunsScript o name script arguments s r := by
  rcases hd : o.launcher.openDirectory s with ⟨e | directory, u⟩
  · exact ⟨_, .unhoused hd⟩
  obtain ⟨r, v, hr⟩ := exists_runsFile o (directory ++ "/" ++ name) script arguments u
  rcases hc : o.launcher.removeDirectory directory v with ⟨e | ⟨⟩, w⟩
  · exact ⟨_, .uncleared hd hr hc⟩
  · exact ⟨_, .cleared hd hr hc⟩

/-- A script that is run ends in the one way that it has. -/
theorem RunsScript.runScript_fst {r : Except FileError Execution}
    (h : RunsScript o name script arguments d.surroundings r) : (runScript o name script arguments d).1 = left r := by
  rw [runScript]
  cases h with
  | unhoused h =>
    rw [Work.bind_of_error (act_of h)]
    rfl
  | @uncleared directory r e u v w hd hr h | @cleared directory r u v w hd hr h =>
    obtain ⟨j, hf⟩ := hr.runFile_eq d.journal
    rw [Work.bind_of_ok (act_of hd), thenAlways, hf]
    simp only [act_of (d := ⟨v, j⟩) h]
    rfl

end Scripts

/-! The ends of a command -/

/-- What becomes of a script that is written. -/
def replaced (o : Order σ) (p : Plan) (u : Surroundings σ) (script : Text) : Except FileError Unit :=
  (Replacement.runText o.circumstances o.mask u.tree o.directory p.script script).outcome

/-- The end of a command whose script could not be written. -/
def unwritable (e : FileError) : Ending :=
  { status := 1, complaint := "Error: cannot write script: " ++ e.message ++ "\n" }

/-- The session that a document is compiled in, and the bench that it is compiled on. -/
inductive Opens (o : Order σ) (p : Plan) (d : Desk σ) : Bench (Surroundings σ) → Prop
  | mk {session : Session}
      (h : Session.start o.site o.settings (compiler o p.bindings).searchPath p.bindings = .ok session) :
      Opens o p d (Pass.opened session d.surroundings d.journal)

/-- The ways a command ends, each with its reason. -/
inductive Ends (o : Order σ) (s : Surroundings σ) : Except Unreported Ending → Prop
  | stopped {stop : Stop} {d : Desk σ} (hp : prepare o { surroundings := s } = (.error stop, d))
      (h : Stops o s.tree stop) : Ends o s stop.result
  | unsplit {p : Plan} {document : Text} {d : Desk σ} {f : SplitFault}
      (hp : prepare o { surroundings := s } = (.ok (p, document), d)) (h : argumentsOf o = .error f) :
      Ends o s (.error (.arguments f))
  | uncompiled {p : Plan} {document : Text} {d : Desk σ} {ws : List Text} {m : Bench (Surroundings σ)}
      {e : CompileError} (hp : prepare o { surroundings := s } = (.ok (p, document), d)) (ha : argumentsOf o = .ok ws)
      (hm : Opens o p d m) (h : Pass.Fails o.shell document m e) (he : isReported e = true) :
      Ends o s (.ok { status := 2, complaint := "Compilation error: " ++ e.message ++ "\n" })
  | unreported {p : Plan} {document : Text} {d : Desk σ} {ws : List Text} {m : Bench (Surroundings σ)}
      {e : CompileError} (hp : prepare o { surroundings := s } = (.ok (p, document), d)) (ha : argumentsOf o = .ok ws)
      (hm : Opens o p d m) (h : Pass.Fails o.shell document m e) (he : isReported e = false) :
      Ends o s (.error (.compile e))
  | unquotable {p : Plan} {document : Text} {d : Desk σ} {ws : List Text} {m : Bench (Surroundings σ)}
      {f : Heredoc.Fault} (hp : prepare o { surroundings := s } = (.ok (p, document), d)) (ha : argumentsOf o = .ok ws)
      (hm : Opens o p d m) (h : Pass.StopsUnquotable o.shell document m f) :
      Ends o s (.error (.compile (.delimiter f)))
  | unrun {p : Plan} {document script : Text} {d : Desk σ} {ws : List Text} {e : FileError}
      (hp : prepare o { surroundings := s } = (.ok (p, document), d)) (hr : o.options.runs = true)
      (ha : argumentsOf o = .ok ws) (hc : (compilation o p document d).script = .ok script)
      (h : RunsScript o p.document.name script ws (settled o p document d).surroundings (.error e)) :
      Ends o s (.error (.file e))
  | ran {p : Plan} {document script : Text} {d : Desk σ} {ws : List Text} {e : Execution}
      (hp : prepare o { surroundings := s } = (.ok (p, document), d)) (hr : o.options.runs = true)
      (ha : argumentsOf o = .ok ws) (hc : (compilation o p document d).script = .ok script)
      (h : RunsScript o p.document.name script ws (settled o p document d).surroundings (.ok e)) :
      Ends o s (.ok { status := e.status, output := e.output })
  | unwritten {p : Plan} {document script : Text} {d : Desk σ} {e : FileError}
      (hp : prepare o { surroundings := s } = (.ok (p, document), d)) (hr : o.options.runs = false)
      (hc : (compilation o p document d).script = .ok script)
      (h : replaced o p (settled o p document d).surroundings script = .error e) (he : e.isOfSystem = true) :
      Ends o s (.ok (unwritable e))
  | unspelt {p : Plan} {document script : Text} {d : Desk σ} {e : FileError}
      (hp : prepare o { surroundings := s } = (.ok (p, document), d)) (hr : o.options.runs = false)
      (hc : (compilation o p document d).script = .ok script)
      (h : replaced o p (settled o p document d).surroundings script = .error e) (he : e.isOfSystem = false) :
      Ends o s (.error (.file e))
  | written {p : Plan} {document script : Text} {d : Desk σ}
      (hp : prepare o { surroundings := s } = (.ok (p, document), d)) (hr : o.options.runs = false)
      (hc : (compilation o p document d).script = .ok script)
      (h : replaced o p (settled o p document d).surroundings script = .ok ()) : Ends o s (.ok {})

/-- What a command comes to once its document has been compiled. -/
def conclude (o : Order σ) (p : Plan) (k : Desk σ) (ws : List Text) : Except CompileError Text → Except Stop Ending
  | .error e => .error (stopFor e)
  | .ok script =>
    if o.options.runs then
      (runScript o p.document.name script ws k).1.map fun e => { status := e.status, output := e.output }
    else match replaced o p k.surroundings script with
      | .error e => .error (.ofFile e ("Error: cannot write script: " ++ e.message ++ "\n"))
      | .ok () => .ok {}

section Conclude
variable {k : Desk σ} {ws : List Text} {script : Text}

theorem conclude_runs (hr : o.options.runs = true) {r : Except FileError Execution}
    (h : RunsScript o p.document.name script ws k.surroundings r) :
    conclude o p k ws (.ok script) = (left r).map fun e => { status := e.status, output := e.output } := by
  rw [conclude, if_pos hr, h.runScript_fst]

theorem conclude_written (hr : o.options.runs = false) (h : replaced o p k.surroundings script = .ok ()) :
    conclude o p k ws (.ok script) = .ok {} := by
  rw [conclude, if_neg (by simp [hr]), h]

theorem conclude_unwritten {e : FileError} (hr : o.options.runs = false)
    (h : replaced o p k.surroundings script = .error e) (he : e.isOfSystem = true) :
    conclude o p k ws (.ok script) = .error (.ended (unwritable e)) := by
  rw [conclude, if_neg (by simp [hr]), h]
  simp only [Stop.ofFile, he, if_true, unwritable]

theorem conclude_unspelt {e : FileError} (hr : o.options.runs = false)
    (h : replaced o p k.surroundings script = .error e) (he : e.isOfSystem = false) :
    conclude o p k ws (.ok script) = .error (.unreported (.file e)) := by
  rw [conclude, if_neg (by simp [hr]), h]
  simp only [Stop.ofFile, he, Bool.false_eq_true, if_false]

end Conclude

theorem compile_apply (o : Order σ) (p : Plan) (document : Text) (d : Desk σ) :
    compile o p.bindings document (!o.options.runs && o.options.endsCaller) d =
      (((compilation o p document d).script.mapError stopFor).map
          (·, (compilation o p document d).compiler.blockCount), settled o p document d) := by
  show (do
    let script ← MonadExcept.ofExcept ((compilation o p document d).script.mapError stopFor)
    return (script, (compilation o p document d).compiler.blockCount) : Step σ (Text × Nat)) _ = _
  cases (compilation o p document d).script <;> rfl

theorem runDocument_apply (hr : o.options.runs = true) (p : Plan) (document : Text) (d : Desk σ) :
    (runDocument o p document d).1 = match splitWords o.options.scriptArguments with
      | .error f => .error (.unreported (.arguments f))
      | .ok ws => conclude o p (settled o p document d) ws (compilation o p document d).script := by
  have hc := compile_apply o p document d
  simp only [hr, Bool.not_true, Bool.false_and] at hc
  rw [runDocument]
  cases splitWords o.options.scriptArguments with
  | error f => rfl
  | ok ws =>
    have hwords : (MonadExcept.ofExcept ((Except.ok ws).mapError fun f => .unreported (.arguments f)) :
        Step σ (List Text)) d = (.ok ws, d) := rfl
    rw [Work.bind_of_ok hwords, Work.bind_apply, hc]
    cases (compilation o p document d).script with
    | error e => rfl
    | ok script =>
      simp only [Except.mapError, Except.map, conclude, hr, if_true]
      rw [Work.bind_apply]
      rcases runScript o p.document.name script ws (settled o p document d) with ⟨e | x, k⟩ <;> rfl

theorem writeDocument_apply (hr : o.options.runs = false) (p : Plan) (document : Text) (d : Desk σ) :
    ((do
      let (script, blocks) ← compile o p.bindings document o.options.endsCaller
      deliver o p.script script blocks
      return {} : Step σ Ending) d).1 =
      conclude o p (settled o p document d) [] (compilation o p document d).script := by
  have hc := compile_apply o p document d
  simp only [hr, Bool.not_false, Bool.true_and] at hc
  rw [Work.bind_apply, hc]
  cases (compilation o p document d).script with
  | error e => rfl
  | ok script =>
    show Prod.fst ((report p.script _ (replaced o p (settled o p document d).surroundings script) >>= fun _ => pure {} :
      Step σ Ending) _) = _
    simp only [conclude, hr, Bool.false_eq_true, if_false]
    cases replaced o p (settled o p document d).surroundings script <;> rfl

theorem steps_apply (hp : prepare o { surroundings := s } = (.ok (p, document), d)) :
    (steps o { surroundings := s }).1 = match argumentsOf o with
      | .error f => .error (.unreported (.arguments f))
      | .ok ws => conclude o p (settled o p document d) ws (compilation o p document d).script := by
  rw [steps, Work.bind_of_ok hp, argumentsOf]
  cases hr : o.options.runs with
  | true => exact runDocument_apply hr p document d
  | false => exact writeDocument_apply hr p document d

theorem run_fst (o : Order σ) (s : Surroundings σ) : (run o s).1 =
    match (steps o { surroundings := s }).1 with
    | .ok e => .ok e
    | .error stop => stop.result := by
  rcases h : steps o { surroundings := s } with ⟨stop | e, k⟩
  · rw [run_of_error h]
  · rw [run_of_ok h]

/-- Why a document of an order does not compile. -/
theorem compilation_error {e : CompileError} (hp : prepare o { surroundings := s } = (.ok (p, document), d))
    (he : (compilation o p document d).script = .error e) : ∃ m, Opens o p d m ∧
      (Pass.Fails o.shell document m e ∨ ∃ f, e = .delimiter f ∧ Pass.StopsUnquotable o.shell document m f) := by
  obtain ⟨hclosed, htext⟩ := (prepare_prepared hp).planned.bindings.usable
  obtain ⟨session, hs, -⟩ := Session.exists_start hclosed o.site o.settings (compiler o p.bindings).searchPath
  exact ⟨_, .mk hs, Pass.compile_error (compiler o p.bindings) o.shell hs htext he⟩

theorem Opens.fails {m : Bench (Surroundings σ)} {e : CompileError} (hm : Opens o p d m)
    (h : Pass.Fails o.shell document m e) : (compilation o p document d).script = .error e := by
  cases hm with
  | mk hs => exact h.compile hs _

theorem Opens.stopsUnquotable {m : Bench (Surroundings σ)} {f : Heredoc.Fault} (hm : Opens o p d m)
    (h : Pass.StopsUnquotable o.shell document m f) :
    (compilation o p document d).script = .error (.delimiter f) := by
  cases hm with
  | mk hs => exact h.compile hs _

theorem stopFor_reported {e : CompileError} (h : isReported e = true) :
    stopFor e = .ended { status := 2, complaint := "Compilation error: " ++ e.message ++ "\n" } := if_pos h

theorem stopFor_unreported {e : CompileError} (h : isReported e = false) : stopFor e = .unreported (.compile e) :=
  if_neg (by simp [h])

theorem argumentsOf_of_writes (hr : o.options.runs = false) : argumentsOf o = .ok [] := by
  rw [argumentsOf, if_neg (by simp [hr])]

theorem ends_of_compiled {ws : List Text} {script : Text}
    (hp : prepare o { surroundings := s } = (.ok (p, document), d)) (ha : argumentsOf o = .ok ws)
    (hc : (compilation o p document d).script = .ok script) :
    Ends o s (match conclude o p (settled o p document d) ws (.ok script) with
      | .ok e => .ok e
      | .error stop => stop.result) := by
  cases hr : o.options.runs with
  | true =>
    obtain ⟨r, h⟩ := exists_runsScript o p.document.name script ws (settled o p document d).surroundings
    rw [conclude_runs hr h]
    cases r with
    | error e => exact .unrun hp hr ha hc h
    | ok e => exact .ran hp hr ha hc h
  | false =>
    cases hw : replaced o p (settled o p document d).surroundings script with
    | ok r =>
      rw [conclude_written hr hw]
      exact .written hp hr hc hw
    | error e =>
      cases he : e.isOfSystem with
      | true =>
        rw [conclude_unwritten hr hw he]
        exact .unwritten hp hr hc hw he
      | false =>
        rw [conclude_unspelt hr hw he]
        exact .unspelt hp hr hc hw he

theorem run_ends (o : Order σ) (s : Surroundings σ) : Ends o s (run o s).1 := by
  rw [run_fst]
  rcases hp : prepare o { surroundings := s } with ⟨stop | ⟨p, document⟩, d⟩
  · rw [steps, Work.bind_of_error hp]
    exact .stopped hp (prepare_error hp)
  rw [steps_apply hp]
  cases ha : argumentsOf o with
  | error f => exact .unsplit hp ha
  | ok ws =>
    cases hc : (compilation o p document d).script with
    | ok script => exact ends_of_compiled hp ha hc
    | error e =>
      obtain ⟨m, hm, hf | ⟨f, rfl, hf⟩⟩ := compilation_error hp hc
      · cases he : isReported e with
        | true =>
          simp only [conclude, stopFor_reported he]
          exact .uncompiled hp ha hm hf he
        | false =>
          simp only [conclude, stopFor_unreported he]
          exact .unreported hp ha hm hf he
      · exact .unquotable hp ha hm hf

theorem Ends.run_eq {r : Except Unreported Ending} (h : Ends o s r) : (run o s).1 = r := by
  rw [run_fst]
  cases h with
  | stopped hp h => rw [steps, Work.bind_of_error hp]
  | unsplit hp h =>
    rw [steps_apply hp, h]
    rfl
  | uncompiled hp ha hm h he =>
    rw [steps_apply hp, ha, hm.fails h]
    simp only [conclude, stopFor_reported he]
    rfl
  | unreported hp ha hm h he =>
    rw [steps_apply hp, ha, hm.fails h]
    simp only [conclude, stopFor_unreported he]
    rfl
  | unquotable hp ha hm h =>
    rw [steps_apply hp, ha, hm.stopsUnquotable h]
    rfl
  | unrun hp hr ha hc h | ran hp hr ha hc h =>
    rw [steps_apply hp, ha, hc]
    simp only [conclude_runs hr h]
    rfl
  | unwritten hp hr hc h he =>
    rw [steps_apply hp, argumentsOf_of_writes hr, hc]
    simp only [conclude_unwritten hr h he]
    rfl
  | unspelt hp hr hc h he =>
    rw [steps_apply hp, argumentsOf_of_writes hr, hc]
    simp only [conclude_unspelt hr h he]
    rfl
  | written hp hr hc h =>
    rw [steps_apply hp, argumentsOf_of_writes hr, hc]
    simp only [conclude_written hr h]

/-- An end with a status of its own and a complaint. No script has been run. -/
structure Ending.Complains (e : Ending) (status : Int) : Prop where
  status_eq : e.status = status
  output_eq : e.output = []
  complaint_ne : e.complaint ≠ []

theorem complains {status : Int} {complaint : Text} (h : complaint ≠ []) :
    ({ status, complaint } : Ending).Complains status := ⟨rfl, rfl, h⟩

theorem line_ne_nil (a b : Text) : a ++ b ++ ("\n" : Text) ≠ [] := List.append_ne_nil_of_right_ne_nil _ nofun

theorem complains_ofFile {error : FileError} {complaint : Text} {e : Ending} (h : complaint ≠ [])
    (he : (Stop.ofFile error complaint).result = .ok e) : e.Complains 1 := by
  rw [Stop.ofFile] at he
  split at he
  · cases he
    exact Compilation.complains h
  · cases he

/-- What ends a command before its document is compiled has status 1, if it has one. -/
theorem Stops.complains {t : Tree} {stop : Stop} {e : Ending} (h : Stops o t stop) (he : stop.result = .ok e) :
    e.Complains 1 := by
  cases h with
  | tooLong | hookValue | noWay => cases he
  | noDocument | hookFile =>
    cases he
    exact Compilation.complains (line_ne_nil _ _)
  | unread => exact complains_ofFile (line_ne_nil _ _) he

/-- A document is there, and it does not compile. -/
inductive Uncompiled (o : Order σ) (s : Surroundings σ) : Prop
  | mk {p : Plan} {document : Text} {d : Desk σ} {ws : List Text} {e : CompileError}
      (hp : prepare o { surroundings := s } = (.ok (p, document), d)) (ha : argumentsOf o = .ok ws)
      (hc : (compilation o p document d).script = .error e) (he : isReported e = true)

theorem uncompiled_of_complains {e : Ending} (h : Ends o s (.ok e)) (he : e.Complains 2) : Uncompiled o s := by
  generalize hr : Except.ok e = r at h
  cases h with
  | stopped hp h =>
    have h1 := (h.complains hr.symm).status_eq
    cases h1.symm.trans he.status_eq
  | uncompiled hp ha hm h he => exact ⟨hp, ha, hm.fails h, he⟩
  | ran =>
    cases hr
    exact absurd rfl he.complaint_ne
  | unwritten =>
    cases hr
    cases he.status_eq
  | written =>
    cases hr
    cases he.status_eq
  | unsplit | unreported | unquotable | unrun | unspelt => cases hr

theorem Uncompiled.ends (h : Uncompiled o s) : ∃ e, Ends o s (.ok e) ∧ e.Complains 2 := by
  obtain ⟨hp, ha, hc, he⟩ := h
  obtain ⟨m, hm, hf | ⟨f, rfl, -⟩⟩ := compilation_error hp hc
  · exact ⟨_, .uncompiled hp ha hm hf he, complains (line_ne_nil _ _)⟩
  · cases he

/-- The statuses of a command that does not run its script. -/
theorem Ends.statuses {e : Ending} (h : Ends o s (.ok e)) (hr : o.options.runs = false) :
    e = {} ∨ e.Complains 1 ∨ e.Complains 2 := by
  generalize hk : Except.ok e = r at h
  cases h with
  | stopped hp h => exact .inr (.inl (h.complains hk.symm))
  | uncompiled =>
    cases hk
    exact .inr (.inr (complains (line_ne_nil _ _)))
  | ran _ hruns => cases hr.symm.trans hruns
  | unwritten =>
    cases hk
    exact .inr (.inl (complains (line_ne_nil _ _)))
  | written =>
    cases hk
    exact .inl rfl
  | unsplit | unreported | unquotable | unrun | unspelt => cases hk

/-- The two directories with a document, and with a file where the directory of a script could be. -/
def sketch (document : Text) : Surroundings Unit where
  tree := ⟨[(["in"], .directory), (["in", "doc.md"], .file (Text.encode document) 0o644), (["out"], .directory),
    (["out", "f"], .file [] 0o644), (["tmp"], .directory)]⟩
  rest := ()

end Tangle.CommandLine.Compilation
