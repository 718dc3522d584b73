import Tangle.Proofs.Session.Bindings
import Tangle.Proofs.Work

/-! # Runs of the compile-time shell

How a run ends, and the session and the world that it leaves, follow from the session, the world, the
code and its arguments. The block that the run is for, the journal and the collected data have no part
in it. -/
namespace Tangle

/-- What an entry holds. One that is missing or cannot be read counts as empty. -/
def Entry.held (e : Option Entry) : Bytes := (e.bind (·.content.toOption)).getD []

namespace Dump

/-- What the files of a dump hold. -/
def held (d : Dump) : Contents := ⟨Entry.held d.options, Entry.held d.values, Entry.held d.functions⟩

/-- Holds of a dump with all three files, each of which can be read. -/
def isComplete (d : Dump) : Bool :=
  match d.contents? with
  | .ok (some _) => true
  | _ => false

theorem contents?_eq_some {d : Dump} {c : Contents} (h : d.contents? = .ok (some c)) : c = d.held := by
  obtain ⟨_ | o, _ | v, _ | f⟩ := d
  case some.some.some =>
    rw [contents?] at h
    obtain ⟨there, -, h⟩ := bind_eq_ok.mp h
    cases there with
    | false => cases h
    | true =>
      obtain ⟨bo, ho, h⟩ := bind_eq_ok.mp h
      obtain ⟨bv, hv, h⟩ := bind_eq_ok.mp h
      obtain ⟨bf, hf, h⟩ := bind_eq_ok.mp h
      cases h
      simp [held, Entry.held, ho, hv, hf, Except.toOption]
  all_goals
    rw [contents?] at h
    obtain ⟨there, -, h⟩ := bind_eq_ok.mp h
    cases there <;> cases h

theorem isComplete_iff {d : Dump} : d.isComplete = true ↔ d.contents? = .ok (some d.held) := by
  rw [isComplete]
  constructor
  · intro h
    split at h
    · next c hc => rw [hc, contents?_eq_some hc]
    · cases h
  · intro h
    rw [h]

/-- The functions that a dump holds. -/
def table (d : Dump) : Table Text := (Session.readFunctions (Text.decode d.held.functions) {}).1

end Dump

namespace Session

theorem addFunction_fst (fs : Table Text) (j j' : Journal) (source : Text) :
    (addFunction (fs, j) source).1 = (addFunction (fs, j') source).1 := by
  unfold addFunction
  cases definedName source <;> rfl

theorem readFunctions_fst (t : Text) (j j' : Journal) : (readFunctions t j).1 = (readFunctions t j').1 := by
  have hf : ∀ (cs : List Text) (fs : Table Text) (j j' : Journal),
      (cs.foldl addFunction (fs, j)).1 = (cs.foldl addFunction (fs, j')).1 := by
    intro cs
    induction cs with
    | nil => exact fun _ _ _ => rfl
    | cons c cs ih =>
      intro fs j j'
      have hc := addFunction_fst fs j j' c
      rw [List.foldl_cons, List.foldl_cons]
      generalize addFunction (fs, j) c = p at hc ⊢
      generalize addFunction (fs, j') c = q at hc ⊢
      obtain ⟨gs, k⟩ := p
      obtain ⟨hs, k'⟩ := q
      obtain rfl : gs = hs := hc
      exact ih gs k k'
  exact hf _ _ _ _

/-- A harvest changes nothing but the bindings. -/
theorem harvest_frame {s s' : Session} (h : s.harvest = .ok s') : ∃ b slots, s' = s.rebound b slots := by
  rw [harvest_eq] at h
  obtain ⟨b, rfl, -⟩ := foldlM_bindFunction h s.functions.nodup
  exact ⟨b, _, rfl⟩

/-- The session with the state that a dump holds. -/
def resumed (s : Session) (d : Dump) : Session := { s with
  functions := d.table
  options := readOptions (Text.decode d.held.options)
  state := Text.decode d.held.values ++ "\n" ++ Text.join "\n" d.table.values }

/-- Three files are taken over with one harvest. -/
theorem load_complete {d : Dump} (hd : d.isComplete = true) (s : Session) (j : Journal) :
    s.load d j = ((s.resumed d).harvest.mapError .definition).map fun s' =>
      (true, s', (readFunctions (Text.decode d.held.functions) j).2) := by
  have hf := readFunctions_fst (Text.decode d.held.functions) j {}
  rw [load, Dump.isComplete_iff.mp hd, resumed, Dump.table]
  simp only
  generalize readFunctions (Text.decode d.held.functions) j = p at hf ⊢
  obtain ⟨fs, k⟩ := p
  obtain rfl : fs = (readFunctions (Text.decode d.held.functions) {}).1 := hf
  simp only
  cases harvest _ <;> rfl

theorem load_incomplete {d : Dump} (hd : d.contents? = .ok none) (s : Session) (j : Journal) :
    s.load d j = .ok (false, s, j) := by
  rw [load, hd]

/-- The journal has no part in what is loaded. -/
theorem load_eq (s : Session) (d : Dump) (j : Journal) :
    ∃ k, s.load d j = (s.load d {}).map fun r => (r.1, r.2.1, k) := by
  rcases hd : d.contents? with e | _ | c
  · exact ⟨j, by rw [load_unreadable hd, load_unreadable hd]; rfl⟩
  · exact ⟨j, by rw [load_incomplete hd, load_incomplete hd]; rfl⟩
  · have hc : d.isComplete = true := by rw [Dump.isComplete, hd]
    refine ⟨(readFunctions (Text.decode d.held.functions) j).2, ?_⟩
    rw [load_complete hc, load_complete hc]
    cases (s.resumed d).harvest <;> rfl

/-- What loading a dump comes to: nothing, or all that the three files say. -/
theorem load_cases {s s' : Session} {d : Dump} {j j' : Journal} {saved : Bool}
    (h : s.load d j = .ok (saved, s', j')) :
    (saved = false ∧ d.isComplete = false ∧ s' = s) ∨
    (saved = true ∧ d.isComplete = true ∧ ∃ b slots, s' = (s.resumed d).rebound b slots) := by
  rcases hd : d.contents? with e | _ | c
  · cases (load_unreadable hd s j).symm.trans h
  · cases (load_incomplete hd s j).symm.trans h
    exact .inl ⟨rfl, by rw [Dump.isComplete, hd], rfl⟩
  · have hc : d.isComplete = true := by rw [Dump.isComplete, hd]
    rw [load_complete hc] at h
    cases hs : (s.resumed d).harvest with
    | error f =>
      rw [hs] at h
      cases h
    | ok s₁ =>
      rw [hs] at h
      cases h
      obtain ⟨b, slots, rfl⟩ := harvest_frame hs
      exact .inr ⟨rfl, hc, b, slots, rfl⟩

theorem not_complete_of_load_error {s : Session} {d : Dump} {j : Journal} {e : FileError}
    (h : s.load d j = .error (.file e)) : d.isComplete = false := by
  rw [Bool.eq_false_iff]
  intro hc
  rw [load_complete hc] at h
  cases hs : (s.resumed d).harvest <;> rw [hs] at h <;> cases h

theorem Dump.clear_ok {d : Dump} (h : d.clear.1 = .ok ()) : d.clear.2 = {} := by
  rw [Dump.clear] at h ⊢
  split at h
  · cases h
  split at h
  · cases h
  split at h
  · cases h
  rfl

/-- The session of the next run: it has its directory, and the files of the last run are gone. -/
def nextRun (s : Session) : Session := { s with isOpen := true, runCount := s.runCount + 1, dump := {} }

variable {σ : Type} {shell : Shell σ} {code : Text} {args : List Text} {s s' : Session} {w w' : σ}

theorem enter_of_unmade {e : FileError} (h : s.makeDirectory shell w = (.error e, w')) :
    s.enter shell w = (.error e, s, w') := by
  rw [enter, h]

theorem enter_of_stale {e : FileError} (hd : s.makeDirectory shell w = (.ok (), w'))
    (h : s.dump.clear.1 = .error e) :
    s.enter shell w = (.error e, { s.nextRun with dump := s.dump.clear.2 }, w') := by
  rw [enter, hd]
  simp only [h, nextRun]

theorem enter_of_clear (hd : s.makeDirectory shell w = (.ok (), w')) (h : s.dump.clear.1 = .ok ()) :
    s.enter shell w = (.ok (), s.nextRun, w') := by
  rw [enter, hd]
  simp only [h, Dump.clear_ok h, nextRun]

/-- A run that begins does so with the next session. -/
theorem enter_ok (h : s.enter shell w = (.ok (), s', w')) :
    s' = s.nextRun ∧ s.makeDirectory shell w = (.ok (), w') ∧ s.dump.clear.1 = .ok () := by
  rcases hd : s.makeDirectory shell w with ⟨e | ⟨⟩, w₁⟩
  · cases (enter_of_unmade hd).symm.trans h
  · cases hc : s.dump.clear.1 with
    | error e => cases (enter_of_stale hd hc).symm.trans h
    | ok =>
      cases (enter_of_clear hd hc).symm.trans h
      exact ⟨rfl, rfl, rfl⟩

/-- The output of a run or its fault, and what the run leaves. -/
def attempt (shell : Shell σ) (code : Text) (args : List Text) (s : Session) (w : σ) :
    Except RunFault Text × Session × σ :=
  match s.ready shell code args w with
  | (.error f, s, w) => (.error f, s, w)
  | (.ok i, s, w) =>
    match i.check with
    | .error e => (.error (.file e), s, w)
    | .ok () =>
      match shell.start w i with
      | (.unstartable reason, w) => (.error (.failed none ("cannot start " ++ i.shell ++ ": " ++ reason)), s, w)
      | (.ended status output dump, w) =>
        let s := { s with dump := dump.beside s.dump }
        match s.load s.dump {} with
        | .error f => (.error f.ofRun, s, w)
        | .ok (saved, s, _) =>
          (if status ≠ 0 then .error (.failed (some status) [])
            else if saved then .ok (Text.decode output)
            else .error (.failed none "shell exited without saving its state"), s, w)

theorem run_eq (shell : Shell σ) (c : Call) (m : Bench σ) :
    ∃ j, Bench.run shell c m =
      ((attempt shell c.code c.args m.session m.world).1.mapError c.error,
        { m with
          session := (attempt shell c.code c.args m.session m.world).2.1
          world := (attempt shell c.code c.args m.session m.world).2.2
          journal := j }) := by
  rw [Bench.run, attempt]
  rcases m.session.ready shell c.code c.args m.world with ⟨f | i, s, w⟩
  · exact ⟨m.journal, rfl⟩
  simp only [Bench.note, Bench.start]
  cases i.check with
  | error e => exact ⟨_, rfl⟩
  | ok =>
    rcases shell.start w i with ⟨reason | ⟨status, output, dump⟩, w'⟩
    · exact ⟨_, rfl⟩
    · simp only [Bench.settle]
      generalize Journal.note m.journal 3 _ = k
      obtain ⟨k', hk⟩ := load_eq { s with dump := dump.beside s.dump } (dump.beside s.dump) k
      rw [hk]
      cases ({ s with dump := dump.beside s.dump } : Session).load (dump.beside s.dump) {} with
      | error f => exact ⟨_, rfl⟩
      | ok r =>
        simp only [Except.map]
        split
        · exact ⟨_, rfl⟩
        split <;> exact ⟨_, rfl⟩

/-- What the shell answers to a run, if it is called. -/
def answer? (shell : Shell σ) (code : Text) (args : List Text) (s : Session) (w : σ) : Option (Answer × σ) :=
  match s.ready shell code args w with
  | (.ok i, _, w) => if i.check.isOk then some (shell.start w i) else none
  | _ => none

/-- How a run goes, and what it leaves. -/
inductive Course (shell : Shell σ) (code : Text) (args : List Text) (s : Session) (w : σ) :
    Except RunFault Text → Session → σ → Prop
  | unhoused {e : FileError} {w' : σ} (h : s.makeDirectory shell w = (.error e, w')) :
    Course shell code args s w (.error (.file e)) s w'
  | uncleared {e : FileError} {w' : σ} (hd : s.makeDirectory shell w = (.ok (), w'))
      (h : s.dump.clear.1 = .error e) :
    Course shell code args s w (.error (.file e)) { s.nextRun with dump := s.dump.clear.2 } w'
  | unquoted {e : QuoteFault} {w' : σ} (he : s.enter shell w = (.ok (), s.nextRun, w'))
      (h : s.nextRun.script s.nextRun.codeFile args = .error e) :
    Course shell code args s w (.error (.failed none e.message)) s.nextRun w'
  | unwritten {script : Text} {e : FileError} {w' w'' : σ} (he : s.enter shell w = (.ok (), s.nextRun, w'))
      (hs : s.nextRun.script s.nextRun.codeFile args = .ok script)
      (h : s.nextRun.supply shell script code w' = (.error e, w'')) :
    Course shell code args s w (.error (.file e)) s.nextRun w''
  | uncallable {i : Invocation} {e : FileError} {w' : σ}
      (hr : s.ready shell code args w = (.ok i, s.nextRun, w')) (h : i.check = .error e) :
    Course shell code args s w (.error (.file e)) s.nextRun w'
  | unstarted {reason : Text} {w' : σ} (h : s.answer? shell code args w = some (.unstartable reason, w')) :
    Course shell code args s w (.error (.failed none ("cannot start " ++ s.settings.shell ++ ": " ++ reason)))
      s.nextRun w'
  | unreadable {status : Int} {output : Bytes} {d : Dump} {e : FileError} {w' : σ}
      (h : s.answer? shell code args w = some (.ended status output d, w')) (hd : d.contents? = .error e) :
    Course shell code args s w (.error (.file e)) { s.nextRun with dump := d } w'
  | unsaved {status : Int} {output : Bytes} {d : Dump} {w' : σ}
      (h : s.answer? shell code args w = some (.ended status output d, w')) (hd : d.contents? = .ok none) :
    Course shell code args s w (if status ≠ 0 then .error (.failed (some status) [])
        else .error (.failed none "shell exited without saving its state"))
      { s.nextRun with dump := d } w'
  | saved {status : Int} {output : Bytes} {d : Dump} {w' : σ} {s' : Session}
      (h : s.answer? shell code args w = some (.ended status output d, w')) (hd : d.isComplete = true)
      (hs : (({ s.nextRun with dump := d } : Session).resumed d).harvest = .ok s') :
    Course shell code args s w (if status ≠ 0 then .error (.failed (some status) []) else .ok (Text.decode output)) s' w'

section Ready
variable {script : Text}

theorem ready_of_enter_error {e : FileError} (h : s.enter shell w = (.error e, s', w')) :
    s.ready shell code args w = (.error (.file e), s', w') := by
  rw [ready, h]

theorem ready_of_unquoted {e : QuoteFault} (he : s.enter shell w = (.ok (), s', w'))
    (h : s'.script s'.codeFile args = .error e) :
    s.ready shell code args w = (.error (.failed none e.message), s', w') := by
  rw [ready, he]
  simp only [h]

theorem ready_of_supply {r : Except FileError Unit} {w'' : σ} (he : s.enter shell w = (.ok (), s', w'))
    (hs : s'.script s'.codeFile args = .ok script) (h : s'.supply shell script code w' = (r, w'')) :
    s.ready shell code args w = ((r.mapError .file).map fun _ => s'.invocation script code, s', w'') := by
  rw [ready, he]
  simp only [hs, h]
  cases r <;> rfl

/-- What is behind a run that is prepared. -/
theorem ready_ok {i : Invocation} (h : s.ready shell code args w = (.ok i, s', w')) :
    ∃ script w₁, s' = s.nextRun ∧ s.enter shell w = (.ok (), s.nextRun, w₁) ∧
      s.nextRun.script s.nextRun.codeFile args = .ok script ∧
      s.nextRun.supply shell script code w₁ = (.ok (), w') ∧ i = s.nextRun.invocation script code := by
  rcases he : s.enter shell w with ⟨e | ⟨⟩, s₁, w₁⟩
  · cases (ready_of_enter_error he).symm.trans h
  obtain ⟨rfl, -⟩ := enter_ok he
  cases hs : s.nextRun.script s.nextRun.codeFile args with
  | error e => cases (ready_of_unquoted he hs).symm.trans h
  | ok script =>
    rcases hw : s.nextRun.supply shell script code w₁ with ⟨e | ⟨⟩, w₂⟩
    · cases (ready_of_supply he hs hw).symm.trans h
    · cases (ready_of_supply he hs hw).symm.trans h
      exact ⟨script, w₁, rfl, rfl, rfl, hw, rfl⟩

theorem answer?_of_ready {i : Invocation} (hr : s.ready shell code args w = (.ok i, s', w'))
    (hc : i.check = .ok ()) : s.answer? shell code args w = some (shell.start w' i) := by
  rw [answer?, hr]
  simp only [hc]
  rfl

end Ready

theorem attempt_course (shell : Shell σ) (code : Text) (args : List Text) (s : Session) (w : σ) :
    Course shell code args s w (attempt shell code args s w).1 (attempt shell code args s w).2.1
      (attempt shell code args s w).2.2 := by
  rw [attempt]
  rcases hd : s.makeDirectory shell w with ⟨e | ⟨⟩, w₁⟩
  · rw [ready_of_enter_error (enter_of_unmade hd)]
    exact .unhoused hd
  cases hc : s.dump.clear.1 with
  | error e =>
    rw [ready_of_enter_error (enter_of_stale hd hc)]
    exact .uncleared hd hc
  | ok =>
  have he := enter_of_clear hd hc
  cases hs : s.nextRun.script s.nextRun.codeFile args with
  | error e =>
    rw [ready_of_unquoted he hs]
    exact .unquoted he hs
  | ok script =>
  rcases hw : s.nextRun.supply shell script code w₁ with ⟨e | ⟨⟩, w₂⟩ <;> have hr := ready_of_supply he hs hw <;>
    rw [hr]
  · exact .unwritten he hs hw
  cases hi : (s.nextRun.invocation script code).check with
  | error e =>
    simp only [Except.mapError, Except.map, hi]
    exact .uncallable hr hi
  | ok =>
  have ha := answer?_of_ready hr hi
  simp only [Except.mapError, Except.map, hi]
  rcases hstart : shell.start w₂ (s.nextRun.invocation script code) with ⟨reason | ⟨status, output, d⟩, w'⟩ <;>
    rw [hstart] at ha
  · exact .unstarted ha
  have hb : d.beside s.nextRun.dump = d := d.beside_empty
  simp only [hb]
  rcases hd' : d.contents? with e | _ | c
  · rw [load_unreadable hd']
    exact .unreadable ha hd'
  · rw [load_incomplete hd']
    exact .unsaved ha hd'
  · have hcomplete : d.isComplete = true := by rw [Dump.isComplete, hd']
    obtain ⟨s', hs'⟩ := exists_harvest (s := ({ s.nextRun with dump := d } : Session).resumed d)
      (defines_readFunctions _ _)
    rw [load_complete hcomplete, hs']
    exact .saved ha hcomplete hs'

theorem answer?_ok {a : Answer} (h : s.answer? shell code args w = some (a, w')) :
    ∃ i w₁, s.ready shell code args w = (.ok i, s.nextRun, w₁) ∧ i.shell = s.settings.shell ∧ i.check = .ok () ∧
      shell.start w₁ i = (a, w') := by
  rw [answer?] at h
  split at h
  · next i s₁ w₁ hr =>
    obtain ⟨script, -, rfl, -, -, -, rfl⟩ := ready_ok hr
    cases hc : (s.nextRun.invocation script code).check with
    | error e =>
      rw [hc] at h
      cases h
    | ok =>
      rw [hc] at h
      exact ⟨_, w₁, hr, rfl, hc, Option.some.inj h⟩
  · cases h

/-- The world that a run leaves is that of the answer to it. -/
theorem attempt_world_of_answer {a : Answer × σ} (h : s.answer? shell code args w = some a) :
    (attempt shell code args s w).2.2 = a.2 := by
  obtain ⟨a, w'⟩ := a
  obtain ⟨i, w₁, hr, -, hc, ha⟩ := answer?_ok h
  rw [attempt, hr]
  simp only [hc, ha]
  cases a with
  | unstartable => rfl
  | ended =>
    simp only
    split <;> rfl

variable {r : Except RunFault Text}

/-- The course of a run says all that there is to say about it. -/
theorem Course.attempt_eq (h : Course shell code args s w r s' w') :
    attempt shell code args s w = (r, s', w') := by
  rw [attempt]
  cases h with
  | unhoused h => rw [ready_of_enter_error (enter_of_unmade h)]
  | uncleared hd h => rw [ready_of_enter_error (enter_of_stale hd h)]
  | unquoted he h => rw [ready_of_unquoted he h]
  | unwritten he hs h =>
    rw [ready_of_supply he hs h]
    rfl
  | uncallable hr h =>
    rw [hr]
    simp only [h]
  | unstarted h =>
    obtain ⟨i, w₁, hr, hshell, hc, ha⟩ := answer?_ok h
    rw [hr]
    simp only [hc, ha, hshell]
  | @unreadable status output d e w' h hd =>
    obtain ⟨i, w₁, hr, -, hc, ha⟩ := answer?_ok h
    rw [hr]
    have hb : d.beside s.nextRun.dump = d := d.beside_empty
    simp only [hc, ha, hb, load_unreadable hd]
    rfl
  | @unsaved status output d w' h hd =>
    obtain ⟨i, w₁, hr, -, hc, ha⟩ := answer?_ok h
    rw [hr]
    have hb : d.beside s.nextRun.dump = d := d.beside_empty
    simp only [hc, ha, hb, load_incomplete hd, Bool.false_eq_true, if_false]
  | @saved status output d w' s' h hd hs =>
    obtain ⟨i, w₁, hr, -, hc, ha⟩ := answer?_ok h
    rw [hr]
    have hb : d.beside s.nextRun.dump = d := d.beside_empty
    simp only [hc, ha, hb, load_complete hd, hs]
    rfl

/-- The faults of a run, each with the reason for it. -/
def Fault (shell : Shell σ) (code : Text) (args : List Text) (s : Session) (w : σ) (f : RunFault) : Prop :=
  ∃ s' w', Course shell code args s w (.error f) s' w'

theorem attempt_error_iff {f : RunFault} :
    (attempt shell code args s w).1 = .error f ↔ s.Fault shell code args w f := by
  constructor
  · intro h
    exact ⟨_, _, h ▸ attempt_course shell code args s w⟩
  · rintro ⟨s', w', h⟩
    rw [h.attempt_eq]

/-- The session of a run, as far as no dump can change it. -/
theorem attempt_frame (shell : Shell σ) (code : Text) (args : List Text) (s : Session) (w : σ) :
    (attempt shell code args s w).2.1.settings = s.settings ∧
      (attempt shell code args s w).2.1.base = s.base ∧
      s.runCount ≤ (attempt shell code args s w).2.1.runCount ∧
      ∀ t, (attempt shell code args s w).1 = .ok t → s.runCount < (attempt shell code args s w).2.1.runCount := by
  have h := attempt_course shell code args s w
  generalize attempt shell code args s w = a at h ⊢
  obtain ⟨r, s', w'⟩ := a
  have hlater : s.runCount < s.nextRun.runCount := Nat.lt_succ_self _
  cases h with
  | unhoused => exact ⟨rfl, rfl, Nat.le_refl _, nofun⟩
  | uncleared | unquoted | unwritten | uncallable | unstarted | unreadable | unsaved =>
    exact ⟨rfl, rfl, Nat.le_of_lt hlater, fun _ _ => hlater⟩
  | saved h hd hs =>
    obtain ⟨b, slots, rfl⟩ := harvest_frame hs
    exact ⟨rfl, rfl, Nat.le_of_lt hlater, fun _ _ => hlater⟩

theorem Overlaid.nextRun (hs : s.Overlaid) (dump : Dump) : ({ s.nextRun with dump } : Session).Overlaid :=
  ⟨⟨hs.handler, hs.functions, hs.prelude⟩, hs.overlay, hs.readable⟩

theorem Overlaid.attempt (hs : s.Overlaid) (shell : Shell σ) (code : Text) (args : List Text) (w : σ) :
    (attempt shell code args s w).2.1.Overlaid := by
  have h := attempt_course shell code args s w
  generalize Session.attempt shell code args s w = a at h ⊢
  obtain ⟨r, s', w'⟩ := a
  cases h with
  | unhoused => exact hs
  | uncleared | unquoted | unwritten | uncallable | unstarted | unreadable | unsaved => exact hs.nextRun _
  | saved h hd hh =>
    have hn := hs.nextRun {}
    exact (harvest_ok hh ⟨hn.handler, hn.functions, hn.prelude⟩).1

end Session
end Tangle
