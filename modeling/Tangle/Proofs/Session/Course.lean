import Tangle.Proofs.Session.Harvest
import Tangle.Proofs.Session.Script

/-! # What a run takes over

A run of the shell gives its output or fails, and its session takes over the files of that run or keeps what it
had. One does not follow from the other: code that fails may still leave all of its files. Most faults are blamed on
the call. Those of the files of a run are not, nor is a text without bytes. -/
namespace Tangle

namespace Session

section Quotable

theorem nul_not_mem_ofNat (n : Nat) : Symbol.nul ∉ Text.ofNat n := by
  intro h
  have hd : '\x00'.isDigit = true :=
    Nat.isDigit_of_mem_toDigits (b := 10) (by decide) (by decide)
      (by simpa [Text.ofNat, Text.ofString, Symbol.nul, Nat.repr] using h)
  cases hd

/-- A run has a script if its arguments and its search path can be quoted. -/
theorem exists_script_iff (s : Session) (hd : Symbol.nul ∉ s.site.directory) (args : List Text) :
    (∃ script, s.script s.codeFile args = .ok script) ↔
      (∀ a ∈ args, Symbol.nul ∉ a) ∧ ∀ p ∈ s.searchPath, Symbol.nul ∉ p := by
  have hc : Symbol.nul ∉ s.codeFile := by
    simp only [codeFile, List.mem_append, hd, nul_not_mem_ofNat, or_false, false_or]
    decide
  constructor
  · rintro ⟨t, ht⟩
    obtain ⟨hq, -⟩ := script_eq_ok.mp ht
    exact ⟨hq.args, hq.searchPath⟩
  · rintro ⟨ha, hp⟩
    exact ⟨_, script_eq_ok.mpr ⟨⟨hd, hp, hc, ha⟩, rfl⟩⟩

end Quotable

variable {σ : Type} {shell : Shell σ} {code script : Text} {args : List Text} {s s' : Session} {w w' : σ}

/-- The directory and the files of a run can be made, up to the call of the shell. The worlds are those before and
after. -/
def Prepares (shell : Shell σ) (code script : Text) (s : Session) (w w' : σ) : Prop :=
  ∃ w₁ w₂, s.makeDirectory shell w = (.ok (), w₁) ∧ s.dump.clear.1 = .ok () ∧
    shell.writeFile s.nextRun.codeFile code.encode w₁ = (.ok (), w₂) ∧
    shell.writeFile s.nextRun.scriptFile script.encode w₂ = (.ok (), w') ∧
    FileError.checkText s.settings.shell = .ok () ∧ FileError.checkText s.nextRun.scriptFile = .ok ()

theorem writeText_eq_ok {path t : Text} : shell.writeText path t w = (.ok (), w') ↔
    t.isEncodable = true ∧ shell.writeFile path t.encode w = (.ok (), w') := by
  cases h : t.isEncodable with
  | true => simp [Shell.writeText_eq shell path h]
  | false => simp [Shell.writeText, Text.encoded_eq_error h]

theorem supply_eq_ok : s.supply shell script code w = (.ok (), w') ↔
    code.isEncodable = true ∧ script.isEncodable = true ∧
      ∃ w₂, shell.writeFile s.codeFile code.encode w = (.ok (), w₂) ∧
        shell.writeFile s.scriptFile script.encode w₂ = (.ok (), w') := by
  rw [supply]
  constructor
  · intro h
    rcases hw : shell.writeText s.codeFile code w with ⟨e | ⟨⟩, w₂⟩ <;> rw [hw] at h
    · cases h
    · obtain ⟨hc, hw⟩ := writeText_eq_ok.mp hw
      obtain ⟨hs, h⟩ := writeText_eq_ok.mp h
      exact ⟨hc, hs, w₂, hw, h⟩
  · rintro ⟨hc, hs, w₂, hw, h⟩
    rw [writeText_eq_ok.mpr ⟨hc, hw⟩]
    exact writeText_eq_ok.mpr ⟨hs, h⟩

theorem check_eq_ok {i : Invocation} : i.check = .ok () ↔
    FileError.checkText i.shell = .ok () ∧ FileError.checkText i.scriptFile = .ok () := by
  rw [Invocation.check]
  cases FileError.checkText i.shell with
  | error e => simp [bind, Except.bind]
  | ok => simp [bind, Except.bind]

/-- The shell is called exactly if there is a script, the code and the script have bytes, and the files can be
made. -/
theorem isSome_answer?_iff : (s.answer? shell code args w).isSome = true ↔
    code.isEncodable = true ∧ s.nextRun.Encodable s.nextRun.codeFile args ∧
      ∃ script w', s.nextRun.script s.nextRun.codeFile args = .ok script ∧ s.Prepares shell code script w w' := by
  constructor
  · intro h
    obtain ⟨⟨a, w₂⟩, ha⟩ := Option.isSome_iff_exists.mp h
    obtain ⟨i, w', hr, -, hc, -⟩ := answer?_ok ha
    obtain ⟨script, w₁, -, he, hs, hw, rfl⟩ := ready_ok hr
    obtain ⟨-, hd, hclear⟩ := enter_ok he
    obtain ⟨hcode, hscript, w₃, h₁, h₂⟩ := supply_eq_ok.mp hw
    exact ⟨hcode, (isEncodable_script hs).mp hscript, script, w', hs, w₁, w₃, hd, hclear, h₁, h₂, check_eq_ok.mp hc⟩
  · rintro ⟨hcode, hscript, script, w', hs, w₁, w₃, hd, hclear, h₁, h₂, hc⟩
    have hw := supply_eq_ok.mpr ⟨hcode, (isEncodable_script hs).mpr hscript, w₃, h₁, h₂⟩
    have hr := ready_of_supply (enter_of_clear hd hclear) hs hw
    rw [answer?_of_ready hr (check_eq_ok.mpr hc)]
    rfl

/-- A shell that answers by its files alone is called if there is nothing against it. -/
theorem answer?_ofFiles {answer : Invocation → Answer} (hcode : code.isEncodable = true)
    (hs : s.nextRun.script s.nextRun.codeFile args = .ok script)
    (he : s.nextRun.Encodable s.nextRun.codeFile args) (hd : s.dump.clear.1 = .ok ())
    (hshell : FileError.checkText s.settings.shell = .ok ())
    (hfile : FileError.checkText s.nextRun.scriptFile = .ok ()) :
    ∃ i, s.answer? (Shell.ofFiles answer) code args () = some (answer i, ()) := by
  have hm : s.makeDirectory (Shell.ofFiles answer) () = (.ok (), ()) := by
    rw [makeDirectory]
    split <;> rfl
  obtain ⟨⟨a, w⟩, ha⟩ := Option.isSome_iff_exists.mp (isSome_answer?_iff.mpr
    ⟨hcode, he, script, (), hs, (), (), hm, hd, rfl, rfl, hshell, hfile⟩)
  obtain ⟨i, w₁, -, -, -, h⟩ := answer?_ok ha
  exact ⟨i, ha.trans (congrArg some h.symm)⟩

section Course
variable {r : Except RunFault Text}

theorem answer?_of_ready_error {f : RunFault} (h : s.ready shell code args w = (.error f, s', w')) :
    s.answer? shell code args w = none := by
  rw [answer?, h]

theorem answer?_of_uncallable {i : Invocation} {e : FileError} (hr : s.ready shell code args w = (.ok i, s', w'))
    (h : i.check = .error e) : s.answer? shell code args w = none := by
  rw [answer?, hr]
  simp only [h]
  rfl

/-- A run takes one of three ways: the shell is not called, or it cannot be started, or it ends. -/
theorem Course.answer (h : Course shell code args s w r s' w') :
    (s.answer? shell code args w = none ∧ (∃ f, r = .error f ∧ ∀ k detail, f ≠ .failed (some k) detail) ∧
      ∃ opened n d, s' = { s with isOpen := opened, runCount := n, dump := d }) ∨
    (∃ reason, s.answer? shell code args w = some (.unstartable reason, w') ∧ s' = s.nextRun ∧
      r = .error (.failed none ("cannot start " ++ s.settings.shell ++ ": " ++ reason))) ∨
    ∃ status output d, s.answer? shell code args w = some (.ended status output d, w') ∧
      (d.isComplete = false ∧ s' = { s.nextRun with dump := d } ∧
        ((∃ e, d.contents? = .error e ∧ r = .error (.file e)) ∨ d.contents? = .ok none ∧
          r = if status ≠ 0 then .error (.failed (some status) [])
            else .error (.failed none "shell exited without saving its state")) ∨
      d.isComplete = true ∧ (({ s.nextRun with dump := d } : Session).resumed d).harvest = .ok s' ∧
        r = if status ≠ 0 then .error (.failed (some status) []) else .ok (Text.decode output)) := by
  cases h with
  | unhoused h =>
    exact .inl ⟨answer?_of_ready_error (ready_of_enter_error (enter_of_unmade h)), ⟨_, rfl, nofun⟩, _, _, _, rfl⟩
  | uncleared hd h =>
    exact .inl ⟨answer?_of_ready_error (ready_of_enter_error (enter_of_stale hd h)), ⟨_, rfl, nofun⟩, _, _, _, rfl⟩
  | unquoted he h =>
    exact .inl ⟨answer?_of_ready_error (ready_of_unquoted he h), ⟨_, rfl, nofun⟩, _, _, _, rfl⟩
  | unwritten he hs h =>
    exact .inl ⟨answer?_of_ready_error (ready_of_supply he hs h), ⟨_, rfl, nofun⟩, _, _, _, rfl⟩
  | uncallable hr h => exact .inl ⟨answer?_of_uncallable hr h, ⟨_, rfl, nofun⟩, _, _, _, rfl⟩
  | unstarted h => exact .inr (.inl ⟨_, h, rfl, rfl⟩)
  | unreadable h hd =>
    exact .inr (.inr ⟨_, _, _, h, .inl ⟨by rw [Dump.isComplete, hd], rfl, .inl ⟨_, hd, rfl⟩⟩⟩)
  | unsaved h hd =>
    exact .inr (.inr ⟨_, _, _, h, .inl ⟨by rw [Dump.isComplete, hd], rfl, .inr ⟨hd, rfl⟩⟩⟩)
  | saved h hd hs => exact .inr (.inr ⟨_, _, _, h, .inr ⟨hd, hs, rfl⟩⟩)

theorem Course.ok_iff (h : Course shell code args s w r s' w') (out : Text) : r = .ok out ↔
    ∃ output d w₁, s.answer? shell code args w = some (.ended 0 output d, w₁) ∧ d.isComplete = true ∧
      Text.decode output = out := by
  rcases h.answer with ⟨ha, ⟨f, rfl, -⟩, -⟩ | ⟨reason, ha, -, rfl⟩ | ⟨status, output, d, ha, ⟨hd, -, hr⟩ | ⟨hd, -, rfl⟩⟩
  · simp [ha]
  · simp [ha]
  · refine iff_of_false (fun ho => ?_) ?_
    · rcases hr with ⟨e, -, rfl⟩ | ⟨-, rfl⟩
      · cases ho
      · split at ho <;> cases ho
    · rintro ⟨output', d', w₁, ha', hd', -⟩
      cases ha.symm.trans ha'
      cases hd.symm.trans hd'
  · rw [ha]
    constructor
    · intro hr
      split at hr
      · cases hr
      · next hz =>
        cases hr
        obtain rfl := Decidable.not_not.mp hz
        exact ⟨_, _, _, rfl, hd, rfl⟩
    · rintro ⟨output', d', w₁, ha', -, rfl⟩
      cases ha'
      rfl

theorem exists_ended_iff {status k : Int} {output : Bytes} {d : Dump}
    (h : s.answer? shell code args w = some (.ended status output d, w')) :
    (∃ output d w₁, s.answer? shell code args w = some (.ended k output d, w₁)) ↔ status = k := by
  rw [h]
  constructor
  · rintro ⟨_, _, _, ha⟩
    cases ha
    rfl
  · rintro rfl
    exact ⟨_, _, _, rfl⟩

/-- A fault has the status that the shell ended with, if that is an error. -/
theorem Course.status_iff {status : Option Int} {detail : Text}
    (h : Course shell code args s w (.error (.failed status detail)) s' w') (k : Int) : status = some k ↔
      k ≠ 0 ∧ ∃ output d w₁, s.answer? shell code args w = some (.ended k output d, w₁) := by
  have hended {n : Int} {output : Bytes} {d : Dump} {r : Except RunFault Text}
      (ha : s.answer? shell code args w = some (.ended n output d, w'))
      (hr : .error (.failed status detail) = if n ≠ 0 then .error (.failed (some n) []) else r)
      (h₀ : ∀ k, r ≠ .error (.failed (some k) detail)) :
      status = some k ↔
        k ≠ 0 ∧ ∃ output d w₁, s.answer? shell code args w = some (.ended k output d, w₁) := by
    rw [exists_ended_iff ha]
    split at hr
    · next hn =>
      cases hr
      rw [Option.some.injEq]
      exact ⟨fun he => ⟨he ▸ hn, he⟩, And.right⟩
    · next hz => exact iff_of_false (fun hs => h₀ k (hs ▸ hr.symm)) fun ⟨hk, he⟩ => hz (he ▸ hk)
  rcases h.answer with ⟨ha, ⟨f, hf, hn⟩, -⟩ | ⟨reason, ha, -, hr⟩ |
    ⟨n, output, d, ha, ⟨hd, -, ⟨e, -, hr⟩ | ⟨-, hr⟩⟩ | ⟨hd, -, hr⟩⟩
  · cases hf
    refine iff_of_false (fun hs => hn k detail (by rw [hs])) ?_
    simp [ha]
  · cases hr
    simp [ha]
  · cases hr
  · exact hended ha hr nofun
  · exact hended ha hr nofun

theorem Course.takesOver (h : Course shell code args s w r s' w') {k : Int} {output : Bytes} {d : Dump} {w₁ : σ}
    (ha : s.answer? shell code args w = some (.ended k output d, w₁)) (hd : d.isComplete = true) :
    s.nextRun.TakesOver s' d := by
  rcases h.answer with ⟨hn, -⟩ | ⟨reason, hn, -⟩ | ⟨status, output', d', hn, ⟨hd', -⟩ | ⟨-, hs, -⟩⟩
  · cases hn.symm.trans ha
  · cases hn.symm.trans ha
  · cases hn.symm.trans ha
    cases hd.symm.trans hd'
  · cases hn.symm.trans ha
    have ht := takesOver_of_harvest hs
    exact ⟨ht.functions, ht.options, ht.state, ht.harvested, ht.handler,
      fun hr => ht.overlay ⟨hr.handler, hr.functions, hr.prelude⟩, ht.code, ht.frame⟩

/-- A shell that ends and leaves its three files is blamed for nothing but its status. -/
theorem Course.result_of_complete (h : Course shell code args s w r s' w') {k : Int} {output : Bytes} {d : Dump}
    {w₁ : σ} (ha : s.answer? shell code args w = some (.ended k output d, w₁)) (hd : d.isComplete = true) :
    r = if k ≠ 0 then .error (.failed (some k) []) else .ok (Text.decode output) := by
  rcases h.answer with ⟨hn, -⟩ | ⟨reason, hn, -⟩ | ⟨status, output', d', hn, ⟨hd', -⟩ | ⟨-, -, hr⟩⟩
  · cases hn.symm.trans ha
  · cases hn.symm.trans ha
  · cases hn.symm.trans ha
    cases hd.symm.trans hd'
  · cases hn.symm.trans ha
    exact hr

theorem Course.keeps (h : Course shell code args s w r s' w')
    (hn : ∀ k output d w₁, s.answer? shell code args w = some (.ended k output d, w₁) → d.isComplete = false) :
    ∃ opened n d, s' = { s with isOpen := opened, runCount := n, dump := d } := by
  rcases h.answer with ⟨-, -, hs⟩ | ⟨reason, -, rfl, -⟩ | ⟨status, output, d, ha, ⟨-, rfl, -⟩ | ⟨hd, -⟩⟩
  · exact hs
  · exact ⟨_, _, _, rfl⟩
  · exact ⟨_, _, _, rfl⟩
  · cases hd.symm.trans (hn _ _ _ _ ha)

end Course

/-- Code without bytes ends its run, once that has a script. -/
theorem fault_of_code (hs : s.nextRun.script s.nextRun.codeFile args = .ok script)
    (he : s.enter shell w = (.ok (), s.nextRun, w')) (hc : code.isEncodable = false) :
    s.Fault shell code args w (.file (.unencodable ⟨code⟩)) := by
  refine ⟨_, w', .unwritten he hs ?_⟩
  rw [supply, Shell.writeText, Text.encoded_eq_error hc]

/-- A shell that cannot be called by its name ends a run that is prepared. -/
theorem fault_of_shell {e : FileError} {w'' : σ} (hs : s.nextRun.script s.nextRun.codeFile args = .ok script)
    (he : s.enter shell w = (.ok (), s.nextRun, w'))
    (hw : s.nextRun.supply shell script code w' = (.ok (), w''))
    (hc : FileError.checkText s.settings.shell = .error e) : s.Fault shell code args w (.file e) := by
  refine ⟨_, w'', .uncallable (ready_of_supply he hs hw) ?_⟩
  show (FileError.checkText s.settings.shell >>= fun _ => _) = _
  rw [hc]
  rfl

/-- What the last run has left plays no part once it is gone. -/
theorem enter_with_dump {left : Dump} (hm : (s.makeDirectory shell w).1 = .ok ()) (h : s.dump.clear.1 = .ok ())
    (hl : left.clear.1 = .ok ()) : ({ s with dump := left } : Session).enter shell w = s.enter shell w := by
  have hs : s.makeDirectory shell w = (.ok (), (s.makeDirectory shell w).2) := by rw [← hm]
  have hd : ({ s with dump := left } : Session).makeDirectory shell w = _ := hs
  rw [enter_of_clear hs h, enter_of_clear hd hl]
  rfl

end Session

namespace Bench
variable {σ : Type}

/-- A run is all or nothing. The shell is called if no argument and no entry of the search path holds the null
character, the code and all that its script is made of have bytes, and the files of the run can be made. The run gives
its output if the shell then ends without an error and leaves its three files. Else it fails. The failure has the
label and the line of the call, but for an error of a file; and code without bytes ends in such an error. All that the
three files say is taken over if they are there, and nothing at all if one is missing. What earlier runs have left is
never read. -/
theorem run_takes_or_keeps (shell : Shell σ) (c : Call) (m : Bench σ)
    (hd : Symbol.nul ∉ m.session.site.directory) :
    let s := m.session
    let a := s.answer? shell c.code c.args m.world
    let r := run shell c m
    (a.isSome ↔ (∀ x ∈ c.args, Symbol.nul ∉ x) ∧ (∀ p ∈ s.searchPath, Symbol.nul ∉ p) ∧
      c.code.isEncodable = true ∧ s.nextRun.Encodable s.nextRun.codeFile c.args ∧
      ∃ script w, s.nextRun.script s.nextRun.codeFile c.args = .ok script ∧
        s.Prepares shell c.code script m.world w) ∧
    (∀ out, r.1 = .ok out ↔
      ∃ output d w, a = some (.ended 0 output d, w) ∧ d.isComplete = true ∧ Text.decode output = out) ∧
    (∀ f, r.1 = .error (.hook f) → f.language = c.label ∧ f.line = c.line ∧
      ∀ k, f.status = some k ↔ k ≠ 0 ∧ ∃ output d w, a = some (.ended k output d, w)) ∧
    (∀ e, r.1 = .error (.file e) ↔ s.Fault shell c.code c.args m.world (.file e)) ∧
    ((∀ x ∈ c.args, Symbol.nul ∉ x) → (∀ p ∈ s.searchPath, Symbol.nul ∉ p) → c.code.isEncodable = false →
      (s.enter shell m.world).1 = .ok () → r.1 = .error (.file (.unencodable ⟨c.code⟩))) ∧
    (∀ k output d w, a = some (.ended k output d, w) → d.isComplete = true →
      s.nextRun.TakesOver r.2.session d) ∧
    ((∀ k output d w, a = some (.ended k output d, w) → d.isComplete = false) →
      ∃ opened n d, r.2.session = { s with isOpen := opened, runCount := n, dump := d }) ∧
    ∀ left : Dump, (s.makeDirectory shell m.world).1 = .ok () → s.dump.clear.1 = .ok () → left.clear.1 = .ok () →
      run shell c { m with session := { s with dump := left } } = r := by
  intro s a r
  have hc := Session.attempt_course shell c.code c.args s m.world
  obtain ⟨j, hr⟩ := Session.run_eq shell c m
  have hr₁ : r.1 = (Session.attempt shell c.code c.args s m.world).1.mapError c.error := congrArg Prod.fst hr
  have hr₂ : r.2.session = (Session.attempt shell c.code c.args s m.world).2.1 := congrArg (·.2.session) hr
  have hfile (e : FileError) : r.1 = .error (.file e) ↔ s.Fault shell c.code c.args m.world (.file e) := by
    rw [← Session.attempt_error_iff, hr₁]
    rcases (Session.attempt shell c.code c.args s m.world).1 with (_ | _) | _ <;> simp [Except.mapError, Call.error]
  have hscript := s.nextRun.exists_script_iff hd c.args
  refine ⟨?_, fun out => ?_, fun f hf => ?_, hfile, fun ha hp hcode he => ?_, fun k output d w ha hcomplete => ?_,
    fun hn => ?_, fun left hm hs hl => ?_⟩
  · rw [Session.isSome_answer?_iff]
    constructor
    · rintro ⟨hcode, hencodable, script, w, hs, hw⟩
      obtain ⟨ha, hp⟩ := hscript.mp ⟨script, hs⟩
      exact ⟨ha, hp, hcode, hencodable, script, w, hs, hw⟩
    · rintro ⟨-, -, h⟩
      exact h
  · rw [← hc.ok_iff, hr₁]
    cases (Session.attempt shell c.code c.args s m.world).1 <;> simp [Except.mapError]
  · rw [hr₁] at hf
    cases he : (Session.attempt shell c.code c.args s m.world).1 with
    | ok out =>
      rw [he] at hf
      cases hf
    | error e =>
      rw [he] at hf hc
      cases e with
      | file e => cases hf
      | failed status detail =>
        cases hf
        exact ⟨rfl, rfl, hc.status_iff⟩
  · obtain ⟨script, hs⟩ := hscript.mpr ⟨ha, hp⟩
    rcases hb : s.enter shell m.world with ⟨e | ⟨⟩, s', w⟩
    · rw [hb] at he
      cases he
    · obtain ⟨rfl, -⟩ := Session.enter_ok hb
      exact (hfile _).mpr (Session.fault_of_code hs hb hcode)
  · rw [hr₂]
    exact hc.takesOver ha hcomplete
  · rw [hr₂]
    exact hc.keeps hn
  · have he := Session.enter_with_dump hm hs hl
    have hready : ({ s with dump := left } : Session).ready shell c.code c.args m.world =
        s.ready shell c.code c.args m.world := by
      rw [Session.ready, he, ← Session.ready]
    show run shell c { m with session := { s with dump := left } } = run shell c m
    rw [run, run, hready]

/-- Code that fails and leaves all three files: the run fails, and the session takes them over. -/
theorem run_takes_or_keeps_failing : ∃ (shell : Shell Unit) (m : Bench Unit) (f : HookFailure),
    Symbol.nul ∉ m.session.site.directory ∧ m.session.functions.keys = [] ∧
    (run shell { code := "f() \x7b :; \x7d; exit 3" } m).1 = .error (.hook f) ∧ f.status = some 3 ∧
    (run shell { code := "f() \x7b :; \x7d; exit 3" } m).2.session.functions.keys = ["f"] := by
  let c : Call := { code := "f() \x7b :; \x7d; exit 3" }
  let d : Dump := .files [] [] (Text.encode "f () \x7b :; \x7d" ++ [0])
  let m : Bench Unit := ⟨⟨⟨"/tmp", "mdsh"⟩, {}, [], {}, {}, {}, [], [], [], 0, {}, false⟩, (), {}, {}⟩
  let shell : Shell Unit := .ofFiles fun _ => .ended 3 [] d
  have hd : Symbol.nul ∉ m.session.site.directory := by decide
  obtain ⟨-, hok, herr, hfile, -, htake, -, -⟩ := run_takes_or_keeps shell c m hd
  obtain ⟨script, hs⟩ := (m.session.nextRun.exists_script_iff hd []).mpr ⟨nofun, nofun⟩
  have hencodable : m.session.nextRun.Encodable m.session.nextRun.codeFile [] :=
    ⟨rfl, rfl, nofun, rfl, nofun, rfl, rfl, by decide, nofun⟩
  obtain ⟨i, ha⟩ : ∃ i : Invocation, m.session.answer? shell c.code c.args m.world = some (.ended 3 [] d, ()) :=
    Session.answer?_ofFiles (by decide) hs hencodable rfl (by decide) (by decide)
  have htaken := (htake 3 [] d () ha rfl).functions
  have hkeys : d.table.keys = ["f"] := by decide +kernel
  cases hr : (run shell c m).1 with
  | ok out =>
    obtain ⟨_, _, _, h, -, -⟩ := (hok out).mp hr
    cases ha.symm.trans h
  | error e =>
    cases e with
    | file e =>
      obtain ⟨s', w', hc⟩ := (hfile e).mp hr
      cases (hc.result_of_complete ha rfl).trans (if_pos (by decide))
    | hook f =>
      obtain ⟨-, -, hstatus⟩ := herr f hr
      refine ⟨shell, m, f, hd, rfl, hr, (hstatus 3).mpr ⟨by decide, _, _, _, ha⟩, ?_⟩
      rw [← hkeys, ← htaken]

theorem run_of_fault {shell : Shell σ} {c : Call} {m : Bench σ} {f : RunFault}
    (h : m.session.Fault shell c.code c.args m.world f) : (run shell c m).1 = .error (c.error f) := by
  obtain ⟨j, hr⟩ := Session.run_eq shell c m
  rw [hr, Session.attempt_error_iff.mpr h]
  rfl

/-- Code with a surrogate of its own ends its run, though the shell answers everything, and so does a shell with a
null character in its name: the failure has neither the label nor the line of the call. -/
theorem run_unblamed :
    let shell : Shell Unit := .ofFiles fun _ => .ended 0 [] (.files [] [] [])
    let m (settings : Settings) : Bench Unit :=
      ⟨⟨⟨"/tmp", "mdsh"⟩, settings, [], {}, {}, {}, [], [], [], 0, {}, false⟩, (), {}, {}⟩
    let code : Text := ("echo " : Text) ++ [Symbol.lone ⟨0xD800, .inl (by decide)⟩]
    (run shell { code } (m {})).1 = .error (.file (.unencodable ⟨code⟩)) ∧
    (run shell { code := "echo 1" } (m { shell := "a\x00b" })).1 = .error (.file .nulInPath) := by
  intro shell m code
  have hfirst : (m {}).session.Fault shell code [] () (.file (.unencodable ⟨code⟩)) := by
    obtain ⟨script, hs⟩ := ((m {}).session.nextRun.exists_script_iff (by decide) []).mpr ⟨nofun, nofun⟩
    exact Session.fault_of_code hs rfl (by decide)
  have hsecond : (m { shell := "a\x00b" }).session.Fault shell "echo 1" [] () (.file .nulInPath) := by
    let s : Session := (m { shell := "a\x00b" }).session
    have hencodable : s.nextRun.Encodable s.nextRun.codeFile [] :=
      ⟨rfl, rfl, nofun, rfl, nofun, rfl, rfl, by decide, nofun⟩
    have hname : FileError.checkText s.settings.shell = .error .nulInPath := by decide
    obtain ⟨script, hs⟩ := (s.nextRun.exists_script_iff (by decide) []).mpr ⟨nofun, nofun⟩
    have hw : s.nextRun.supply shell script "echo 1" () = (.ok (), ()) :=
      Session.supply_eq_ok.mpr ⟨by decide, (Session.isEncodable_script hs).mpr hencodable, (), rfl, rfl⟩
    exact Session.fault_of_shell hs rfl hw hname
  let first : Call := { code }
  let second : Call := { code := "echo 1" }
  exact ⟨run_of_fault (c := first) hfirst, run_of_fault (c := second) hsecond⟩

end Bench
end Tangle
