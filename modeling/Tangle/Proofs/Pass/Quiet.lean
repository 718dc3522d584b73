import Tangle.Proofs.Pass.Displacement

/-! # Quiet passes

A pass that starts no run of the shell leaves the session and the world as they were. Its file hooks then
end in the same values wherever they run. -/
namespace Tangle
variable {σ : Type}

namespace Bench

/-- The second bench has the session and the world of the first. -/
structure Rests (m n : Bench σ) : Prop where
  session : n.session = m.session
  world : n.world = m.world

theorem Rests.trans {m n l : Bench σ} (h : m.Rests n) (k : n.Rests l) : m.Rests l :=
  ⟨k.session.trans h.session, k.world.trans h.world⟩

/-- The second bench comes out of the first without a run, or with runs. -/
def Advances (m n : Bench σ) : Prop := m.Rests n ∨ m.session.runCount < n.session.runCount

theorem Advances.le {m n : Bench σ} (h : m.Advances n) : m.session.runCount ≤ n.session.runCount := by
  rcases h with h | h
  · exact Nat.le_of_eq (congrArg Session.runCount h.session.symm)
  · exact Nat.le_of_lt h

theorem Advances.trans {m n l : Bench σ} (h : m.Advances n) (k : n.Advances l) : m.Advances l := by
  rcases h with h | h
  · rcases k with k | k
    · exact .inl (h.trans k)
    · exact .inr (h.session ▸ k)
  · exact .inr (Nat.lt_of_lt_of_le h k.le)

theorem Advances.rests {m n : Bench σ} (h : m.Advances n)
    (hc : n.session.runCount ≤ m.session.runCount) : m.Rests n :=
  h.resolve_right (Nat.not_lt.mpr hc)

end Bench

/-- An action that succeeds has run the shell, or it has left the bench alone. -/
theorem Action.advances {shell : Shell σ} {m : Bench σ} {a : Action}
    {blame : Option Int → Text → HookFailure} {v : HookValue} (h : a.result shell m.session m.world blame = .ok v)
    (language content : Text) (j : Journal) : m.Advances (a.bench shell language content m j) := by
  cases a with
  | done | keep => exact .inl ⟨rfl, rfl⟩
  | run code args caught =>
    obtain ⟨-, -, -, hc⟩ := Session.attempt_frame shell code args m.session m.world
    simp only [Action.result] at h
    cases ha : (m.session.attempt shell code args m.world).1 with
    | ok t => exact .inr (hc t ha)
    | error f =>
      rw [ha] at h
      cases h

theorem Fragment.ofBlock_advances {shell : Shell σ} {b : Block} {m n : Bench σ} {ps : List HookValue}
    (h : ofBlock shell b m = (.ok ps, n)) : m.Advances n := by
  obtain ⟨v, hv, -⟩ := ofBlock_pieces h
  obtain ⟨j, hj⟩ := ofBlock_eq shell b m
  obtain ⟨-, rfl⟩ := Prod.mk.inj (hj.symm.trans h)
  exact Action.advances hv _ _ j

theorem Fragment.fileText_advances {shell : Shell σ} {hook : Option FileHook} {label : Text} {m n : Bench σ}
    {v : HookValue} (h : Pass.fileText shell hook label m = (.ok v, n)) : m.Advances n := by
  obtain ⟨j, hj⟩ := fileText_eq shell hook label m
  obtain ⟨hv, rfl⟩ := Prod.mk.inj (hj.symm.trans h)
  exact Action.advances hv _ _ j

/-- The ending of a file hook is that on any bench with the same session and the same world. -/
theorem Fragment.fileText_ok {shell : Shell σ} {hook : Option FileHook} {label : Text} {v : HookValue}
    {k l k' : Bench σ} (h : Pass.fileText shell hook label k = (.ok v, l)) (hk : k.Rests k') :
    ∃ l', Pass.fileText shell hook label k' = (.ok v, l') ∧ l.Rests l' ∧ l'.data = k'.data := by
  have hm := fileText_alike shell (D := fun _ _ => True) (fun _ _ _ _ _ => trivial)
    ⟨hk.session.symm, hk.world.symm, trivial⟩ hook label
  have hd := fileText_data shell hook label k'
  rw [h] at hm
  obtain ⟨l', hl', hm⟩ := hm.of_ok
  exact ⟨l', hl', ⟨hm.session.symm, hm.world.symm⟩, by rw [← hd, hl']⟩

namespace Pass
variable {shell : Shell σ}

theorem Translates.advances {bs : List Block} {ss : List (Stage σ)} {m n : Bench σ}
    (h : Translates shell m bs ss n) : m.Advances n := by
  induction h with
  | nil => exact .inl ⟨rfl, rfl⟩
  | skip _ _ ih => exact ih.imp_left fun h => ⟨h.session, h.world⟩
  | block _ ho _ ih => exact (Fragment.ofBlock_advances ho).trans ih

/-- A pass without a run of the shell. -/
def IsQuiet (shell : Shell σ) (text : Text) (evalMode : Bool) (m : Bench σ) : Prop :=
  (run shell text evalMode m).2.session.runCount = m.session.runCount

/-- What stands behind the footer of a script. -/
def trailer (evalMode : Bool) (m : Bench σ) : List HookValue :=
  if evalMode then [.text (m.session.settings.evalTrailer ++ "\n")] else []

/-- The values that file hooks end in, and that they leave the session and the world of a bench alone. -/
structure Framed (shell : Shell σ) (m : Bench σ) (header footer : HookValue) : Prop where
  header : ∀ k, m.Rests k → ∃ l, m.Rests l ∧ l.data = k.data ∧
    fileText shell m.session.bindings.fileHeader "file-header" k = (.ok header, l)
  footer : ∀ k, m.Rests k → ∃ l, m.Rests l ∧ l.data = k.data ∧
    fileText shell m.session.bindings.fileFooter "file-footer" k = (.ok footer, l)

theorem Framed.unique {m : Bench σ} {header footer header' footer' : HookValue}
    (h : Framed shell m header footer) (h' : Framed shell m header' footer') :
    header = header' ∧ footer = footer' := by
  obtain ⟨k, -, -, hk⟩ := h.header m ⟨rfl, rfl⟩
  obtain ⟨k', -, -, hk'⟩ := h'.header m ⟨rfl, rfl⟩
  obtain ⟨l, -, -, hl⟩ := h.footer m ⟨rfl, rfl⟩
  obtain ⟨l', -, -, hl'⟩ := h'.footer m ⟨rfl, rfl⟩
  cases hk.symm.trans hk'
  cases hl.symm.trans hl'
  exact ⟨rfl, rfl⟩

theorem Framed.conclude {m k : Bench σ} {header footer : HookValue} (h : Framed shell m header footer)
    (hk : m.Rests k) (evalMode : Bool) (done : Progress) :
    ∃ n, conclude shell evalMode done k =
      (.ok ⟨header :: done.pieces ++ footer :: trailer evalMode m, done.blocks, k.data⟩, n) := by
  obtain ⟨l, hl, hld, hh⟩ := h.header k hk
  obtain ⟨n, hn, hnd, hf⟩ := h.footer l hl
  refine ⟨n, ?_⟩
  rw [← hk.session] at hh
  rw [← hl.session] at hf
  rw [conclude_apply, Work.bind_of_ok hh, Work.bind_of_ok hf, trailer, ← hn.session, hnd, hld]

/-- A quiet pass that succeeds translates its blocks between two values of the file hooks. -/
theorem exists_framed {text : Text} {evalMode : Bool} {m n : Bench σ} {o : Outcome}
    (h : eager shell text evalMode m = (.ok o, n)) (hq : IsQuiet shell text evalMode m) :
    ∃ ps header footer k, (Document.scan text).2 = none ∧
      translate shell (Document.scan text).1 m = (.ok ps, k) ∧ m.Rests k ∧
      Framed shell m header footer ∧ o = ⟨header :: ps ++ footer :: trailer evalMode m,
        ((Document.scan text).1.filter Block.isEmittable).length, k.data⟩ := by
  rw [IsQuiet, run_eq_eager, h] at hq
  obtain ⟨ss, header, footer, k, l, hs, hts, hh, hf, rfl⟩ := eager_ok h
  have ht := hts.translate
  have hmk := hts.advances
  have hkl := Fragment.fileText_advances hh
  have hln := Fragment.fileText_advances hf
  have hl : m.Rests l := (hmk.trans hkl).rests (Nat.le_trans hln.le (Nat.le_of_eq hq))
  have hk : m.Rests k := hmk.rests (Nat.le_trans (hkl.trans hln).le (Nat.le_of_eq hq))
  have hn : m.Rests n := ((hmk.trans hkl).trans hln).rests (Nat.le_of_eq hq)
  have hnd : n.data = k.data := by
    have hkd := Fragment.fileText_data shell k.session.bindings.fileHeader "file-header" k
    have hld := Fragment.fileText_data shell l.session.bindings.fileFooter "file-footer" l
    rw [hh] at hkd
    rw [hf] at hld
    exact hld.trans hkd
  have hrest : ∀ {i k' : Bench σ}, m.Rests i → m.Rests k' → i.Rests k' := fun hi hk' =>
    ⟨hk'.session.trans hi.session.symm, hk'.world.trans hi.world.symm⟩
  refine ⟨_, header, footer, k, hs, ht, hk, ⟨fun k' hk' => ?_, fun k' hk' => ?_⟩, ?_⟩
  · obtain ⟨l', he, hl', hd⟩ := Fragment.fileText_ok hh (hrest hk hk')
    rw [hk.session] at he
    exact ⟨l', hl.trans hl', hd, he⟩
  · obtain ⟨l', he, hl', hd⟩ := Fragment.fileText_ok hf (hrest hl hk')
    rw [hl.session] at he
    exact ⟨l', hn.trans hl', hd, he⟩
  · rw [trailer, hn.session, hnd]

end Pass
end Tangle
