import Tangle.Proofs.CommandLine.Preparation

/-! # Where a document is read from

The standard input is asked for by a name of its own. A file of that name is found like any other, but when the
document is read only the last name of its path counts, so that the standard input is read in its place. -/
namespace Tangle.CommandLine.Compilation
variable {σ : Type} {o : Order σ} {d k : Desk σ} {p : Plan}

/-- The regular file that a document was found to be is still what its path leads to when the document is read. -/
theorem Planned.lookup_document (h : Planned o d p k) (hd : o.options.document ≠ inputName) :
    p.document = o.inputDirectory / o.options.document ∧
    ∃ place n, d.tree.lookup o.directory p.document = .ok (place, n) ∧
      k.tree.lookup o.directory p.document = .ok (place, n) ∧ n.isRegular = true := by
  have hc := h.document
  generalize p.document = q at hc ⊢
  cases hc with
  | input hi => exact absurd hi hd
  | file _ hl =>
    obtain ⟨place, n, hl, hn⟩ := hl
    exact ⟨rfl, place, n, hl, h.grown.lookup hl, hn⟩

/-- What is read once a command has been planned. -/
def Gives (o : Order σ) (p : Plan) (k : Desk σ) (r : Except Stop Text) : Prop := (readDocument o p.document k).1 = r

theorem gives_of_bytesAt {r : Except FileError Bytes} (h : bytesAt o k.tree p.document = r) :
    Gives o p k ((r.map Text.decode).mapError (unreadable p.document)) := by
  obtain ⟨j, hj⟩ := readDocument_apply o p.document k
  rw [Gives, hj, h]

/-- Once a command has been planned its document is the standard input, if that was asked for by its name. Otherwise
it is the regular file that was found, with the bytes that it had then; but the standard input again if that
file has the name of the input. -/
theorem plan_gives (h : plan o d = (.ok p, k)) :
    (o.options.document = inputName →
      Gives o p k ((o.input.map Text.decode).mapError (unreadable p.document))) ∧
    (o.options.document ≠ inputName →
      p.document = o.inputDirectory / o.options.document ∧
      ∃ place n, d.tree.lookup o.directory p.document = .ok (place, n) ∧
        k.tree.lookup o.directory p.document = .ok (place, n) ∧ n.isRegular = true ∧
        (p.document.name = inputName →
          Gives o p k ((o.input.map Text.decode).mapError (unreadable p.document))) ∧
        (p.document.name ≠ inputName →
          (∀ bytes mode, n = .file bytes mode → Gives o p k (.ok (Text.decode bytes))) ∧
          ∀ e mode, n = .sealed e mode → Gives o p k (.error (unreadable p.document e)))) := by
  have hp := plan_planned h
  refine ⟨fun hi => ?_, fun hd => ?_⟩
  · have hc := hp.document
    have hg : bytesAt o k.tree p.document = o.input := by
      generalize p.document = q at hc ⊢
      cases hc with
      | input => exact if_pos (by decide)
      | file hd => exact absurd hi hd
    exact gives_of_bytesAt hg
  · obtain ⟨hq, place, n, hl, hk, hn⟩ := hp.lookup_document hd
    refine ⟨hq, place, n, hl, hk, hn, fun hname => ?_, fun hname => ⟨?_, ?_⟩⟩
    · exact gives_of_bytesAt (if_pos hname)
    · rintro bytes mode rfl
      have hr : k.tree.read o.directory p.document = .ok bytes := by
        rw [Tree.read, hk]
        rfl
      exact gives_of_bytesAt ((if_neg hname).trans hr)
    · rintro e mode rfl
      have hr : k.tree.read o.directory p.document = .error e := by
        rw [Tree.read, hk]
        rfl
      exact gives_of_bytesAt ((if_neg hname).trans hr)

/-- A directory with a file that has the name of the standard input. -/
def dashed : Desk Unit where
  surroundings := {
    tree := ⟨[(["in"], .directory), (["in", "-"], .file (Text.encode "two") 0o644),
      (["in", "sub"], .directory), (["in", "sub", "doc"], .file (Text.encode "three") 0o644), (["out"], .directory)]⟩
    rest := () }

theorem exists_plan (h : (plan o d).1.isOk = true) : ∃ p k, plan o d = (.ok p, k) := by
  rcases hp : plan o d with ⟨e | p, k⟩
  · rw [hp] at h
    cases h
  · exact ⟨p, k, rfl⟩

theorem plan_gives_below : ∃ p k, plan (sketched { document := "sub/./doc" } "one") dashed = (.ok p, k) ∧
    Gives (sketched { document := "sub/./doc" } "one") p k (.ok "three") := by
  obtain ⟨p, k, hp⟩ := @exists_plan _ (sketched { document := "sub/./doc" } "one") dashed (by decide +kernel)
  obtain ⟨hq, place, n, hl, -, -, -, hfile⟩ := (plan_gives hp).2 (by decide)
  have hd : dashed.tree.lookup [] (Path.ofText "/in" / ("sub/./doc" : Text)) =
      .ok (["in", "sub", "doc"], .file (Text.encode "three") 0o644) := by decide +kernel
  have hn : (Path.ofText "/in" / ("sub/./doc" : Text)).name ≠ inputName := by decide
  have ht : Text.decode (Text.encode "three") = "three" := by decide
  rw [hq] at hl hfile
  cases hd.symm.trans hl
  exact ⟨p, k, hp, ht ▸ (hfile hn).1 _ _ rfl⟩

/-- The standard input is read in place of the file that was found. -/
theorem plan_gives_dash : ("./-" : Text) ≠ inputName ∧
    ∃ p k, plan (sketched { document := "./-" } "one") dashed = (.ok p, k) ∧
      k.tree.read [] p.document = .ok (Text.encode "two") ∧
      Gives (sketched { document := "./-" } "one") p k (.ok "one") := by
  have hi : ("./-" : Text) ≠ inputName := by decide
  obtain ⟨p, k, hp⟩ := @exists_plan _ (sketched { document := "./-" } "one") dashed (by decide +kernel)
  obtain ⟨hq, place, n, hl, hk, -⟩ := (plan_planned hp).lookup_document hi
  have hd : dashed.tree.lookup [] (Path.ofText "/in" / ("./-" : Text)) =
      .ok (["in", "-"], .file (Text.encode "two") 0o644) := by decide +kernel
  have hg : bytesAt (sketched { document := "./-" } "one") k.tree p.document = .ok (Text.encode "one") :=
    if_pos (hq ▸ show (Path.ofText "/in" / ("./-" : Text)).name = inputName by decide)
  have ht : Text.decode (Text.encode "one") = "one" := by decide
  rw [hq] at hl
  cases hd.symm.trans hl
  refine ⟨hi, p, k, hp, ?_, ht ▸ gives_of_bytesAt hg⟩
  rw [Tree.read, show k.tree.lookup [] p.document = _ from hk]
  rfl

end Tangle.CommandLine.Compilation
