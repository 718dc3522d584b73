import Tangle.Proofs.Files.Regular

/-! # Trees that have grown

What was in a tree is still there when directories have been made, so every way that ended ends where it did. -/
namespace Tangle.Tree
variable {t u v : Tree} {cwd p q : Place} {path : Path} {n : Node}

/-- What is in the first tree is in the second one too. -/
def Extends (t u : Tree) : Prop := ∀ p n, t.node? p = some n → u.node? p = some n

namespace Extends

theorem refl (t : Tree) : Extends t t := fun _ _ => id

theorem trans (h : Extends t u) (k : Extends u v) : Extends t v := fun p n hn => k p n (h p n hn)

theorem put (h : t.node? p = none) (n : Node) : Extends t (t.put p n) := by
  intro q m hm
  have hq : q ≠ p := by
    rintro rfl
    cases h.symm.trans hm
  rw [node?_put_of_ne hq, hm]

theorem makeDirectories (refused : Place → Option FileError) (cwd : Place) (again : Bool) (kind : Root)
    (names : List Text) (t : Tree) : Extends t (Tree.makeDirectories refused cwd again kind names t).2 :=
  makeDirectories_keeps refl trans (fun hfree => put hfree _) refused cwd again kind names t

theorem stepInto (h : Extends t u) {at_ : Place} {name : Text} (hs : t.stepInto at_ name = .ok q) :
    u.stepInto at_ name = .ok q := by
  obtain ⟨⟨mode, hd⟩, -⟩ := stepInto_ok hs
  rw [stepInto_of_node?_eq ((h _ _ hd).trans hd.symm), hs]

/-- A way that ends does not come past a free place. -/
theorem follow (h : Extends t u) {links : Nat} {at_ : Place} {names : List Text}
    (hf : t.follow links at_ names = .ok q) : u.follow links at_ names = .ok q := by
  induction links, at_, names using follow_induction (t := t) with
  | nil links at_ =>
    rw [follow_nil] at hf ⊢
    split at hf
    · next hsome =>
      obtain ⟨n, hn⟩ := Option.isSome_iff_exists.mp hsome
      rw [h _ _ hn]
      exact hf
    · cases hf
  | error hs => cases (follow_error hs).symm.trans hf
  | exhausted hs hq => cases (follow_links_zero hs hq).symm.trans hf
  | link hs hq ih =>
    rw [follow_link (h.stepInto hs) (h _ _ hq)]
    exact ih (follow_link hs hq ▸ hf)
  | shared hs hq ih =>
    rw [follow_shared (h.stepInto hs) (h _ _ hq)]
    exact ih (follow_shared hs hq ▸ hf)
  | @plain links at_ name names q' hs hl hk ih =>
    have hf' : t.follow links q' names = .ok q := follow_plain hs hl hk ▸ hf
    cases hn : t.node? q' with
    | none => cases (follow_of_free hn links names).symm.trans hf'
    | some n =>
      have hu := h _ _ hn
      rw [follow_plain (h.stepInto hs) (hu ▸ hn ▸ hl) (hu ▸ hn ▸ hk)]
      exact ih hf'

theorem lookup (h : Extends t u) (hl : t.lookup cwd path = .ok (q, n)) : u.lookup cwd path = .ok (q, n) := by
  rw [lookup_eq] at hl ⊢
  cases hr : t.resolve cwd path with
  | error e =>
    rw [hr] at hl
    cases hl
  | ok p =>
    obtain ⟨hc, hf⟩ := resolve_eq_ok_iff.mp hr
    rw [resolve_eq_ok_iff.mpr ⟨hc, h.follow hf⟩]
    rw [hr] at hl
    simp only at hl ⊢
    split at hl
    · next hn =>
      rw [h _ _ hn]
      exact hl
    · cases hl

end Extends
end Tangle.Tree
