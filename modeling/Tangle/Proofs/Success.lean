import Mathlib.Data.List.Forall2

/-! # Steps that succeed

A sequence of steps succeeds exactly if each of them does. -/
namespace Tangle
variable {ε α β : Type}

/-- Each of two steps has succeeded if they have succeeded one after the other. -/
theorem bind_eq_ok {x : Except ε α} {f : α → Except ε β} {b : β} :
    x >>= f = .ok b ↔ ∃ a, x = .ok a ∧ f a = .ok b := by
  cases x <;> simp [bind, Except.bind]

theorem bind_eq_error {x : Except ε α} {f : α → Except ε β} {e : ε} :
    x >>= f = .error e ↔ x = .error e ∨ ∃ a, x = .ok a ∧ f a = .error e := by
  cases x <;> simp [bind, Except.bind]

theorem map_eq_ok {x : Except ε α} {f : α → β} {b : β} :
    f <$> x = .ok b ↔ ∃ a, x = .ok a ∧ f a = b := by
  cases x <;> simp [Functor.map, Except.map]

theorem mapM_eq_ok {f : α → Except ε β} {xs : List α} {ys : List β} :
    xs.mapM f = .ok ys ↔ List.Forall₂ (fun x y => f x = .ok y) xs ys := by
  induction xs generalizing ys with
  | nil => simp [pure, Except.pure, eq_comm]
  | cons x xs ih =>
    simp only [List.mapM_cons, bind_eq_ok, ih, List.forall₂_cons_left_iff]
    constructor
    · rintro ⟨y, hy, zs, hzs, h⟩
      exact ⟨y, zs, hy, hzs, (Except.ok.inj h).symm⟩
    · rintro ⟨y, zs, hy, hzs, rfl⟩
      exact ⟨y, hy, zs, hzs, rfl⟩

/-- A sequence of steps fails as the first of them that fails. -/
theorem mapM_eq_error {f : α → Except ε β} {xs : List α} {e : ε} :
    xs.mapM f = .error e ↔ ∃ before x after, xs = before ++ x :: after ∧
      (∀ b ∈ before, ∃ y, f b = .ok y) ∧ f x = .error e := by
  induction xs with
  | nil => simp [pure, Except.pure]
  | cons x xs ih =>
    have hlast : ∀ y, (xs.mapM f >>= fun ys => pure (y :: ys)) = .error e ↔ xs.mapM f = .error e := fun y => by
      simp [bind_eq_error, pure, Except.pure]
    simp only [List.mapM_cons, bind_eq_error, hlast, ih]
    constructor
    · rintro (hx | ⟨y, hy, before, x', after, rfl, hb, hf⟩)
      · exact ⟨[], x, xs, rfl, nofun, hx⟩
      · exact ⟨x :: before, x', after, rfl, List.forall_mem_cons.mpr ⟨⟨y, hy⟩, hb⟩, hf⟩
    · rintro ⟨before, x', after, he, hb, hf⟩
      cases before with
      | nil =>
        cases he
        exact .inl hf
      | cons b before =>
        cases he
        obtain ⟨⟨y, hy⟩, hb⟩ := List.forall_mem_cons.mp hb
        exact .inr ⟨y, hy, before, x', after, rfl, hb, hf⟩

/-- Two passes succeed exactly if each element passes both steps. -/
theorem mapM_mapM_eq_ok {γ : Type} {f : α → Except ε β} {g : β → Except ε γ} {xs : List α} {zs : List γ} :
    (xs.mapM f >>= fun ys => ys.mapM g) = .ok zs ↔ List.Forall₂ (fun x z => (f x >>= g) = .ok z) xs zs := by
  simp only [bind_eq_ok, mapM_eq_ok]
  constructor
  · rintro ⟨ys, hf, hg⟩
    induction hf generalizing zs with
    | nil =>
      cases hg
      exact .nil
    | cons hx _ ih =>
      obtain ⟨z, zs, hz, hzs, rfl⟩ := List.forall₂_cons_left_iff.mp hg
      exact .cons ⟨_, hx, hz⟩ (ih hzs)
  · intro h
    induction h with
    | nil => exact ⟨[], .nil, .nil⟩
    | cons hx _ ih =>
      obtain ⟨y, hy, hz⟩ := hx
      obtain ⟨ys, hf, hg⟩ := ih
      exact ⟨y :: ys, .cons hy hf, .cons hz hg⟩

/-- Steps that only check what they turn into another value. -/
theorem mapM_checked_eq_ok {f : α → Except ε β} {p : α → Prop} {g : α → β}
    (h : ∀ x y, f x = .ok y ↔ p x ∧ y = g x) {xs : List α} {ys : List β} :
    xs.mapM f = .ok ys ↔ (∀ x ∈ xs, p x) ∧ ys = xs.map g := by
  simp only [mapM_eq_ok, h]
  constructor
  · intro hf
    induction hf with
    | nil => exact ⟨nofun, rfl⟩
    | cons hx _ ih => exact ⟨List.forall_mem_cons.mpr ⟨hx.1, ih.1⟩, by rw [hx.2, ih.2, List.map_cons]⟩
  · rintro ⟨hp, rfl⟩
    exact List.forall₂_map_right_iff.mpr (List.forall₂_same.mpr fun x hx => ⟨hp x hx, rfl⟩)

theorem forM_eq_ok {f : α → Except ε Unit} {xs : List α} :
    forM xs f = .ok () ↔ ∀ x ∈ xs, f x = .ok () := by
  induction xs with
  | nil => simp [pure, Except.pure]
  | cons x xs ih =>
    simp only [List.forM_cons, bind_eq_ok, ih, List.mem_cons, forall_eq_or_imp]
    exact ⟨fun ⟨(), hx, hxs⟩ => ⟨hx, hxs⟩, fun ⟨hx, hxs⟩ => ⟨(), hx, hxs⟩⟩

end Tangle
