import Tangle.Session.Run
import Mathlib.Tactic.Common

/-! # Steps

A step is a function of a state, a bench as a rule, and a sequence of steps goes on from the state that the
first one leaves. Two steps match if they end alike on benches that are alike. -/
namespace Tangle.Work
variable {σ ω ε ζ α β : Type}

theorem bind_apply (x : ExceptT ε (StateM ω) α) (f : α → ExceptT ε (StateM ω) β) (m : ω) :
    (x >>= f) m = match x m with
      | (.ok a, n) => f a n
      | (.error e, n) => (.error e, n) := by
  show (ExceptT.bindCont f (x m).1 : ExceptT ε (StateM ω) β) (x m).2 = _
  rcases x m with ⟨_ | _, n⟩ <;> rfl

theorem bind_of_ok {x : ExceptT ε (StateM ω) α} {m n : ω} {a : α} (h : x m = (.ok a, n))
    (f : α → ExceptT ε (StateM ω) β) : (x >>= f) m = f a n := by
  rw [bind_apply, h]

theorem bind_of_error {x : ExceptT ε (StateM ω) α} {m n : ω} {e : ε} (h : x m = (.error e, n))
    (f : α → ExceptT ε (StateM ω) β) : (x >>= f) m = (.error e, n) := by
  rw [bind_apply, h]

theorem map_apply (g : α → β) (x : ExceptT ε (StateM ω) α) (m : ω) :
    (g <$> x) m = ((x m).1.map g, (x m).2) := by
  rw [map_eq_pure_bind, bind_apply]
  rcases x m with ⟨_ | _, n⟩ <;> rfl

theorem adapt_apply (g : ε → ζ) (x : Work σ ε α) (m : Bench σ) :
    (x.adapt g : Work σ ζ α) m = ((x m).1.mapError g, (x m).2) := rfl

theorem bind_ok_iff {x : ExceptT ε (StateM ω) α} {f : α → ExceptT ε (StateM ω) β} {m n : ω} {b : β} :
    (x >>= f) m = (.ok b, n) ↔ ∃ a k, x m = (.ok a, k) ∧ f a k = (.ok b, n) := by
  rw [bind_apply]
  constructor
  · intro h
    rcases hx : x m with ⟨e | a, k⟩ <;> rw [hx] at h
    · cases h
    · exact ⟨a, k, rfl, h⟩
  · rintro ⟨a, k, hx, hf⟩
    rw [hx]
    exact hf

theorem bind_error_iff {x : ExceptT ε (StateM ω) α} {f : α → ExceptT ε (StateM ω) β} {m n : ω} {e : ε} :
    (x >>= f) m = (.error e, n) ↔
      x m = (.error e, n) ∨ ∃ a k, x m = (.ok a, k) ∧ f a k = (.error e, n) := by
  rw [bind_apply]
  constructor
  · intro h
    rcases hx : x m with ⟨d | a, k⟩ <;> rw [hx] at h
    · cases h
      exact .inl rfl
    · exact .inr ⟨a, k, rfl, h⟩
  · rintro (hx | ⟨a, k, hx, hf⟩) <;> rw [hx]
    exact hf

theorem map_ok_iff {g : α → β} {x : ExceptT ε (StateM ω) α} {m n : ω} {b : β} :
    (g <$> x) m = (.ok b, n) ↔ ∃ a, x m = (.ok a, n) ∧ g a = b := by
  rw [map_apply]
  constructor
  · intro h
    rcases hx : x m with ⟨e | a, k⟩ <;> rw [hx] at h <;> cases h
    exact ⟨a, rfl, rfl⟩
  · rintro ⟨a, hx, rfl⟩
    rw [hx]
    rfl

theorem map_error_iff {g : α → β} {x : ExceptT ε (StateM ω) α} {m n : ω} {e : ε} :
    (g <$> x) m = (.error e, n) ↔ x m = (.error e, n) := by
  rw [map_apply]
  constructor
  · intro h
    rcases hx : x m with ⟨d | a, k⟩ <;> rw [hx] at h <;> cases h
    rfl
  · intro hx
    rw [hx]
    rfl

/-- Two endings with the same value or with related errors, on related benches. -/
inductive Matches (R : Bench σ → Bench σ → Prop) (E : ε → ζ → Prop) :
    Except ε α × Bench σ → Except ζ α × Bench σ → Prop
  | ok {a : α} {m n : Bench σ} (h : R m n) : Matches R E (.ok a, m) (.ok a, n)
  | error {e : ε} {f : ζ} {m n : Bench σ} (he : E e f) (h : R m n) : Matches R E (.error e, m) (.error f, n)

section Matches
variable {R : Bench σ → Bench σ → Prop} {E : ε → ζ → Prop}

theorem Matches.bind {x : Work σ ε α} {y : Work σ ζ α} {f : α → Work σ ε β} {g : α → Work σ ζ β}
    {m n : Bench σ} (h : Matches R E (x m) (y n))
    (hf : ∀ a k l, R k l → Matches R E (f a k) (g a l)) :
    Matches R E ((x >>= f) m) ((y >>= g) n) := by
  rw [bind_apply, bind_apply]
  generalize x m = p at h ⊢
  generalize y n = q at h ⊢
  cases h with
  | ok h => exact hf _ _ _ h
  | error he h => exact .error he h

theorem Matches.of_ok {a : α} {m : Bench σ} {q : Except ζ α × Bench σ} (h : Matches R E (.ok a, m) q) :
    ∃ n, q = (.ok a, n) ∧ R m n := by
  cases h with
  | ok h => exact ⟨_, rfl, h⟩

theorem Matches.of_error {e : ε} {m : Bench σ} {q : Except ζ α × Bench σ}
    (h : Matches R E (.error e, m) q) : ∃ f n, q = (.error f, n) ∧ E e f ∧ R m n := by
  cases h with
  | error he h => exact ⟨_, _, rfl, he, h⟩

theorem Matches.refl {E : ε → ε → Prop} (hb : ∀ m, R m m) (he : ∀ e, E e e) (p : Except ε α × Bench σ) :
    Matches R E p p := by
  rcases p with ⟨e | a, m⟩
  · exact .error (he e) (hb m)
  · exact .ok (hb m)

theorem Matches.symm {p : Except ε α × Bench σ} {q : Except ζ α × Bench σ} (h : Matches R E p q) :
    Matches (fun m n => R n m) (fun e f => E f e) q p := by
  cases h with
  | ok h => exact .ok h
  | error he h => exact .error he h

theorem Matches.trans {η : Type} {S T : Bench σ → Bench σ → Prop} {F : ζ → η → Prop} {G : ε → η → Prop}
    {p : Except ε α × Bench σ} {q : Except ζ α × Bench σ} {r : Except η α × Bench σ} (h : Matches R E p q)
    (k : Matches S F q r) (hb : ∀ {m n l}, R m n → S n l → T m l) (he : ∀ {e f g}, E e f → F f g → G e g) :
    Matches T G p r := by
  cases h with
  | ok h =>
    cases k with
    | ok k => exact .ok (hb h k)
  | error d h =>
    cases k with
    | error e k => exact .error (he d e) (hb h k)

theorem Matches.imp {F : ε → ζ → Prop} {p : Except ε α × Bench σ} {q : Except ζ α × Bench σ}
    (h : Matches R E p q) (he : ∀ {e f}, E e f → F e f) : Matches R F p q := by
  cases h with
  | ok h => exact .ok h
  | error d h => exact .error (he d) h

theorem Matches.map {p : Except ε α × Bench σ} {q : Except ζ α × Bench σ} (h : Matches R E p q)
    (g : α → β) : Matches R E (p.1.map g, p.2) (q.1.map g, q.2) := by
  cases h with
  | ok h => exact .ok h
  | error he h => exact .error he h

end Matches
end Tangle.Work
