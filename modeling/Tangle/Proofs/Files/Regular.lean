import Tangle.Proofs.Files.Tree

/-! # Regular files below a place

A file of several names is at each of them. Making directories leaves all regular files as they are, and
putting a file leaves all others. -/
namespace Tangle.Tree
variable {t u v : Tree} {root p q : Place}

/-- The content and the mode of the regular file at a place. -/
def regular? (t : Tree) (p : Place) : Option (Bytes × Nat) :=
  match (t.node? p).map t.settled with
  | some (.file content mode) => some (content, mode)
  | _ => none

/-- The regular files at a place and below it are the same in two trees. -/
def SameBelow (root : Place) (t u : Tree) : Prop := ∀ p, root <+: p → u.regular? p = t.regular? p

theorem SameBelow.refl (root : Place) (t : Tree) : SameBelow root t t := fun _ _ => rfl

theorem SameBelow.trans (h : SameBelow root t u) (k : SameBelow root u v) : SameBelow root t v :=
  fun p hp => (k p hp).trans (h p hp)

theorem regular?_directory {mode : Nat} (h : t.node? p = some (.directory mode)) : t.regular? p = none := by
  rw [regular?, h]
  rfl

/-- A file of one name depends on its place only, a file of several names on the place of its content also. -/
theorem regular?_congr (h : u.node? p = t.node? p)
    (hs : ∀ place, t.node? p = some (.shared place) → u.node? place = t.node? place) :
    u.regular? p = t.regular? p := by
  rw [regular?, regular?, h]
  cases hp : t.node? p with
  | none => rfl
  | some n =>
    cases n with
    | shared place => simp only [Option.map_some, settled, hs place hp]
    | _ => rfl

theorem regular?_put_of_ne (hp : p ≠ q) (hs : t.node? p ≠ some (.shared q)) (n : Node) :
    (t.put q n).regular? p = t.regular? p :=
  regular?_congr (node?_put_of_ne hp t n) fun place hplace =>
    node?_put_of_ne (by rintro rfl; exact hs hplace) t n

theorem regular?_put_directory (hq : t.node? q = none) (mode : Nat) (p : Place) :
    (t.put q (.directory mode)).regular? p = t.regular? p := by
  have hd := node?_put_self (ne_nil_of_free hq) t (.directory mode)
  rcases eq_or_ne p q with rfl | hp
  · rw [regular?_directory hd, regular?, hq]
    rfl
  by_cases hs : t.node? p = some (.shared q)
  · have hs' : (t.put q (.directory mode)).node? p = some (.shared q) := (node?_put_of_ne hp t _).trans hs
    rw [regular?, regular?, hs, hs']
    simp only [Option.map_some, settled, hd, hq]
    rfl
  · exact regular?_put_of_ne hp hs _

/-- A directory is made at a free place. -/
theorem makeDirectory_ok {refused : Place → Option FileError} {cwd : Place} {path : Path}
    (h : makeDirectory refused t cwd path = .ok u) :
    ∃ place, t.node? place = none ∧ u = t.put place (.directory 0o755) := by
  rw [makeDirectory] at h
  obtain ⟨place, -, h⟩ := bind_eq_ok.mp h
  split at h
  · cases h
  · next hfree =>
    split at h <;> cases h
    exact ⟨place, Option.not_isSome_iff_eq_none.mp hfree, rfl⟩

/-- What making one directory keeps is kept when directories are made, whether all of them can be made or not:
those that are made stay. -/
theorem makeDirectories_keeps {R : Tree → Tree → Prop} (hr : ∀ t, R t t) (ht : ∀ {t u v}, R t u → R u v → R t v)
    (hp : ∀ {t place}, t.node? place = none → R t (t.put place (.directory 0o755)))
    (refused : Place → Option FileError) (cwd : Place) (again : Bool) (kind : Root) (names : List Text) (t : Tree) :
    R t (makeDirectories refused cwd again kind names t).2 := by
  have hmake : ∀ {t u path}, makeDirectory refused t cwd path = .ok u → R t u := fun h => by
    obtain ⟨place, hfree, rfl⟩ := makeDirectory_ok h
    exact hp hfree
  fun_induction makeDirectories refused cwd again kind names t with
  | case1 again names t path u h => exact hmake h
  | case2 => exact hr _
  | case3 again t n ns e u hu path h ih =>
    rw [hu] at ih
    exact ih
  | case4 again t n ns u hu v path h hv ih =>
    rw [hu] at ih
    exact ht ih (hmake hv)
  | case5 again t n ns u hu e path settle h hv ih =>
    have hs : (settle e u).2 = u := by
      simp only [settle]
      split <;> rfl
    rw [hu] at ih
    rw [hs]
    exact ih
  | case6 again names t path settle e he h =>
    have hs : (settle e t).2 = t := by
      simp only [settle]
      split <;> rfl
    rw [hs]
    exact hr _

theorem makeDirectories_same (root : Place) (refused : Place → Option FileError) (cwd : Place) (again : Bool)
    (kind : Root) (names : List Text) (t : Tree) :
    SameBelow root t (makeDirectories refused cwd again kind names t).2 :=
  makeDirectories_keeps (.refl root) .trans (fun hfree p _ => regular?_put_directory hfree _ p) refused cwd again kind
    names t

end Tangle.Tree
