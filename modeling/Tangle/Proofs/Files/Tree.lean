import Tangle.Files.Tree
import Tangle.Proofs.Success
import Mathlib.Tactic.Common

/-! # Trees that differ at one place

What is at a place after an entry has been put or dropped; and the ways through a tree in which a place
that was free has been taken by a file: they lead where they did, unless they led to that place. -/
namespace Tangle

namespace Tree
variable {t : Tree} {p q : Place} {n : Node}

theorem find?_putEntry (p : Place) (n : Node) (es : List (Place × Node)) (q : Place) :
    (putEntry p n es).find? (·.1 = q) = if q = p then some (p, n) else es.find? (·.1 = q) := by
  induction es with
  | nil => simp [putEntry, List.find?_singleton, eq_comm]
  | cons e es ih =>
    rw [putEntry]
    split
    · next he =>
      subst he
      by_cases hq : q = e.1
      · simp [hq]
      · simp [hq, Ne.symm hq]
    · next he =>
      rw [List.find?_cons, List.find?_cons, ih]
      by_cases hq : q = p
      · simp [hq, he]
      · simp [hq]

theorem ne_nil_of_free (h : t.node? p = none) : p ≠ [] := by
  rintro rfl
  cases h

theorem node?_put_of_ne (hq : q ≠ p) (t : Tree) (n : Node) : (t.put p n).node? q = t.node? q := by
  cases q with
  | nil => rfl
  | cons a q =>
    show ((putEntry p n t.entries).find? (·.1 = a :: q)).map _ = _
    rw [find?_putEntry, if_neg hq]
    rfl

theorem node?_put_self (hp : p ≠ []) (t : Tree) (n : Node) : (t.put p n).node? p = some n := by
  obtain ⟨a, p, rfl⟩ := List.exists_cons_of_ne_nil hp
  show ((putEntry (a :: p) n t.entries).find? (·.1 = a :: p)).map _ = _
  rw [find?_putEntry, if_pos rfl]
  rfl

/-- The place of no entry is free. -/
theorem notMem_of_free (h : t.node? p = none) {e : Place × Node} (he : e ∈ t.entries) : e.1 ≠ p := by
  obtain ⟨a, p, rfl⟩ := List.exists_cons_of_ne_nil (ne_nil_of_free h)
  have hn : t.entries.find? (·.1 = a :: p) = none := Option.map_eq_none_iff.mp h
  simpa using List.find?_eq_none.mp hn e he

theorem putEntry_of_notMem {es : List (Place × Node)} (h : ∀ e ∈ es, e.1 ≠ p) (n : Node) :
    putEntry p n es = es ++ [(p, n)] := by
  induction es with
  | nil => rfl
  | cons e es ih =>
    rw [putEntry, if_neg (h e List.mem_cons_self), ih fun e he => h e (List.mem_cons_of_mem _ he)]
    rfl

/-- A file that has come to a free place leaves nothing behind when it goes. -/
theorem drop_put_of_free (h : t.node? p = none) (n : Node) : (t.put p n).drop p = t := by
  have hf : t.entries.filter (·.1 ≠ p) = t.entries :=
    List.filter_eq_self.mpr fun e he => by simpa using notMem_of_free h he
  show Tree.mk ((putEntry p n t.entries).filter (·.1 ≠ p)) = t
  rw [putEntry_of_notMem fun e he => notMem_of_free h he, List.filter_append, hf]
  simp

theorem putEntry_putEntry (p : Place) (m n : Node) (es : List (Place × Node)) :
    putEntry p n (putEntry p m es) = putEntry p n es := by
  induction es with
  | nil => simp [putEntry]
  | cons e es ih =>
    rw [putEntry]
    split
    · next he => simp [putEntry, he]
    · next he => simp [putEntry, he, ih]

@[simp] theorem put_put (t : Tree) (p : Place) (m n : Node) : (t.put p m).put p n = t.put p n := by
  rw [put, put, putEntry_putEntry]
  rfl

theorem stepInto_of_node?_eq {u : Tree} {at_ : Place} (h : u.node? at_ = t.node? at_) (name : Text) :
    u.stepInto at_ name = t.stepInto at_ name := by
  rw [stepInto, stepInto, h]

theorem stepInto_free (h : t.node? p = none) (name : Text) : t.stepInto p name = .error .notFound := by
  rw [stepInto, h]

theorem stepInto_file {content : Bytes} {mode : Nat} (h : t.node? p = some (.file content mode)) (name : Text) :
    t.stepInto p name = .error .notDirectory := by
  rw [stepInto, h]

/-- A step stays, goes up or goes down, from a directory. -/
theorem stepInto_ok {at_ : Place} {name : Text} (h : t.stepInto at_ name = .ok q) :
    (∃ mode, t.node? at_ = some (.directory mode)) ∧
    (name = ("." : Text) ∧ q = at_ ∨ name = (".." : Text) ∧ q = at_.dropLast ∨ q = at_ ++ [name]) := by
  rw [stepInto] at h
  split at h
  · cases h
  · next mode hd =>
    refine ⟨⟨mode, hd⟩, ?_⟩
    split_ifs at h with hn hl hone htwo
    · exact .inl ⟨hone, (Except.ok.inj h).symm⟩
    · exact .inr (.inl ⟨htwo, (Except.ok.inj h).symm⟩)
    · exact .inr (.inr (Except.ok.inj h).symm)
  · cases h

/-- How a way ends, without a file at a place and with it: alike, or before the file came there was nothing
at the place, and now the way ends there. -/
inductive EndsAlike (p : Place) : Except FileError Place → Except FileError Place → Prop
  | same (r : Except FileError Place) : EndsAlike p r r
  | found : EndsAlike p (.error .notFound) (.ok p)
  | blocked : EndsAlike p (.error .notFound) (.error .notDirectory)

theorem EndsAlike.of_ok {r s : Except FileError Place} (h : EndsAlike p r s) (hr : r = .ok q) : s = .ok q := by
  cases h with
  | same => exact hr
  | found | blocked => cases hr

section Follow
variable {links : Nat} {at_ : Place} {name : Text} {names : List Text}

theorem follow_nil : t.follow links at_ [] = if (t.node? at_).isSome then .ok at_ else .error .notFound := by
  cases links <;> rfl

theorem follow_error {e : FileError} (hs : t.stepInto at_ name = .error e) :
    t.follow links at_ (name :: names) = .error e := by
  cases links <;> rw [follow, walk, hs]

theorem follow_links_zero {target : Text} (hs : t.stepInto at_ name = .ok q)
    (hq : t.node? q = some (.link target)) : t.follow 0 at_ (name :: names) = .error .tooManyLinks := by
  rw [follow, walk, hs]
  simp only [hq]

theorem follow_link {target : Text} (hs : t.stepInto at_ name = .ok q)
    (hq : t.node? q = some (.link target)) :
    t.follow (links + 1) at_ (name :: names) =
      t.follow links (startOf (.ofText target) at_) ((Path.ofText target).names ++ names) := by
  rw [follow, walk, hs]
  simp only [hq]

theorem follow_shared {place : Place} (hs : t.stepInto at_ name = .ok q)
    (hq : t.node? q = some (.shared place)) :
    t.follow (links + 1) at_ (name :: names) = t.follow links place names := by
  rw [follow, walk, hs]
  simp only [hq]

theorem follow_of_free (h : t.node? p = none) (links : Nat) (names : List Text) :
    t.follow links p names = .error .notFound := by
  cases names with
  | nil =>
    rw [follow_nil, h]
    rfl
  | cons n ns => exact follow_error (stepInto_free h n)

/-- A name that leads neither to a link nor, while ways of files may be followed, to one of several names of
a file. -/
theorem follow_plain (hs : t.stepInto at_ name = .ok q) (hl : ∀ target, t.node? q ≠ some (.link target))
    (hk : ∀ place, t.node? q = some (.shared place) → links = 0) :
    t.follow links at_ (name :: names) = t.follow links q names := by
  cases links with
  | zero =>
    rw [follow, walk, hs]
    simp only
    split
    · next hn _ => exact absurd hn (hl _)
    · next hsome => cases hsome
    · next hsome => cases hsome
    · rfl
  | succ links =>
    rw [follow, walk, hs]
    simp only
    split
    · next hn _ => exact absurd hn (hl _)
    · next hn _ => exact absurd hn (hl _)
    · next hn _ => cases hk _ hn
    · rfl

/-- Ways are followed by cases of what the next name leads to. -/
@[elab_as_elim]
theorem follow_induction {motive : Nat → Place → List Text → Prop}
    (nil : ∀ links at_, motive links at_ [])
    (error : ∀ {links at_ name names e}, t.stepInto at_ name = .error e → motive links at_ (name :: names))
    (exhausted : ∀ {at_ name names q target}, t.stepInto at_ name = .ok q →
      t.node? q = some (.link target) → motive 0 at_ (name :: names))
    (link : ∀ {links at_ name names q target}, t.stepInto at_ name = .ok q →
      t.node? q = some (.link target) →
      motive links (startOf (.ofText target) at_) ((Path.ofText target).names ++ names) →
      motive (links + 1) at_ (name :: names))
    (shared : ∀ {links at_ name names q place}, t.stepInto at_ name = .ok q →
      t.node? q = some (.shared place) → motive links place names → motive (links + 1) at_ (name :: names))
    (plain : ∀ {links at_ name names q}, t.stepInto at_ name = .ok q →
      (∀ target, t.node? q ≠ some (.link target)) →
      (∀ place, t.node? q = some (.shared place) → links = 0) →
      motive links q names → motive links at_ (name :: names))
    (links : Nat) (at_ : Place) (names : List Text) : motive links at_ names := by
  -- A link is followed with one link less to go and other names, so the induction is on the links first.
  induction links generalizing at_ names with
  | zero =>
    induction names generalizing at_ with
    | nil => exact nil 0 at_
    | cons name names ih =>
      cases hs : t.stepInto at_ name with
      | error e => exact error hs
      | ok q =>
        by_cases hl : ∃ target, t.node? q = some (.link target)
        · exact hl.elim fun target hq => exhausted hs hq
        · exact plain hs (not_exists.mp hl) (fun _ _ => rfl) (ih q)
  | succ links next =>
    induction names generalizing at_ with
    | nil => exact nil _ at_
    | cons name names ih =>
      cases hs : t.stepInto at_ name with
      | error e => exact error hs
      | ok q =>
        by_cases hl : ∃ target, t.node? q = some (.link target)
        · exact hl.elim fun target hq => link hs hq (next _ _)
        by_cases hk : ∃ place, t.node? q = some (.shared place)
        · exact hk.elim fun place hq => shared hs hq (next _ _)
        · exact plain hs (not_exists.mp hl) (fun place hq => (hk ⟨place, hq⟩).elim) (ih q)

end Follow

section File
variable (h : t.node? p = none) (content : Bytes) (mode : Nat)
include h

theorem follow_file_self (links : Nat) (names : List Text) :
    EndsAlike p (t.follow links p names) ((t.put p (.file content mode)).follow links p names) := by
  have hf := node?_put_self (ne_nil_of_free h) t (.file content mode)
  cases names with
  | nil =>
    rw [follow_nil, follow_nil, hf, h]
    exact .found
  | cons n ns =>
    rw [follow_error (stepInto_free h n), follow_error (stepInto_file hf n)]
    exact .blocked

theorem follow_file_of_ne {links : Nat} {at_ : Place} {names : List Text}
    (ha : at_ ≠ p → EndsAlike p (t.follow links at_ names)
      ((t.put p (.file content mode)).follow links at_ names)) :
    EndsAlike p (t.follow links at_ names) ((t.put p (.file content mode)).follow links at_ names) := by
  rcases eq_or_ne at_ p with rfl | hp
  · exact follow_file_self h content mode links names
  · exact ha hp

/-- A file at a free place changes only the ways that lead there. -/
theorem follow_file (links : Nat) (at_ : Place) (names : List Text) :
    EndsAlike p (t.follow links at_ names) ((t.put p (.file content mode)).follow links at_ names) := by
  refine follow_file_of_ne h content mode fun ha => ?_
  have hn : ∀ {q}, q ≠ p → (t.put p (.file content mode)).node? q = t.node? q :=
    fun hq => node?_put_of_ne hq t _
  have hsome : ∀ {q m}, t.node? q = some m → q ≠ p := fun hq hp => by cases (hp ▸ h).symm.trans hq
  induction links, at_, names using follow_induction (t := t) with
  | nil links at_ =>
    rw [follow_nil, follow_nil, hn ha]
    exact .same _
  | @error links at_ name names e hs =>
    rw [follow_error hs, follow_error (stepInto_of_node?_eq (hn ha) name ▸ hs)]
    exact .same _
  | @exhausted at_ name names q target hs hq =>
    rw [follow_links_zero hs hq,
      follow_links_zero (stepInto_of_node?_eq (hn ha) name ▸ hs) (hn (hsome hq) ▸ hq)]
    exact .same _
  | @link links at_ name names q target hs hq ih =>
    rw [follow_link hs hq, follow_link (stepInto_of_node?_eq (hn ha) name ▸ hs) (hn (hsome hq) ▸ hq)]
    exact follow_file_of_ne h content mode ih
  | @shared links at_ name names q place hs hq ih =>
    rw [follow_shared hs hq, follow_shared (stepInto_of_node?_eq (hn ha) name ▸ hs) (hn (hsome hq) ▸ hq)]
    exact follow_file_of_ne h content mode ih
  | @plain links at_ name names q hs hl hk ih =>
    have hs' := stepInto_of_node?_eq (hn ha) name ▸ hs
    rw [follow_plain hs hl hk]
    rcases eq_or_ne q p with rfl | hq
    · have hf := node?_put_self (ne_nil_of_free h) t (.file content mode)
      rw [follow_plain hs' (by simp [hf]) (by simp [hf])]
      exact follow_file_self h content mode links names
    · rw [follow_plain hs' (hn hq ▸ hl) (hn hq ▸ hk)]
      exact ih hq

end File

section Ways
variable {cwd : Place} {path : Path}

/-- A way that ends ends at something. -/
theorem exists_node_of_follow {links : Nat} {at_ : Place} {names : List Text}
    (h : t.follow links at_ names = .ok q) : ∃ n, t.node? q = some n := by
  induction links, at_, names using follow_induction (t := t) with
  | nil links at_ =>
    rw [follow_nil] at h
    split at h
    · next hsome =>
      cases h
      exact Option.isSome_iff_exists.mp hsome
    · cases h
  | error hs => cases (follow_error hs).symm.trans h
  | exhausted hs hp => cases (follow_links_zero hs hp).symm.trans h
  | link hs hp ih => exact ih (follow_link hs hp ▸ h)
  | shared hs hp ih => exact ih (follow_shared hs hp ▸ h)
  | plain hs hl hk ih => exact ih (follow_plain hs hl hk ▸ h)

/-- A way that goes on behind where it leads. Some of the links may have been used up. -/
theorem follow_append {links : Nat} {at_ : Place} {names : List Text} (h : t.follow links at_ names = .ok q)
    (rest : List Text) : ∃ left, t.follow links at_ (names ++ rest) = t.follow left q rest := by
  induction links, at_, names using follow_induction (t := t) with
  | nil links at_ =>
    rw [follow_nil] at h
    split at h
    · cases h
      exact ⟨links, rfl⟩
    · cases h
  | error hs => cases (follow_error hs).symm.trans h
  | exhausted hs hp => cases (follow_links_zero hs hp).symm.trans h
  | link hs hp ih =>
    rw [List.cons_append, follow_link hs hp, ← List.append_assoc]
    exact ih (follow_link hs hp ▸ h)
  | shared hs hp ih =>
    rw [List.cons_append, follow_shared hs hp]
    exact ih (follow_shared hs hp ▸ h)
  | plain hs hl hk ih =>
    rw [List.cons_append, follow_plain hs hl hk]
    exact ih (follow_plain hs hl hk ▸ h)

/-- A way that goes on by a last name, at which there is nothing. -/
theorem follow_concat_free {links : Nat} {at_ : Place} {names : List Text} {last : Text}
    (h : t.follow links at_ names = .ok q) (hs : t.stepInto q last = .ok p) (hp : t.node? p = none) :
    t.follow links at_ (names ++ [last]) = .error .notFound := by
  obtain ⟨left, hw⟩ := follow_append h [last]
  rw [hw, follow_plain hs (by simp [hp]) (by simp [hp]), follow_of_free hp]

theorem resolve_eq_ok_iff : t.resolve cwd path = .ok q ↔
    checkPath path = .ok () ∧ t.follow mostLinks (startOf path cwd) path.names = .ok q := by
  rw [resolve, bind_eq_ok]
  constructor
  · rintro ⟨_, hc, h⟩
    exact ⟨hc, h⟩
  · rintro ⟨hc, h⟩
    exact ⟨(), hc, h⟩

/-- A path that leads to a file has bytes. -/
theorem isEncodable_of_read {bytes : Bytes} (h : t.read cwd path = .ok bytes) : path.text.isEncodable = true := by
  obtain ⟨_, hl, -⟩ := bind_eq_ok.mp h
  obtain ⟨_, hr, -⟩ := bind_eq_ok.mp hl
  obtain ⟨hc, -⟩ := resolve_eq_ok_iff.mp hr
  obtain ⟨_, hc, -⟩ := bind_eq_ok.mp hc
  by_contra hn
  rw [FileError.checkText, if_pos (by simpa using hn)] at hc
  cases hc

/-- A path with a name of its own is the path of its directory and that name. -/
theorem names_eq_of_not_isNameless (h : path.isNameless = false) :
    path.names = path.parent.names ++ [path.name] ∧ path.name ≠ (".." : Text) := by
  rw [Path.isNameless] at h
  rcases List.eq_nil_or_concat path.names with hn | ⟨names, last, hn⟩
  · simp [hn] at h
  · have hlast : last ≠ (".." : Text) := by simpa [hn] using h
    simpa [Path.parent, Path.name, hn] using hlast

theorem locate_of_isNameless (h : path.isNameless = true) : t.locate cwd path = t.resolve cwd path := by
  rw [locate, resolve]
  simp only [h, if_true]

theorem locate_eq_ok_iff (h : path.isNameless = false) :
    t.locate cwd path = .ok q ↔ checkPath path = .ok () ∧
      ∃ d, t.follow mostLinks (startOf path cwd) path.parent.names = .ok d ∧ t.stepInto d path.name = .ok q := by
  rw [locate, h]
  simp only [bind_eq_ok, Bool.false_eq_true, if_false]
  constructor
  · rintro ⟨_, hc, h⟩
    exact ⟨hc, h⟩
  · rintro ⟨hc, h⟩
    exact ⟨(), hc, h⟩

theorem lookup_eq (t : Tree) (cwd : Place) (path : Path) : t.lookup cwd path =
    match t.resolve cwd path with
    | .error e => .error e
    | .ok q => match t.node? q with
      | some n => .ok (q, n)
      | none => .error .notFound := by
  rw [lookup]
  cases t.resolve cwd path with
  | error e => rfl
  | ok q =>
    simp only [bind, Except.bind]
    cases t.node? q <;> rfl

/-- A path without a name of its own leads to something. -/
theorem exists_node_of_locate (hn : path.isNameless = true) (h : t.locate cwd path = .ok q) :
    ∃ n, t.node? q = some n :=
  exists_node_of_follow (resolve_eq_ok_iff.mp (locate_of_isNameless hn ▸ h)).2

/-- There is nothing to look up at a free place. -/
theorem lookup_of_free (h : t.locate cwd path = .ok q) (hq : t.node? q = none) :
    t.lookup cwd path = .error .notFound := by
  cases hp : path.isNameless with
  | true =>
    obtain ⟨n, hn⟩ := exists_node_of_locate hp h
    cases hq.symm.trans hn
  | false =>
    obtain ⟨hc, d, hd, hs⟩ := (locate_eq_ok_iff hp).mp h
    rw [lookup_eq, resolve, hc, (names_eq_of_not_isNameless hp).1]
    simp only [bind, Except.bind, follow_concat_free hd hs hq]

/-- A name that is too long cannot be looked up in a directory. -/
theorem lookup_of_isLong {mode : Nat} {names : List Text} {last : Text} (hn : path.names = names ++ [last])
    (hc : checkPath path = .ok ()) (h : t.follow mostLinks (startOf path cwd) names = .ok q)
    (hq : t.node? q = some (.directory mode)) (hnul : Symbol.nul ∉ last) (hl : isLong last) :
    t.lookup cwd path = .error .nameTooLong := by
  have hs : t.stepInto q last = .error .nameTooLong := by
    simp only [stepInto, hq, if_neg hnul, hl, if_true]
  obtain ⟨left, hw⟩ := follow_append h [last]
  rw [lookup_eq, resolve, hc, hn, hw, follow_error hs]
  rfl

section File
variable (h : t.node? p = none) (content : Bytes) (mode : Nat)
include h

theorem resolve_file (cwd : Place) (path : Path) :
    EndsAlike p (t.resolve cwd path) ((t.put p (.file content mode)).resolve cwd path) := by
  rw [resolve, resolve]
  cases checkPath path with
  | error e => exact .same _
  | ok => exact follow_file h content mode _ _ _

/-- A file at a free place does not change what a path names, if the path ends in a name of its own. -/
theorem locate_file (hn : path.isNameless = false) :
    (t.put p (.file content mode)).locate cwd path = .ok q ↔ t.locate cwd path = .ok q := by
  rw [locate_eq_ok_iff hn, locate_eq_ok_iff hn]
  refine and_congr_right fun _ => exists_congr fun d => ?_
  have hf := node?_put_self (ne_nil_of_free h) t (.file content mode)
  rcases eq_or_ne d p with rfl | hd
  · rw [stepInto_free h, stepInto_file hf]
    simp
  rw [stepInto_of_node?_eq (node?_put_of_ne hd t _)]
  refine and_congr_left fun _ => ?_
  have hw := follow_file h content mode mostLinks (startOf path cwd) path.parent.names
  generalize t.follow _ _ _ = r at hw ⊢
  generalize follow _ _ _ _ = s at hw ⊢
  cases hw with
  | same => rfl
  | found => simp [Ne.symm hd]
  | blocked => simp

/-- A file at a free place does not change what a path leads to, unless it led to that place. -/
theorem lookup_file (cwd : Place) (path : Path) :
    (t.put p (.file content mode)).lookup cwd path = t.lookup cwd path ∨
    t.lookup cwd path = .error .notFound ∧
      ((t.put p (.file content mode)).lookup cwd path = .ok (p, .file content mode) ∨
        (t.put p (.file content mode)).lookup cwd path = .error .notDirectory) := by
  have hr := resolve_file h content mode cwd path
  have hf := node?_put_self (ne_nil_of_free h) t (.file content mode)
  rw [lookup_eq, lookup_eq]
  cases hw : t.resolve cwd path with
  | error e =>
    rw [hw] at hr
    generalize resolve _ _ _ = s at hr ⊢
    cases hr with
    | same => exact .inl rfl
    | found => exact .inr ⟨rfl, .inl (by simp only [hf])⟩
    | blocked => exact .inr ⟨rfl, .inr rfl⟩
  | ok q =>
    obtain ⟨n, hq⟩ := exists_node_of_follow (resolve_eq_ok_iff.mp hw).2
    have hqp : q ≠ p := by
      rintro rfl
      cases h.symm.trans hq
    rw [hr.of_ok hw]
    simp only [node?_put_of_ne hqp]
    exact .inl trivial

end File
end Ways
end Tree
end Tangle
