import Tangle.Files.Replace
import Tangle.Proofs.Files.Tree

/-! # Replacements are atomic

Until a replacement is done, its trees differ from the first one at the place of the new file only, which was
free before and is not that of the destination. The last tree is the first one, or the first one with the new
file at the destination. -/
namespace Tangle.Replacement
variable {c : Circumstances} {t u : Tree} {cwd place target : Place} {destination : Path} {content : Bytes}
  {mode umask : Nat}

theorem check_eq_ok_iff {o : Operation} : c.check o = .ok () ↔ c.error o = none := by
  rw [Circumstances.check]
  cases c.error o <;> simp

theorem check_bind_eq_ok {o : Operation} {α : Type} {x : Except FileError α} {a : α}
    (h : (c.check o >>= fun _ => x) = .ok a) : c.error o = none ∧ x = .ok a := by
  obtain ⟨_, hc, hx⟩ := bind_eq_ok.mp h
  exact ⟨check_eq_ok_iff.mp hc, hx⟩

/-! The new file -/

theorem newPlace_ok {directory : Path} {name : Text} {n attempts : Nat}
    (h : newPlace c t directory name n attempts = .ok place) :
    t.node? place = none ∧ ∃ ending, t.locate [] (newPath directory name ending) = .ok place := by
  induction attempts generalizing n with
  | zero => cases h
  | succ attempts ih =>
    rw [newPlace] at h
    obtain ⟨q, hs, h⟩ := bind_eq_ok.mp h
    split at h
    · exact ih h
    · next hq =>
      cases h
      exact ⟨Option.not_isSome_iff_eq_none.mp hq, _, hs⟩

theorem length_newName (name ending : Text) :
    (newName name ending).length = name.length + ending.length + 2 := by
  simp [newName, Text.ofString]
  omega

theorem newPath_names (directory : Path) (name ending : Text) :
    (newPath directory name ending).names = directory.names ++ [newName name ending] := rfl

/-- The place of a new file is in its directory. -/
theorem place_eq {directory : Path} {name ending : Text} (hp : t.node? place = none)
    (h : t.locate [] (newPath directory name ending) = .ok place) :
    ∃ d, t.follow Tree.mostLinks [] directory.names = .ok d ∧ place = d ++ [newName name ending] := by
  have hn : (newPath directory name ending).isNameless = false := by
    by_contra hn
    obtain ⟨n, hnode⟩ := Tree.exists_node_of_locate (Bool.not_eq_false _ ▸ hn) h
    cases hp.symm.trans hnode
  have hname : (newPath directory name ending).name = newName name ending := by simp [Path.name, newPath_names]
  have hstart : Tree.startOf (newPath directory name ending) [] = [] := ite_self []
  obtain ⟨-, d, hd, hs⟩ := (Tree.locate_eq_ok_iff hn).mp h
  rw [hname] at hs
  rw [hstart, Path.parent, newPath_names, List.dropLast_concat] at hd
  obtain ⟨-, ⟨hone, -⟩ | ⟨htwo, -⟩ | rfl⟩ := Tree.stepInto_ok hs
  · have hlen := length_newName name ending
    have h1 : (newName name ending).length = 1 := hone ▸ rfl
    omega
  · exact absurd (hname.trans htwo) (Tree.names_eq_of_not_isNameless hn).2
  · exact ⟨d, hd, rfl⟩

theorem create_ok (h : create c t cwd destination = .ok (place, u)) :
    c.error .create = none ∧ t.node? place = none ∧ u = t.put place (.file [] newMode) ∧
    ∃ directory ending, t.follow Tree.mostLinks [] (destination.parent.absolute cwd).names = .ok directory ∧
      place = directory ++ [newName destination.name ending] := by
  rw [create] at h
  obtain ⟨_, hc, h⟩ := bind_eq_ok.mp h
  obtain ⟨q, hp, h⟩ := bind_eq_ok.mp h
  cases h
  obtain ⟨hq, ending, hl⟩ := newPlace_ok hp
  obtain ⟨directory, hd, he⟩ := place_eq hq hl
  exact ⟨check_eq_ok_iff.mp hc, hq, rfl, directory, ending, hd, he⟩

/-- Holds of a path that ends in a name of its own. -/
def IsNamed (p : Path) : Prop :=
  ∃ last, p.names.getLast? = some last ∧ last ≠ ("." : Text) ∧ last ≠ (".." : Text)

/-- Holds of a destination whose directory is the one that the text of its path names: no `..` in it stands
behind a link. -/
def IsDirect (t : Tree) (cwd : Place) (destination : Path) : Prop :=
  t.follow Tree.mostLinks (Tree.startOf destination cwd) destination.parent.names =
    t.follow Tree.mostLinks [] (destination.parent.absolute cwd).names

/-- Without `..` there is nothing to collapse. -/
theorem collapsed_eq {names : List Text} (hn : (".." : Text) ∉ names) : Path.collapsed names = names := by
  suffices h : ∀ done : List Text,
      names.foldl (fun done n => if n = (".." : Text) then done.dropLast else done ++ [n]) done = done ++ names from h []
  induction names with
  | nil => simp
  | cons n names ih =>
    simp only [List.mem_cons, not_or] at hn
    intro done
    rw [List.foldl_cons, if_neg (Ne.symm hn.1), ih hn.2, List.append_assoc, List.singleton_append]

/-- A path from the root without `..` is the path that its text makes. -/
theorem IsDirect.of_absolute (t : Tree) (cwd : Place) (hr : destination.root ≠ .relative)
    (hn : (".." : Text) ∉ destination.parent.names) : IsDirect t cwd destination := by
  have hstart : Tree.startOf destination cwd = [] := if_neg hr
  rw [IsDirect, hstart, Path.absolute, Path.parent, if_neg hr, List.nil_append]
  exact congrArg _ (collapsed_eq hn).symm

/-- The new file is not at the destination; nor below it, if it is in the destination's own directory and the
destination has a name of its own. -/
theorem aside {directory : Place} {ending : Text} (hp : t.node? place = none)
    (he : place = directory ++ [newName destination.name ending]) (hl : t.locate cwd destination = .ok target) :
    target ≠ place ∧ (IsNamed destination →
      t.follow Tree.mostLinks (Tree.startOf destination cwd) destination.parent.names = .ok directory →
      ¬ target <+: place) := by
  have hused : ∀ n, t.node? target = some n → target ≠ place := by
    rintro n hn rfl
    cases hp.symm.trans hn
  have hother : destination.name ≠ newName destination.name ending := fun h => by
    have hlen := congrArg List.length h
    rw [length_newName] at hlen
    omega
  cases hn : destination.isNameless with
  | true =>
    obtain ⟨n, hnode⟩ := Tree.exists_node_of_locate hn hl
    refine ⟨hused n hnode, fun ⟨last, hlast, _, hne⟩ => ?_⟩
    simp [Path.isNameless, hlast, hne] at hn
  | false =>
    obtain ⟨hnames, hup⟩ := Tree.names_eq_of_not_isNameless hn
    obtain ⟨-, d, hd, hs⟩ := (Tree.locate_eq_ok_iff hn).mp hl
    obtain ⟨⟨mode, hdir⟩, ⟨hone, rfl⟩ | ⟨htwo, -⟩ | rfl⟩ := Tree.stepInto_ok hs
    · refine ⟨hused _ hdir, fun ⟨last, hlast, hne, _⟩ => ?_⟩
      rw [hnames, List.getLast?_concat] at hlast
      exact absurd (Option.some.inj hlast ▸ hone) hne
    · exact absurd htwo hup
    · refine ⟨fun h => hother ?_, fun _ hsame h => ?_⟩
      · exact List.singleton_inj.mp (List.append_inj_right' (h.trans he) rfl)
      · cases hd.symm.trans hsame
        rw [he] at h
        obtain ⟨rest, hr⟩ := (List.prefix_append_right_inj _).mp h
        exact hother (List.head_eq_of_cons_eq hr)

/-! The mode and the place of the destination -/

/-- The mode that a destination is given: that of the file it leads to, or the default. A link that led to
nothing may lead to the new file. -/
inductive Given (umask : Nat) (t : Tree) (cwd : Place) (destination : Path) (target : Place) : Nat → Prop
  | kept {q : Place} {n : Node} (h : t.lookup cwd destination = .ok (q, n)) :
      Given umask t cwd destination target (n.mode &&& 0o7777)
  | default {e : FileError} (h : t.lookup cwd destination = .error e) (he : e ≠ .nameTooLong) :
      Given umask t cwd destination target (0o777 &&& (0o777 ^^^ umask))
  | own {n : Node} (h : t.lookup cwd destination = .error .notFound) (hn : t.node? target = some n) :
      Given umask t cwd destination target (newMode &&& 0o7777)

theorem Given.of_lookup {q : Place} {n : Node} (h : Given umask t cwd destination target mode)
    (hl : t.lookup cwd destination = .ok (q, n)) : mode = n.mode &&& 0o7777 := by
  cases h with
  | kept h =>
    cases h.symm.trans hl
    rfl
  | default h | own h => cases h.symm.trans hl

theorem Given.of_free (h : Given umask t cwd destination target mode)
    (hl : t.locate cwd destination = .ok target) (hn : t.node? target = none) :
    mode = 0o777 &&& (0o777 ^^^ umask) := by
  cases h with
  | kept h => cases h.symm.trans (Tree.lookup_of_free hl hn)
  | default => rfl
  | own _ hs => cases hn.symm.trans hs

theorem Given.lookup_ne (h : Given umask t cwd destination target mode) :
    t.lookup cwd destination ≠ .error .nameTooLong := by
  intro hl
  cases h with
  | kept h => cases h.symm.trans hl
  | default h he =>
    cases h.symm.trans hl
    exact he rfl
  | own h => cases h.symm.trans hl

/-- A place that a file may be moved to. -/
structure Replaceable (t : Tree) (cwd : Place) (destination : Path) (target : Place) : Prop where
  located : t.locate cwd destination = .ok target
  named : destination.isNameless = false
  not_directory : ∀ mode, t.node? target ≠ some (.directory mode)

theorem Replaceable.ne_nil (h : Replaceable t cwd destination target) : target ≠ [] := by
  rintro rfl
  exact h.not_directory _ rfl

theorem exists_modeFor (h : t.lookup cwd destination ≠ .error .nameTooLong) (umask : Nat) :
    ∃ mode, modeFor t cwd umask destination = .ok mode := by
  rw [modeFor]
  split
  · exact ⟨_, rfl⟩
  · next he => exact absurd he h
  · exact ⟨_, rfl⟩

theorem rename_eq_ok_iff {v : Tree} {n : Node} (hn : u.node? place = some n) :
    rename u cwd place destination = .ok v ↔
      ∃ target, Replaceable u cwd destination target ∧ v = (u.drop place).put target n := by
  rw [rename, bind_eq_ok]
  constructor
  · rintro ⟨target, hl, h⟩
    split_ifs at h with hnamed
    rw [hn] at h
    split at h
    · cases h
    · next hsome hd =>
      cases hsome
      exact ⟨target, ⟨hl, Bool.eq_false_iff.mpr hnamed, hd⟩, (Except.ok.inj h).symm⟩
    · next hnone _ => cases hnone
  · rintro ⟨target, h, rfl⟩
    refine ⟨target, h.located, ?_⟩
    rw [if_neg (by simp [h.named]), hn]
    split
    · next hd => exact absurd hd (h.not_directory _)
    · next hsome _ =>
      cases hsome
      rfl
    · next hnone _ => cases hnone

section New
variable (hp : t.node? place = none)
include hp

theorem replaceable_new :
    Replaceable (t.put place (.file content mode)) cwd destination target ↔
      Replaceable t cwd destination target := by
  have hnode : (∀ m, (t.put place (.file content mode)).node? target ≠ some (.directory m)) ↔
      ∀ m, t.node? target ≠ some (.directory m) := by
    rcases eq_or_ne target place with rfl | ht
    · simp [hp, Tree.node?_put_self (Tree.ne_nil_of_free hp)]
    · rw [Tree.node?_put_of_ne ht]
  constructor
  · intro h
    exact ⟨(Tree.locate_file hp content mode h.named).mp h.located, h.named, hnode.mp h.not_directory⟩
  · intro h
    exact ⟨(Tree.locate_file hp content mode h.named).mpr h.located, h.named, hnode.mpr h.not_directory⟩

/-- The new file moves to the destination and leaves nothing behind. -/
theorem rename_new : rename (t.put place (.file content mode)) cwd place destination = .ok u ↔
    ∃ target, Replaceable t cwd destination target ∧ u = t.put target (.file content mode) := by
  rw [rename_eq_ok_iff (Tree.node?_put_self (Tree.ne_nil_of_free hp) t _), Tree.drop_put_of_free hp]
  exact exists_congr fun target => and_congr_left fun _ => replaceable_new hp

theorem modeFor_new (hr : Replaceable t cwd destination target) (ht : target ≠ place)
    (h : modeFor (t.put place (.file content newMode)) cwd umask destination = .ok mode) :
    Given umask t cwd destination target mode := by
  rw [modeFor] at h
  rcases Tree.lookup_file hp content newMode cwd destination with hs | ⟨hf, hs | hs⟩ <;> rw [hs] at h
  · cases hlook : t.lookup cwd destination with
    | ok r =>
      rw [hlook] at h
      cases h
      exact .kept hlook
    | error e =>
      rw [hlook] at h
      split at h
      · next hr => cases hr
      · cases h
      · next hne he =>
        cases he
        cases h
        exact .default hlook hne
  · have hown : (Node.file content newMode).mode &&& 0o7777 = mode := Except.ok.inj h
    rw [← hown]
    cases hn : t.node? target with
    | none =>
      -- Nothing was there, so the path still leads nowhere.
      have hr' : Replaceable (t.put place (.file content newMode)) cwd destination target :=
        (replaceable_new hp).mpr hr
      cases hs.symm.trans (Tree.lookup_of_free hr'.located (by rw [Tree.node?_put_of_ne ht, hn]))
    | some n => exact .own hf hn
  · cases h
    exact .default hf nofun

theorem exists_modeFor_new (h : t.lookup cwd destination ≠ .error .nameTooLong) (umask : Nat) :
    ∃ mode, modeFor (t.put place (.file content newMode)) cwd umask destination = .ok mode := by
  refine exists_modeFor ?_ umask
  rcases Tree.lookup_file hp content newMode cwd destination with hs | ⟨-, hs | hs⟩ <;> rw [hs]
  · exact h
  all_goals simp

end New

/-! The operations -/

/-- What lets a new file be installed, and how that ends. -/
structure Installs (c : Circumstances) (umask : Nat) (t : Tree) (cwd place : Place) (destination : Path)
    (content : Bytes) (mode : Nat) (u : Tree) : Prop where
  no_error : ∀ o, o ≠ .create → c.error o = none
  mode_eq : modeFor (t.put place (.file content newMode)) cwd umask destination = .ok mode
  rename_eq : rename (t.put place (.file content mode)) cwd place destination = .ok u

theorem Installs.install_eq (h : Installs c umask t cwd place destination content mode u) :
    install c umask (t.put place (.file [] newMode)) cwd place destination content =
      ⟨.ok (), [t.put place (.file content newMode), t.put place (.file content mode), u]⟩ := by
  have hc : ∀ o, o ≠ .create → c.check o = .ok () := fun o ho => check_eq_ok_iff.mpr (h.no_error o ho)
  rw [install, hc .encode nofun, hc .write nofun, hc .inspect nofun, hc .setMode nofun, hc .rename nofun]
  simp only [Tree.put_put, bind, Except.bind, h.mode_eq, h.rename_eq]

/-- A tree that holds the new file at its place. -/
def IsDraft (t : Tree) (place : Place) (u : Tree) : Prop := ∃ bytes mode, u = t.put place (.file bytes mode)

theorem isDraft (t : Tree) (place : Place) (bytes : Bytes) (mode : Nat) :
    IsDraft t place (t.put place (.file bytes mode)) := ⟨bytes, mode, rfl⟩

/-- Either the file is installed, or until the failure the trees hold the new file and are otherwise those
they were. -/
theorem install_end (c : Circumstances) (umask : Nat) (t : Tree) (cwd place : Place) (destination : Path)
    (content : Bytes) :
    (∃ mode u, Installs c umask t cwd place destination content mode u) ∨
    ∃ e us, install c umask (t.put place (.file [] newMode)) cwd place destination content = ⟨.error e, us⟩ ∧
      ∀ u ∈ us, IsDraft t place u := by
  rw [install]
  simp only [Tree.put_put]
  split
  · exact .inr ⟨_, _, rfl, nofun⟩
  next he =>
  split
  · exact .inr ⟨_, _, rfl, by simp [isDraft]⟩
  next hw =>
  split
  · exact .inr ⟨_, _, rfl, by simp [isDraft]⟩
  next mode hi =>
  split
  · exact .inr ⟨_, _, rfl, by simp [isDraft]⟩
  next hs =>
  split
  · exact .inr ⟨_, _, rfl, by simp [isDraft]⟩
  next u hr =>
  obtain ⟨hi, hmode⟩ := check_bind_eq_ok hi
  obtain ⟨hr, hrename⟩ := check_bind_eq_ok hr
  refine .inl ⟨mode, u, fun o ho => ?_, hmode, hrename⟩
  cases o with
  | create => exact absurd rfl ho
  | encode => exact check_eq_ok_iff.mp he
  | write => exact check_eq_ok_iff.mp hw
  | inspect => exact hi
  | setMode => exact check_eq_ok_iff.mp hs
  | rename => exact hr

/-- What a replacement has done to a tree until it is done: nothing at its destination, and nothing elsewhere
but to add a file. The file is not below the destination either, unless the directory that the text of the path
names is another one than the destination's own. -/
structure Pending (t : Tree) (cwd : Place) (destination : Path) (u : Tree) : Prop where
  destination_eq : ∀ target, t.locate cwd destination = .ok target → u.node? target = t.node? target
  below_eq : IsNamed destination → IsDirect t cwd destination → ∀ target q, t.locate cwd destination = .ok target →
    target <+: q → u.node? q = t.node? q
  elsewhere : ∃ place, t.node? place = none ∧ ∀ q, q ≠ place → u.node? q = t.node? q

/-- What a replacement has done to a tree when it is done. -/
structure Replaced (umask : Nat) (t : Tree) (cwd : Place) (destination : Path) (content : Bytes) (u : Tree)
    (target : Place) (mode : Nat) : Prop where
  replaceable : Replaceable t cwd destination target
  mode_given : Given umask t cwd destination target mode
  destination_eq : u.node? target = some (.file content mode)
  elsewhere : ∀ q, q ≠ target → u.node? q = t.node? q

theorem pending_of_draft (h : create c t cwd destination = .ok (place, t.put place (.file [] newMode)))
    (hu : IsDraft t place u) : Pending t cwd destination u := by
  obtain ⟨-, hp, -, directory, ending, hd, he⟩ := create_ok h
  obtain ⟨bytes, mode, rfl⟩ := hu
  have hn : ∀ q, q ≠ place → (t.put place (.file bytes mode)).node? q = t.node? q :=
    fun q hq => Tree.node?_put_of_ne hq t _
  refine ⟨fun target hl => hn target (aside hp he hl).1, fun hnamed hdirect target q hl hq => hn q ?_, place, hp, hn⟩
  rintro rfl
  exact (aside hp he hl).2 hnamed (hdirect.trans hd) hq

theorem Pending.refl (h : create c t cwd destination = .ok (place, u)) : Pending t cwd destination t :=
  ⟨fun _ _ => rfl, fun _ _ _ _ _ _ => rfl, place, (create_ok h).2.1, fun _ _ => rfl⟩

theorem replaced_put (content : Bytes) (hp : t.node? place = none) (hr : Replaceable t cwd destination target)
    (hne : target ≠ place)
    (hm : modeFor (t.put place (.file content newMode)) cwd umask destination = .ok mode) :
    Replaced umask t cwd destination content (t.put target (.file content mode)) target mode :=
  ⟨hr, modeFor_new hp hr hne hm, Tree.node?_put_self hr.ne_nil t _, fun _ hq => Tree.node?_put_of_ne hq t _⟩

theorem exists_installs {target : Place} (hp : t.node? place = none) (hc : ∀ o, c.error o = none)
    (hl : t.lookup cwd destination ≠ .error .nameTooLong) (hr : Replaceable t cwd destination target)
    (umask : Nat) (content : Bytes) : ∃ mode u, Installs c umask t cwd place destination content mode u := by
  obtain ⟨mode, hm⟩ := exists_modeFor_new hp hl umask
  exact ⟨mode, _, fun o _ => hc o, hm, (rename_new hp).mpr ⟨target, hr, rfl⟩⟩

theorem last_concat (e : Except FileError Unit) (us : List Tree) (u : Tree) :
    Trace.last ⟨e, us ++ [u]⟩ t = u := by
  simp [Trace.last]

/-- The tree that is left when the new file has been removed. -/
theorem drop_last {e : Except FileError Unit} {us : List Tree} (hp : t.node? place = none)
    (hu : IsDraft t place u) (hus : ∀ u ∈ us, IsDraft t place u) : (Trace.last ⟨e, us⟩ u).drop place = t := by
  have hlast : IsDraft t place (Trace.last ⟨e, us⟩ u) := by
    rcases List.eq_nil_or_concat us with rfl | ⟨vs, v, rfl⟩
    · exact hu
    · rw [List.concat_eq_append] at hus ⊢
      rw [last_concat]
      exact hus v (by simp)
  obtain ⟨bytes, mode, h⟩ := hlast
  rw [h, Tree.drop_put_of_free hp]

/-- What a replacement needs: that no operation fails, and that there is a place for the new file and one
that it can be moved to. -/
structure Possible (c : Circumstances) (t : Tree) (cwd : Place) (destination : Path) : Prop where
  no_error : ∀ o, c.error o = none
  creates : ∃ new, create c t cwd destination = .ok new
  lookup_ne : t.lookup cwd destination ≠ .error .nameTooLong
  replaceable : ∃ target, Replaceable t cwd destination target

/-- The end of a replacement: the new file is where the destination was, or the tree is the one before. -/
inductive RunEnd (c : Circumstances) (umask : Nat) (t : Tree) (cwd : Place) (destination : Path)
    (content : Bytes) : Trace → Prop
  | done {us : List Tree} {u : Tree} {target : Place} {mode : Nat} (hp : Possible c t cwd destination)
      (hus : ∀ u ∈ us, Pending t cwd destination u)
      (hu : Replaced umask t cwd destination content u target mode) :
      RunEnd c umask t cwd destination content ⟨.ok (), us ++ [u]⟩
  | failed {e : FileError} {us : List Tree} (hp : ¬ Possible c t cwd destination)
      (hus : ∀ u ∈ us, Pending t cwd destination u) (hl : Trace.last ⟨.error e, us⟩ t = t) :
      RunEnd c umask t cwd destination content ⟨.error e, us⟩

theorem run_end (c : Circumstances) (umask : Nat) (t : Tree) (cwd : Place) (destination : Path)
    (content : Bytes) : RunEnd c umask t cwd destination content (run c umask t cwd destination content) := by
  rw [run]
  cases hc : create c t cwd destination with
  | error e =>
    refine .failed (fun hp => ?_) nofun rfl
    obtain ⟨new, hn⟩ := hp.creates
    cases hn.symm.trans hc
  | ok new =>
    obtain ⟨place, created⟩ := new
    obtain ⟨hcreate, hp, rfl, directory, ending, -, he⟩ := create_ok hc
    have hdraft : ∀ {u}, IsDraft t place u → Pending t cwd destination u := pending_of_draft hc
    simp only
    rcases install_end c umask t cwd place destination content with ⟨mode, u, hi⟩ | ⟨e, us, hi, hus⟩
    · obtain ⟨target, hr, rfl⟩ := (rename_new hp).mp hi.rename_eq
      have hu := replaced_put content hp hr (aside hp he hr.located).1 hi.mode_eq
      rw [hi.install_eq]
      show RunEnd c umask t cwd destination content ⟨.ok (), [_, _, _] ++ [_]⟩
      refine .done ⟨fun o => ?_, ⟨_, hc⟩, hu.mode_given.lookup_ne, target, hr⟩ ?_ hu
      · rcases eq_or_ne o .create with rfl | ho
        · exact hcreate
        · exact hi.no_error o ho
      · simp [hdraft, isDraft]
    · rw [hi]
      simp only [drop_last hp (isDraft t place _ _) hus]
      refine .failed (fun hpossible => ?_) (fun u hu => ?_) (last_concat _ (_ :: us) t)
      · obtain ⟨target, hr⟩ := hpossible.replaceable
        obtain ⟨mode, u, hinstall⟩ :=
          exists_installs hp hpossible.no_error hpossible.lookup_ne hr umask content
        cases hinstall.install_eq.symm.trans hi
      · simp only [List.mem_cons, List.mem_append, List.not_mem_nil, or_false] at hu
        rcases hu with (rfl | hu) | rfl
        · exact hdraft (isDraft t place _ _)
        · exact hdraft (hus u hu)
        · exact .refl hc

/-- A replacement is atomic: after each of its operations the destination is as it was, or it holds all of
the text and nothing else has changed. If the replacement fails, the tree is the one before; and it fails
exactly if an operation does, if there is no place for the new file, or if the destination cannot be
replaced. -/
theorem run_atomic (c : Circumstances) (umask : Nat) (t : Tree) (cwd : Place) (destination : Path)
    (text : Text) :
    let r := run c umask t cwd destination text.encode
    (∀ u ∈ r.trees, Pending t cwd destination u ∨ r.outcome = .ok () ∧ u = r.last t) ∧
    (r.outcome = .ok () → ∃ target mode,
      Replaced umask t cwd destination text.encode (r.last t) target mode ∧
      (∀ q n, t.lookup cwd destination = .ok (q, n) → mode = n.mode &&& 0o7777) ∧
      (t.node? target = none → mode = 0o777 &&& (0o777 ^^^ umask))) ∧
    (∀ e, r.outcome = .error e → r.last t = t) ∧
    (r.outcome = .ok () ↔ Possible c t cwd destination) := by
  intro r
  have hr : RunEnd c umask t cwd destination text.encode r := run_end c umask t cwd destination text.encode
  clear_value r
  cases hr with
  | @done us u target mode hp hus hu =>
    rw [last_concat]
    have hmode := hu.mode_given
    refine ⟨fun v hv => ?_, fun _ => ⟨target, mode, hu, fun q n => hmode.of_lookup,
      hmode.of_free hu.replaceable.located⟩, nofun, fun _ => hp, fun _ => rfl⟩
    rcases List.mem_append.mp hv with hv | hv
    · exact .inl (hus v hv)
    · exact .inr ⟨rfl, List.mem_singleton.mp hv⟩
  | failed hp hus hl => exact ⟨fun u hu => .inl (hus u hu), nofun, fun _ _ => hl, nofun, fun h => absurd h hp⟩

/-- The end of a replacement by a text: it takes the destination's place with all of its bytes, or the tree is the one
before. -/
inductive TextEnd (umask : Nat) (t : Tree) (cwd : Place) (destination : Path) (text : Text) : Trace → Prop
  | done {content : Bytes} {us : List Tree} {u : Tree} {target : Place} {mode : Nat} (hs : text.encoded = .ok content)
      (hu : Replaced umask t cwd destination content u target mode) :
      TextEnd umask t cwd destination text ⟨.ok (), us ++ [u]⟩
  | failed {e : FileError} {us : List Tree} (hl : Trace.last ⟨.error e, us⟩ t = t) :
      TextEnd umask t cwd destination text ⟨.error e, us⟩

theorem runText_end (c : Circumstances) (umask : Nat) (t : Tree) (cwd : Place) (destination : Path) (text : Text) :
    TextEnd umask t cwd destination text (runText c umask t cwd destination text) := by
  have hend := run_end (c.forText text) umask t cwd destination text.encode
  rw [runText]
  generalize run (c.forText text) umask t cwd destination text.encode = r at hend ⊢
  cases hend with
  | done hp hus hu =>
    refine .done ?_ hu
    have he := hp.no_error .encode
    rw [Circumstances.forText] at he
    rw [Text.encoded] at he ⊢
    split
    · rfl
    · next h =>
      rw [if_neg h] at he
      cases he
  | failed hp hus hl => exact .failed hl

/-- The new script takes over the mode of the old one. If there is no room for it, it is there with one byte for
a moment, and goes. -/
theorem run_atomic_script :
    let t : Tree := ⟨[(["out"], .directory), (["out", "doc.sh"], .file (Text.encode "old") 0o750)]⟩
    let p : Path := .ofText "out/doc.sh"
    let done := run noFaults 0o022 t [] p (Text.encode "new")
    let full := run { error := fun o => if o = .write then some .noSpace else none, written := 1 } 0o022 t [] p
      (Text.encode "new")
    (∃ target, Replaced 0o022 t [] p (Text.encode "new") (done.last t) target 0o750) ∧
    full.outcome = .error .noSpace ∧ (∃ u ∈ full.trees, u ≠ t ∧ Pending t [] p u) ∧ full.last t = t := by
  intro t p done full
  obtain ⟨-, hdone, -, -⟩ := run_atomic noFaults 0o022 t [] p "new"
  obtain ⟨hpending, -, hfull, -⟩ := run_atomic _ 0o022 t [] p "new"
  have hfails : full.outcome = .error .noSpace := by decide +kernel
  have hlook : t.lookup [] p = .ok (["out", "doc.sh"], .file (Text.encode "old") 0o750) := by decide +kernel
  obtain ⟨target, mode, hreplaced, hmode, -⟩ := hdone (by decide +kernel)
  cases hmode _ _ hlook
  obtain ⟨u, hu, hne⟩ : ∃ u ∈ full.trees, u ≠ t := by decide +kernel
  refine ⟨⟨target, hreplaced⟩, hfails, ⟨u, hu, hne, ?_⟩, hfull _ hfails⟩
  rcases hpending u hu with h | ⟨h, -⟩
  · exact h
  · cases hfails.symm.trans h

end Tangle.Replacement
