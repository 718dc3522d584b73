import Tangle.Proofs.Feeding
import Tangle.Proofs.Files.Tree
import Tangle.Proofs.Text.Run
import Tangle.Proofs.Text.Utf8

/-! # The module that a search finds

A name without a slash is looked for in the directories of a search path. The search ends at the first of
them that has a regular file of that name, whether the file can be read or not, and also where the name is
too long to be looked up. So a file that cannot be read hides those of later directories. -/
namespace Tangle.Embedding
variable {t : Tree} {cwd : Place} {name d : Text} {ds : List Text} {bytes : Bytes} {f : EmbedFault}

/-- A directory holds a regular file of a name, and the file can be read. The empty text is no directory. -/
def Holds (t : Tree) (cwd : Place) (name d : Text) (bytes : Bytes) : Prop :=
  d ≠ [] ∧ ∃ place mode, t.lookup cwd (Path.ofText d / name) = .ok (place, .file bytes mode)

/-- A directory ends a search without a text. -/
inductive Blocks (t : Tree) (cwd : Place) (name d : Text) : EmbedFault → Prop
  | sealed {place : Place} {e : FileError} {mode : Nat} (hd : d ≠ [])
      (h : t.lookup cwd (Path.ofText d / name) = .ok (place, .sealed e mode)) :
      Blocks t cwd name d (.unreadable name e)
  | tooLong (hd : d ≠ []) (h : t.lookup cwd (Path.ofText d / name) = .error .nameTooLong) :
      Blocks t cwd name d (.file .nameTooLong)

/-- A search goes on behind a directory. -/
structure Passes (t : Tree) (cwd : Place) (name d : Text) : Prop where
  lacks : ∀ bytes, ¬Holds t cwd name d bytes
  free : ∀ f, ¬Blocks t cwd name d f

/-- What a search of directories comes to: the first one that it does not pass decides. -/
inductive Finds (t : Tree) (cwd : Place) (name : Text) : List Text → Except EmbedFault Text → Prop
  | nowhere {ds : List Text} (h : ∀ d ∈ ds, Passes t cwd name d) : Finds t cwd name ds (.error (.notInPath name))
  | text {before after : List Text} {d text : Text} {bytes : Bytes} (hb : ∀ b ∈ before, Passes t cwd name b)
      (hd : Holds t cwd name d bytes) (hs : statement (Path.ofText d / name) (Text.decode bytes) = .ok text) :
      Finds t cwd name (before ++ d :: after) (.ok text)
  | obstacle {before after : List Text} {d : Text} {f : EmbedFault} (hb : ∀ b ∈ before, Passes t cwd name b)
      (hd : Blocks t cwd name d f) : Finds t cwd name (before ++ d :: after) (.error f)

theorem embed_of_plain (hn : Path.slash ∉ name) : embed t cwd name ds =
    (findIn t cwd name ds >>= fun p => match t.read cwd p with
      | .error e => .error (.unreadable name e)
      | .ok bytes => statement p (Text.decode bytes)) := by
  have hf : find t cwd name ds = findIn t cwd name ds := if_neg hn
  rw [← hf]
  rfl

theorem findIn_of_check (hd : d ≠ []) : findIn t cwd name (d :: ds) =
    (check t cwd (Path.ofText d / name) >>= fun found =>
      if found then .ok (Path.ofText d / name) else findIn t cwd name ds) := by
  rw [findIn, if_neg (by simpa using hd)]
  rfl

theorem embed_of_holds (hn : Path.slash ∉ name) (h : Holds t cwd name d bytes) :
    embed t cwd name (d :: ds) = statement (Path.ofText d / name) (Text.decode bytes) := by
  obtain ⟨hd, place, mode, h⟩ := h
  have hc : check t cwd (Path.ofText d / name) = .ok true := by rw [check, h]; rfl
  have hr : t.read cwd (Path.ofText d / name) = .ok bytes := by rw [Tree.read, h]; rfl
  rw [embed_of_plain hn, findIn_of_check hd, hc]
  simp only [bind, Except.bind, if_true, hr]

theorem embed_of_blocks (hn : Path.slash ∉ name) (h : Blocks t cwd name d f) :
    embed t cwd name (d :: ds) = .error f := by
  rw [embed_of_plain hn]
  cases h with
  | @sealed place e mode hd h =>
    have hc : check t cwd (Path.ofText d / name) = .ok true := by rw [check, h]; rfl
    have hr : t.read cwd (Path.ofText d / name) = .error e := by rw [Tree.read, h]; rfl
    rw [findIn_of_check hd, hc]
    simp only [bind, Except.bind, if_true, hr]
  | tooLong hd h =>
    have hc : check t cwd (Path.ofText d / name) = .error (.file .nameTooLong) := by rw [check, h]
    rw [findIn_of_check hd, hc]
    rfl

theorem check_of_passes (hd : d ≠ []) (h : Passes t cwd name d) : check t cwd (Path.ofText d / name) = .ok false := by
  rw [check]
  split
  · next place n hl =>
    cases n with
    | file bytes mode => exact absurd ⟨hd, place, mode, hl⟩ (h.lacks bytes)
    | sealed e mode => exact absurd (.sealed hd hl) (h.free _)
    | directory | link | pipe | device | shared => rfl
  · next hl => exact absurd (.tooLong hd hl) (h.free _)
  · rfl

theorem passes_of_check (h : d ≠ [] → check t cwd (Path.ofText d / name) = .ok false) : Passes t cwd name d := by
  refine ⟨fun bytes hb => ?_, fun f hf => ?_⟩
  · obtain ⟨hd, place, mode, hl⟩ := hb
    simpa [check, hl, Node.isRegular] using h hd
  · cases hf with
    | sealed hd hl => simpa [check, hl, Node.isRegular] using h hd
    | tooLong hd hl => simpa [check, hl] using h hd

theorem findIn_of_passes (h : Passes t cwd name d) : findIn t cwd name (d :: ds) = findIn t cwd name ds := by
  by_cases hd : d = []
  · subst hd
    rfl
  · rw [findIn_of_check hd, check_of_passes hd h]
    rfl

theorem embed_append_of_passes (hn : Path.slash ∉ name) {before : List Text}
    (h : ∀ b ∈ before, Passes t cwd name b) : embed t cwd name (before ++ ds) = embed t cwd name ds := by
  induction before with
  | nil => rfl
  | cons b before ih =>
    obtain ⟨hb, hbs⟩ := List.forall_mem_cons.mp h
    rw [← ih hbs, embed_of_plain hn, embed_of_plain hn, List.cons_append, findIn_of_passes hb]

theorem Finds.embed_eq (hn : Path.slash ∉ name) {r : Except EmbedFault Text} (h : Finds t cwd name ds r) :
    embed t cwd name ds = r := by
  cases h with
  | nowhere h =>
    rw [← List.append_nil ds, embed_append_of_passes hn h, embed_of_plain hn]
    rfl
  | text hb hd hs => rw [embed_append_of_passes hn hb, embed_of_holds hn hd, hs]
  | obstacle hb hd => rw [embed_append_of_passes hn hb, embed_of_blocks hn hd]

/-- A directory that a search does not pass holds a file or blocks the search. -/
theorem exists_of_not_passes (h : ¬Passes t cwd name d) :
    (∃ bytes, Holds t cwd name d bytes) ∨ ∃ f, Blocks t cwd name d f := by
  by_contra hn
  push Not at hn
  exact h ⟨hn.1, hn.2⟩

theorem exists_finds (t : Tree) (cwd : Place) (name : Text) (ds : List Text) : ∃ r, Finds t cwd name ds r := by
  obtain ⟨before, rest, rfl, hb, hrest⟩ := exists_run (Passes t cwd name) ds
  cases rest with
  | nil =>
    rw [List.append_nil]
    exact ⟨_, .nowhere hb⟩
  | cons d after =>
    rcases exists_of_not_passes (hrest d rfl) with ⟨bytes, hd⟩ | ⟨f, hd⟩
    · obtain ⟨text, hs, -⟩ := Heredoc.embedded_feeds (Path.ofText d / name) (Text.decode bytes)
      exact ⟨_, .text hb hd hs⟩
    · exact ⟨_, .obstacle hb hd⟩

/-- Empty entries of a search path are passed over. -/
theorem findIn_filter (t : Tree) (cwd : Place) (name : Text) (ds : List Text) :
    findIn t cwd name (ds.filter (!·.isEmpty)) = findIn t cwd name ds := by
  induction ds with
  | nil => rfl
  | cons d ds ih =>
    by_cases hd : d = []
    · subst hd
      exact ih
    · rw [List.filter_cons_of_pos (by simpa using hd), findIn_of_check hd, findIn_of_check hd, ih]

theorem find_filter (t : Tree) (cwd : Place) (name : Text) (ds : List Text) :
    find t cwd name (ds.filter (!·.isEmpty)) = find t cwd name ds := by
  rw [find, find, findIn_filter]

theorem embed_filter (t : Tree) (cwd : Place) (name : Text) (ds : List Text) :
    embed t cwd name (ds.filter (!·.isEmpty)) = embed t cwd name ds := by
  rw [embed, embed, find_filter]

/-- A fault that is reported for a module by its name. -/
inductive Names (name : Text) : EmbedFault → Prop
  | notFound : Names name (.notFound name)
  | notInPath : Names name (.notInPath name)
  | unreadable (e : FileError) : Names name (.unreadable name e)

theorem check_error {p : Path} (h : check t cwd p = .error f) : f = .file .nameTooLong := by
  rw [check] at h
  split at h
  · cases h
  · cases h
    rfl
  · cases h

theorem findIn_error (h : findIn t cwd name ds = .error f) : f = .notInPath name ∨ f = .file .nameTooLong := by
  induction ds with
  | nil =>
    cases h
    exact .inl rfl
  | cons d ds ih =>
    by_cases hd : d = []
    · subst hd
      exact ih h
    rw [findIn_of_check hd] at h
    rcases bind_eq_error.mp h with hc | ⟨found, -, h⟩
    · exact .inr (check_error hc)
    · cases found with
      | true => cases h
      | false => exact ih h

theorem find_error (h : find t cwd name ds = .error f) :
    f = .notFound name ∨ f = .notInPath name ∨ f = .file .nameTooLong := by
  rw [find] at h
  split at h
  · rcases bind_eq_error.mp h with hc | ⟨found, -, h⟩
    · exact .inr (.inr (check_error hc))
    · cases found with
      | true => cases h
      | false =>
        cases h
        exact .inl rfl
  · exact .inr (findIn_error h)

/-- A module that is not embedded is named by the fault, unless a path was too long to be looked up. -/
theorem embed_error (h : embed t cwd name ds = .error f) : Names name f ∨ f = .file .nameTooLong := by
  rw [embed] at h
  rcases bind_eq_error.mp h with hp | ⟨p, -, h⟩
  · rcases find_error hp with rfl | rfl | rfl
    · exact .inl .notFound
    · exact .inl .notInPath
    · exact .inr rfl
  split at h
  · cases h
    exact .inl (.unreadable _)
  · next bytes _ =>
    obtain ⟨text, hs, -⟩ := Heredoc.embedded_feeds p (Text.decode bytes)
    cases hs.symm.trans h

theorem isEncodable_label {p : Path} (h : p.text.isEncodable = true) : (label p).isEncodable = true := by
  have hns : p.names.all Text.isEncodable = true := by
    rw [Path.text] at h
    split at h
    · next hns => rw [hns]; rfl
    · rw [Text.isEncodable_append, Bool.and_eq_true, Text.isEncodable_join (by decide)] at h
      exact h.2
  have hn : p.name.isEncodable = true := by
    rw [Path.name, List.getLastD_eq_getLast?]
    cases hl : p.names.getLast? with
    | none => rfl
    | some n => exact List.all_eq_true.mp hns n (List.mem_of_getLast? hl)
  exact List.all_eq_true.mpr fun s hs => List.all_eq_true.mp hn s (List.mem_filter.mp hs).1

/-- A module that is embedded has bytes, as its path and its contents have. -/
theorem isEncodable_embed {text : Text} (h : embed t cwd name ds = .ok text) : text.isEncodable = true := by
  rw [embed] at h
  obtain ⟨p, -, h⟩ := bind_eq_ok.mp h
  split at h
  · cases h
  · next bytes hr =>
    have hl := isEncodable_label (Tree.isEncodable_of_read hr)
    rw [statement] at h
    cases hs : Heredoc.statement sourceStatement (Text.decode bytes)
        (Heredoc.delimiter (Text.decode bytes) ("# --- EOF " ++ label p ++ " ---")) with
    | error f =>
      rw [hs] at h
      cases h
    | ok text' =>
      rw [hs] at h
      cases h
      have hd : Text.isEncodable ("# --- EOF " ++ label p ++ " ---") = true := by
        rw [Text.isEncodable_append, Text.isEncodable_append, hl]
        rfl
      have hh : sourceStatement.isEncodable = true := by decide
      exact Heredoc.isEncodable_statement hh (Text.isEncodable_decode _) (Heredoc.isEncodable_delimiter hd _) hs

/-- The first directory that has a regular file of a name, or in which the name cannot be looked up, decides
what is embedded. A file that can be read is embedded with the whole of its text. If no directory blocks the
search, it fails exactly if no directory holds such a file. -/
theorem embed_first_regular (t : Tree) (cwd : Place) (hn : Path.slash ∉ name) (ds : List Text) :
    (∀ r, embed t cwd name ds = r ↔ Finds t cwd name ds r) ∧
    (∀ d bytes, ∃ text, statement (Path.ofText d / name) (Text.decode bytes) = .ok text ∧
      Heredoc.Feeds text sourceStatement (Text.decode bytes)) ∧
    ((∀ d ∈ ds, ∀ f, ¬Blocks t cwd name d f) →
      (embed t cwd name ds = .error (.notInPath name) ↔ ∀ d ∈ ds, ∀ bytes, ¬Holds t cwd name d bytes) ∧
      ∀ f, embed t cwd name ds = .error f → f = .notInPath name) := by
  have hiff : ∀ r, embed t cwd name ds = r ↔ Finds t cwd name ds r := by
    refine fun r => ⟨fun h => ?_, Finds.embed_eq hn⟩
    obtain ⟨r', hr⟩ := exists_finds t cwd name ds
    rwa [← h, hr.embed_eq hn]
  refine ⟨hiff, fun d bytes => Heredoc.embedded_feeds _ _, fun hfree => ⟨?_, fun f hf => ?_⟩⟩
  · refine ⟨fun h => ?_, fun h => (hiff _).mpr (.nowhere fun d hd => ⟨h d hd, hfree d hd⟩)⟩
    cases (hiff _).mp h with
    | nowhere h => exact fun d hd => (h d hd).lacks
    | obstacle _ hd => cases hd
  · cases (hiff _).mp hf with
    | nowhere _ => rfl
    | @obstacle before after d f _ hd => exact absurd hd (hfree d (by simp) f)

/-- A directory and a file that cannot be read on the way to a file that can. -/
def shelves : Tree := ⟨[(["a"], .directory), (["a", "m"], .directory), (["b"], .directory),
  (["b", "m"], .file (Text.encode "x") 0o644), (["c"], .directory),
  (["c", "m"], .sealed .permissionDenied 0o200)]⟩

/-- A name of 256 bytes. -/
def longName : Text := List.replicate 256 (.char 'm')

theorem longName_blocks : Blocks shelves [] longName "b" (.file .nameTooLong) := by
  have hn : (Path.ofText "b" / longName).names = [("b" : Text)] ++ [longName] := by decide +kernel
  have hc : Tree.checkPath (Path.ofText "b" / longName) = .ok () := by decide +kernel
  have hb : shelves.follow Tree.mostLinks [] ["b"] = .ok ["b"] := by decide +kernel
  have hd : shelves.node? ["b"] = some (.directory 0o755) := by decide +kernel
  exact .tooLong (by decide) (Tree.lookup_of_isLong hn hc hb hd (by decide +kernel) (by decide +kernel))

theorem embed_first_regular_behind : ∃ text, embed shelves [] "m" ["", "a", "none", "b", "c"] = .ok text ∧
    Heredoc.Feeds text sourceStatement "x" := by
  have hn : Path.slash ∉ ("m" : Text) := by decide
  obtain ⟨hiff, htext, -⟩ := embed_first_regular shelves [] hn ["", "a", "none", "b", "c"]
  obtain ⟨text, hs, hf⟩ := htext "b" (Text.encode "x")
  have hp : ∀ d ∈ (["", "a", "none"] : List Text), Passes shelves [] "m" d := by
    simp only [List.forall_mem_cons]
    exact ⟨passes_of_check fun h => absurd rfl h, passes_of_check fun _ => by decide +kernel,
      passes_of_check fun _ => by decide +kernel, by simp⟩
  have hb : Holds shelves [] "m" "b" (Text.encode "x") := ⟨by decide, ["b", "m"], 0o644, by decide +kernel⟩
  exact ⟨text, (hiff _).mpr (Finds.text hp hb hs), hf⟩

/-- A file that cannot be read hides one that can, and a name may be too long to be not found. -/
theorem embed_hides_readable :
    Holds shelves [] "m" "b" (Text.encode "x") ∧
    embed shelves [] "m" ["c", "b"] = .error (.unreadable "m" .permissionDenied) ∧
    embed shelves [] longName ["b"] = .error (.file .nameTooLong) :=
  ⟨⟨by decide, ["b", "m"], 0o644, by decide +kernel⟩, by decide +kernel, embed_of_blocks (by decide +kernel) longName_blocks⟩

end Tangle.Embedding
