import Tangle.Proofs.Session.Harvest
import Tangle.Proofs.Quoting.Word
import Tangle.Proofs.Text.Blank
import Tangle.Proofs.Text.Normal

/-! # What a session takes over

The functions of a dump stand in chunks, each ended by a null byte. A chunk that declares a function counts,
and of two that declare the same one the later. A session that is dumped as it is takes over the same again. -/
namespace Tangle

/-- A dump whose functions stand in chunks. -/
def Dump.ofChunks (options values : Bytes) (chunks : List Bytes) : Dump :=
  .files options values (chunks.flatMap (· ++ [0]))

namespace Session

section Options

theorem keepsOption_iff {l : Text} :
    keepsOption l = true ↔ l.isBlank = false ∧ ∀ w ∈ l.words.getLast?, w ∉ fixedOptions := by
  rw [Bool.eq_false_iff, ne_eq, ← Text.words_eq_nil_iff, keepsOption]
  cases hw : l.words.getLast? with
  | none => simpa using List.getLast?_eq_none_iff.mp hw
  | some w =>
    have hn : l.words ≠ [] := fun h => by simp [h] at hw
    simp [hn]

/-- The options are the lines that are not blank and whose last word is no fixed option. -/
theorem readOptions_eq (t : Text) : readOptions t = Text.join "\n" (t.bareLines.filter fun l =>
    !l.isBlank && l.words.getLast?.all (!fixedOptions.contains ·)) := by
  refine congrArg (Text.join "\n") (List.filter_congr fun l _ => ?_)
  rw [Bool.eq_iff_iff, keepsOption_iff]
  simp [Option.all_eq_true]

/-- The options of a text, read again, are the same. -/
theorem readOptions_readOptions (t : Text) : readOptions (readOptions t) = readOptions t := by
  have hl : ∀ l ∈ t.bareLines.filter keepsOption, Text.IsBare l ∧ l ≠ [] := by
    intro l hl
    obtain ⟨hm, hk⟩ := List.mem_filter.mp hl
    refine ⟨(Text.hasLines_bareLines t).bare l hm, ?_⟩
    rintro rfl
    exact absurd hk (by decide)
  rw [readOptions, readOptions, Text.bareLines_join hl, List.filter_filter]
  simp only [Bool.and_self]

theorem isNormal_readOptions (bs : Bytes) : (readOptions (Text.decode bs)).IsNormal := by
  refine Text.isNormal_join fun l hl => ?_
  exact (Text.isNormal_decode bs).of_part ((Text.hasLines_bareLines _).part l (List.mem_filter.mp hl).1)

end Options

section Chunks

/-- The name that a source declares, with the source. -/
def declaration? (source : Text) : Option (Text × Text) := (definedName source).toOption.map (·, source)

theorem declaration?_eq_some_iff {source : Text} {e : Text × Text} :
    declaration? source = some e ↔ definedName source = .ok e.1 ∧ e.2 = source := by
  obtain ⟨name, text⟩ := e
  rw [declaration?]
  cases definedName source with
  | ok n => simp [Except.toOption, eq_comm]
  | error f => simp [Except.toOption]

def noteSkipped (j : Journal) (source : Text) : Journal :=
  j.note 3 ("Skipping unparseable function dump: " ++ Text.display (source.take 40))

theorem foldl_addFunction (sources : List Text) (fs : Table Text) (j : Journal) :
    sources.foldl addFunction (fs, j) = (fs.setAll (sources.filterMap declaration?),
      (sources.filter fun source => (declaration? source).isNone).foldl noteSkipped j) := by
  induction sources generalizing fs j with
  | nil => rfl
  | cons source sources ih =>
    rw [List.foldl_cons, addFunction]
    cases hn : definedName source with
    | ok name =>
      have hd : declaration? source = some (name, source) := by rw [declaration?, hn]; rfl
      rw [ih, List.filterMap_cons_some hd, List.filter_cons_of_neg (by simp [hd])]
      rfl
    | error e =>
      have hd : declaration? source = none := by rw [declaration?, hn]; rfl
      rw [ih, List.filterMap_cons_none hd, List.filter_cons_of_pos (by simp [hd])]
      rfl

variable {chunks : List Bytes}

/-- The trimmed texts of chunks. -/
def sources (chunks : List Bytes) : List Text := chunks.map fun c => (Text.decode c).trim

theorem functionChunks_eq (h : ∀ c ∈ chunks, 0 ∉ c) :
    functionChunks (Text.decode (chunks.flatMap (· ++ [0]))) = (sources chunks).filter (!·.isEmpty) := by
  have hd : Text.decode (chunks.flatMap (· ++ [0])) = (chunks.map Text.decode).flatMap (· ++ [Symbol.nul]) := by
    clear h
    induction chunks with
    | nil => rfl
    | cons c chunks ih =>
      rw [List.flatMap_cons, List.append_assoc, List.singleton_append,
        Text.decode_append_ascii c (by decide), ih]
      simp [Symbol.nul]
  have hn : ∀ t ∈ chunks.map Text.decode, Symbol.nul ∉ t := by
    simpa [Text.nul_mem_decode] using h
  have hb : Text.trim [] = [] := rfl
  rw [functionChunks, hd, Text.pieces_flatMap hn]
  simp [sources, Function.comp_def, hb]

/-- The names that chunks declare, each with the text of its chunk. -/
def declarations (chunks : List Bytes) : List (Text × Text) := (sources chunks).filterMap declaration?

/-- The texts that declare nothing. A blank one is not worth a note. -/
def skipped (chunks : List Bytes) : List Text :=
  (sources chunks).filter fun source => !source.isEmpty && (declaration? source).isNone

theorem readFunctions_ofChunks (h : ∀ c ∈ chunks, 0 ∉ c) (j : Journal) :
    readFunctions (Text.decode (chunks.flatMap (· ++ [0]))) j =
      (({} : Table Text).setAll (declarations chunks), (skipped chunks).foldl noteSkipped j) := by
  have hd : ((sources chunks).filter (!·.isEmpty)).filterMap declaration? = declarations chunks := by
    rw [List.filterMap_filter]
    refine List.filterMap_congr fun source _ => ?_
    by_cases hn : source = []
    · subst hn
      rfl
    · simp [hn]
  rw [readFunctions, functionChunks_eq h, foldl_addFunction, hd, List.filter_filter]
  simp only [skipped, Bool.and_comm]

theorem table_ofChunks (h : ∀ c ∈ chunks, 0 ∉ c) (options values : Bytes) :
    (Dump.ofChunks options values chunks).table = ({} : Table Text).setAll (declarations chunks) :=
  congrArg (·.1) (readFunctions_ofChunks h {})

theorem load_ofChunks (h : ∀ c ∈ chunks, 0 ∉ c) (s : Session) (options values : Bytes) (j : Journal) :
    s.load (.ofChunks options values chunks) j =
      ((s.resumed (.ofChunks options values chunks)).harvest.mapError .definition).map fun s' =>
        (true, s', (skipped chunks).foldl noteSkipped j) := by
  have hc : (Dump.ofChunks options values chunks).isComplete = true := rfl
  have hf : (Dump.ofChunks options values chunks).held.functions = chunks.flatMap (· ++ [0]) := rfl
  rw [load_complete hc, hf, readFunctions_ofChunks h]

/-- A source as it stands in a table: trimmed, and read back as it was written. -/
structure IsStored (name source : Text) : Prop where
  declares : definedName source = .ok name
  trimmed : source.trim = source
  nul : Symbol.nul ∉ source
  normal : source.IsNormal

theorem isStored_of_mem_declarations (h : ∀ c ∈ chunks, 0 ∉ c) {e : Text × Text} (he : e ∈ declarations chunks) :
    IsStored e.1 e.2 := by
  obtain ⟨source, hs, hd⟩ := List.mem_filterMap.mp he
  obtain ⟨c, hc, rfl⟩ := List.mem_map.mp hs
  obtain ⟨hn, ht⟩ := declaration?_eq_some_iff.mp hd
  have hi := Text.trim_infix (Text.decode c)
  rw [ht]
  refine ⟨hn, Text.trim_trim _, fun hnul => ?_, (Text.isNormal_decode c).of_part hi⟩
  exact h c hc (Text.nul_mem_decode.mp (hi.subset hnul))

theorem isStored_of_mem_table (h : ∀ c ∈ chunks, 0 ∉ c) (options values : Bytes) :
    ∀ e ∈ (Dump.ofChunks options values chunks).table.toList, IsStored e.1 e.2 := by
  intro e he
  have hg := Table.get?_eq_some_iff.mpr he
  rw [table_ofChunks h, Table.get?_setAll_empty] at hg
  obtain ⟨d, hd, hv⟩ := Option.map_eq_some_iff.mp hg
  obtain ⟨hm, hk⟩ := List.mem_filter.mp (List.mem_of_getLast? hd)
  have hde : d = e := Prod.ext (of_decide_eq_true hk) hv
  exact hde ▸ isStored_of_mem_declarations h hm

end Chunks

section Redump

/-- The sources of a table, each on lines of its own. -/
def chunksOf (t : Table Text) : List Bytes := t.values.map fun source => Text.encode (source ++ [Symbol.newline])

variable {t : Table Text}

theorem decode_chunk {name source : Text} (h : IsStored name source) :
    Text.decode (Text.encode (source ++ [Symbol.newline])) = source ++ [Symbol.newline] :=
  h.normal.append_newline (rfl : Text.IsNormal [])

theorem zero_not_mem_chunksOf (ht : ∀ e ∈ t.toList, IsStored e.1 e.2) : ∀ c ∈ chunksOf t, 0 ∉ c := by
  intro c hc
  obtain ⟨source, hs, rfl⟩ := List.mem_map.mp hc
  obtain ⟨e, he, rfl⟩ := List.mem_map.mp hs
  rw [← Text.nul_mem_decode, decode_chunk (ht e he), List.mem_append, not_or]
  exact ⟨(ht e he).nul, by decide⟩

theorem sources_chunksOf (ht : ∀ e ∈ t.toList, IsStored e.1 e.2) : sources (chunksOf t) = t.values := by
  have hs : ∀ source ∈ t.values, (Text.decode (Text.encode (source ++ [Symbol.newline]))).trim = source := by
    intro source hs
    obtain ⟨e, he, rfl⟩ := List.mem_map.mp hs
    rw [decode_chunk (ht e he), Text.trim_append_newline (ht e he).trimmed]
  rw [sources, chunksOf, List.map_map]
  exact (List.map_congr_left hs).trans (List.map_id _)

theorem declarations_chunksOf (ht : ∀ e ∈ t.toList, IsStored e.1 e.2) : declarations (chunksOf t) = t.toList := by
  have hd : ∀ e ∈ t.toList, declaration? e.2 = some e :=
    fun e he => declaration?_eq_some_iff.mpr ⟨(ht e he).declares, rfl⟩
  rw [declarations, sources_chunksOf ht, Table.values, List.filterMap_map]
  exact (List.filterMap_congr hd).trans List.filterMap_some

theorem skipped_chunksOf (ht : ∀ e ∈ t.toList, IsStored e.1 e.2) : skipped (chunksOf t) = [] := by
  rw [skipped, sources_chunksOf ht, List.filter_eq_nil_iff]
  intro source hs
  obtain ⟨e, he, rfl⟩ := List.mem_map.mp hs
  have hd := declaration?_eq_some_iff.mpr ⟨(ht e he).declares, rfl⟩
  simp [hd]

end Redump

/-- The dump of a session as it is, with the values of its last dump. -/
def redump (s : Session) (values : Bytes) : Dump := .ofChunks s.options.encode values (chunksOf s.functions)

theorem resumed_redump {s : Session} {values : Bytes} (hf : ∀ e ∈ s.functions.toList, IsStored e.1 e.2)
    (ho : s.options.IsNormal) (hr : readOptions s.options = s.options)
    (hs : s.state = Text.decode values ++ "\n" ++ Text.join "\n" s.functions.values) :
    s.resumed (s.redump values) = s := by
  have ht : (s.redump values).table = s.functions := by
    rw [redump, table_ofChunks (zero_not_mem_chunksOf hf), declarations_chunksOf hf, Table.setAll_toList]
  have hopts : readOptions (Text.decode ((s.redump values).held.options)) = s.options := by
    refine Eq.trans ?_ hr
    exact congrArg readOptions ho
  rw [resumed, ht, hopts]
  have hv : Text.decode ((s.redump values).held.values) = Text.decode values := rfl
  rw [hv, ← hs]

/-- A session that has taken over a dump is dumped as the same again. -/
theorem resumed_of_harvest {s s' : Session} {options values : Bytes} {chunks : List Bytes}
    (h : ∀ c ∈ chunks, 0 ∉ c) (hs : (s.resumed (.ofChunks options values chunks)).harvest = .ok s') :
    (∀ e ∈ s'.functions.toList, IsStored e.1 e.2) ∧ s'.resumed (s'.redump values) = s' := by
  have ht := isStored_of_mem_table h options values
  obtain ⟨b, rfl, -⟩ := harvest_binds hs
  exact ⟨ht, resumed_redump ht (isNormal_readOptions options) (readOptions_readOptions _) rfl⟩

/-- Any three files whose functions stand in chunks are taken over, by any session. The table has the declared names
in the order in which they appear first, each with the last text that declares it. What has been taken over can be
dumped and loaded again without a change; a session whose bindings come from its caller, its built-in hooks and its
hook functions even keeps the order of its tables. -/
theorem load_stable (s : Session) (options values : Bytes) {chunks : List Bytes} (h : ∀ c ∈ chunks, 0 ∉ c)
    (j : Journal) :
    ∃ s', s.load (.ofChunks options values chunks) j = .ok (true, s', (skipped chunks).foldl noteSkipped j) ∧
      s.TakesOver s' (.ofChunks options values chunks) ∧
      s'.functions.keys = ((declarations chunks).map (·.1)).eraseDups ∧
      (∀ name, s'.functions.get? name = (((declarations chunks).filter (·.1 = name)).getLast?).map (·.2)) ∧
      s'.options = Text.join "\n" ((Text.decode options).bareLines.filter fun l =>
        !l.isBlank && l.words.getLast?.all (!fixedOptions.contains ·)) ∧
      ∀ k, ∃ b, s'.load (s'.redump values) k = .ok (true, { s' with bindings := b }, k) ∧
        b.Agrees s'.bindings ∧ (s.Restorable → b = s'.bindings) := by
  have hd : Defines (s.resumed (.ofChunks options values chunks)).functions := defines_readFunctions _ _
  obtain ⟨s', hs'⟩ := exists_harvest hd
  have ht := takesOver_of_harvest hs'
  have htable : s'.functions = ({} : Table Text).setAll (declarations chunks) :=
    ht.functions.trans (table_ofChunks h options values)
  refine ⟨s', by rw [load_ofChunks h, hs']; rfl, ht, ?_, fun name => ?_, ?_, fun k => ?_⟩
  · rw [htable, Table.keys_setAll]
  · rw [htable, Table.get?_setAll_empty]
  · exact ht.options.trans (readOptions_eq _)
  · obtain ⟨b, hb, hagrees, hsame⟩ := harvest_again hd hs'
    obtain ⟨hf, hr⟩ := resumed_of_harvest h hs'
    refine ⟨b, ?_, hagrees, fun hs => hsame ⟨hs.handler, hs.functions, hs.prelude⟩⟩
    have hl := load_ofChunks (zero_not_mem_chunksOf hf) s' s'.options.encode values k
    rw [skipped_chunksOf hf, ← redump, hr, hb] at hl
    exact hl

/-- A function that is declared twice, a blank chunk, one that declares nothing, and a hook with an undecoded byte. -/
def exampleChunks : List Bytes :=
  [Text.encode "f () \x7b :; \x7d\n", Text.encode " \n", Text.encode "f",
    Text.encode "mdsh-lang-awk () \x7b " ++ 0xFF :: Text.encode "; \x7d", Text.encode "f () \x7b cat; \x7d\n"]

/-- Options with a blank line and one that cannot be set. -/
def exampleOptions : Bytes := Text.encode "shopt -s extglob\n \nshopt -u login_shell\n"

theorem load_stable_chunks : ∃ s s', start ⟨"/tmp", "mdsh"⟩ {} [] {} = .ok s ∧ (∀ c ∈ exampleChunks, 0 ∉ c) ∧
    s.load (.ofChunks exampleOptions [] exampleChunks) {} = .ok (true, s', {}) ∧
    s'.functions.keys = ["f", "mdsh-lang-awk"] ∧ s'.functions.get? "f" = some "f () \x7b cat; \x7d" ∧
    s'.options = "shopt -s extglob" ∧ s'.load (s'.redump []) {} = .ok (true, s', {}) := by
  have hs : ∃ s, start ⟨"/tmp", "mdsh"⟩ {} [] {} = .ok s := ⟨_, rfl⟩
  have hc : ∀ c ∈ exampleChunks, 0 ∉ c := by decide +kernel
  have hj : (skipped exampleChunks).foldl noteSkipped {} = {} := by decide +kernel
  obtain ⟨s, hs⟩ := hs
  obtain ⟨s', hl, -, hnames, hsources, hoptions, hagain⟩ := load_stable s exampleOptions [] hc {}
  obtain ⟨b, hb, -, hr⟩ := hagain {}
  rw [hj] at hl
  refine ⟨s, s', hs, hc, hl, hnames.trans ?_, (hsources "f").trans ?_, hoptions.trans ?_, ?_⟩
  · decide +kernel
  · decide +kernel
  · decide +kernel
  · rw [hb, hr (start_ok hs).1.toRestorable]

end Session
end Tangle
