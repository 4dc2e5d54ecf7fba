import ThreatGraph.Proofs.Directories
import ThreatGraph.Proofs.Initialization
import ThreatGraph.Proofs.Sections

/-!
# Settings that are kept are loaded again

The text of settings is read as those settings, whatever their texts hold (`ofText?_of_text?`). So
settings that are kept in a file are the ones that are loaded from it afterwards. A batch size that
does not fit 64 bits with sign has no text, and then no file is changed (`persist_settles`).

The proof goes through the stages of keeping: settings become sections, whose names and values are
of the kind that lasts (`lasting_of_mem_sections`), sections become a text that states the same
tables, and the tables are decoded to the settings (`decode?_sections`). What happens to the files
is taken from `persist_surrounded`, where each stage that can fail is a case.
-/

namespace ThreatGraph

namespace FileSystem

variable {fs made : FileSystem} {path text : String}

/-- Creating directories changes no file. -/
theorem files_of_createFrom? {place names : List String}
    (h : createFrom? fs place names = some made) :
    made.files = fs.files ∧ made.binaries = fs.binaries := by
  induction names generalizing fs place with
  | nil =>
    obtain rfl := Option.some.inj h
    exact ⟨rfl, rfl⟩
  | cons name rest ih =>
    rw [createFrom?] at h
    split at h
    · exact ih h
    · split at h
      · exact ih h
      · dsimp only at h
        split at h
        · exact ih h
        · split at h
          · cases h
          · -- the new directory is no file
            have hrest := ih h
            exact hrest

theorem files_of_surround? (h : fs.surround? path = some made) :
    made.files = fs.files ∧ made.binaries = fs.binaries := by
  unfold surround? at h
  split at h
  · obtain rfl := Option.some.inj h
    exact ⟨rfl, rfl⟩
  · rw [createDirectories?] at h
    split at h
    · cases h
    · exact files_of_createFrom? h

/-- Where something is, there is no directory left to be created. -/
theorem surround?_of_isThere (h : fs.isThere path = true) : fs.surround? path = some fs := by
  unfold surround?
  split
  · rfl
  · next hparent =>
    obtain ⟨hparent, hne⟩ := Option.filter_eq_some_iff.mp hparent
    exact createDirectories?_of_isThere h hparent (by simpa using hne)

/-- Whether a file can be written at a path, once its directory is created. -/
def canKeep (fs : FileSystem) (path : String) : Bool := (fs.keep? path "").isSome

/-- It does not hang on the text whether a file can be written. -/
theorem isSome_keep? (fs : FileSystem) (path text : String) :
    (fs.keep? path text).isSome = fs.canKeep path := by
  have hwrite (made : FileSystem) :
      (made.writeText? path text).isSome = (made.writeText? path "").isSome := by
    unfold writeText?
    split
    · rfl
    · split
      · rfl
      · rfl
  rw [canKeep, keep?_eq_bind, keep?_eq_bind]
  cases fs.surround? path with
  | none => rfl
  | some made => exact hwrite made

end FileSystem

namespace Settings

variable {fs : FileSystem} {path text : String} {s : Settings}

/-! ## The document of settings -/

/-- A section with one entry lasts if its names are bare and its value lasts. -/
theorem lasting_of_entry {header name : String} {scalar : Toml.Scalar}
    (hheader : Toml.IsBare header) (hname : Toml.IsBare name) (hscalar : scalar.Lasting) :
    Toml.Section.Lasting ⟨header, [(name, scalar)]⟩ where
  name := hheader
  entries := by
    intro entry hentry
    obtain rfl := List.mem_singleton.mp hentry
    exact ⟨hname, hscalar⟩
  nodup := List.nodup_singleton name

theorem lasting_of_optionalEntry {header name : String} (hheader : Toml.IsBare header)
    (hname : Toml.IsBare name) (text : Option String) :
    Toml.Section.Lasting ⟨header, optionalEntry name text⟩ := by
  cases text with
  | none =>
    exact ⟨hheader, fun _ hentry => absurd hentry List.not_mem_nil, List.nodup_nil⟩
  | some text => exact lasting_of_entry hheader hname (.string text)

theorem lasting_of_mem_sections (hfits : Word.fitsSigned s.batchSize = true) :
    ∀ part ∈ s.sections, part.Lasting := by
  intro part hpart
  simp only [sections, List.mem_cons, List.not_mem_nil, or_false] at hpart
  rcases hpart with rfl | rfl | rfl | rfl
  · exact lasting_of_optionalEntry (by decide) (by decide) _
  · exact lasting_of_entry (by decide) (by decide) (.boolean _)
  · exact lasting_of_entry (by decide) (by decide) (.integer hfits)
  · exact lasting_of_optionalEntry (by decide) (by decide) _

/-- The one entry of a section is found in its table. -/
theorem only?_entry (name : String) (origin : Toml.Origin) (value : Toml) :
    only? name (some (.table origin [(name, value)])) = some (some value) := by
  simp [only?, fields?, Table.get?_cons]

/-- A value that may be left out is found if it is there. -/
theorem only?_optionalEntry (name : String) (origin : Toml.Origin) (text : Option String) :
    only? name (some (.table origin (Toml.tableEntries (optionalEntry name text)))) =
      some (text.map fun text => .scalar (.string text)) := by
  cases text with
  | none => rfl
  | some text => exact only?_entry name origin (.scalar (.string text))

/-- A text that may be left out is read as it was. -/
theorem optionalText?_map (text : Option String) :
    optionalText? (text.map fun text => .scalar (.string text)) = some text := by
  cases text with
  | none => rfl
  | some text => rfl

theorem size?_integer (size : Nat) : size? (some (.scalar (.integer size))) = some size := by
  rw [size?, if_pos (Int.natCast_nonneg size), Int.toNat_natCast]

/-- The document of settings states them. -/
theorem decode?_sections (s : Settings) :
    decode? (s.sections.map Toml.Section.toEntry) = some s := by
  have hknown : ((s.sections.map Toml.Section.toEntry).all fun entry =>
      ["mapping", "transform", "load", "log"].contains entry.1) = true := rfl
  have hmapping : Table.get? (s.sections.map Toml.Section.toEntry) "mapping" =
      some (.table .stated (Toml.tableEntries (optionalEntry "dir" s.mappingDir))) := rfl
  have htransform : Table.get? (s.sections.map Toml.Section.toEntry) "transform" =
      some (.table .stated [("strict", .scalar (.boolean s.strict))]) := rfl
  have hload : Table.get? (s.sections.map Toml.Section.toEntry) "load" =
      some (.table .stated [("batch_size", .scalar (.integer s.batchSize))]) := rfl
  have hlog : Table.get? (s.sections.map Toml.Section.toEntry) "log" =
      some (.table .stated (Toml.tableEntries (optionalEntry "filter" s.logFilter))) := rfl
  unfold decode?
  dsimp only
  rw [hknown, hmapping, htransform, hload, hlog, only?_optionalEntry, only?_entry, only?_entry,
    only?_optionalEntry]
  simp only [Bool.not_true, Bool.false_eq_true, if_false, Option.bind_eq_bind, Option.bind_some,
    optionalText?_map, flag?, size?_integer]
  rfl

/-- **The text of settings states them.** -/
theorem ofText?_of_text? (h : s.text? = some text) : ofText? text = some s := by
  rw [text?] at h
  split at h
  · next hfits =>
    obtain rfl := Option.some.inj h
    have hnames : (s.sections.map Toml.Section.name).Nodup := by
      have hlist : s.sections.map Toml.Section.name = ["mapping", "transform", "load", "log"] := rfl
      rw [hlist]
      decide
    rw [ofText?, Toml.parse?_writeSections (lasting_of_mem_sections hfits) hnames, Option.bind_some,
      decode?_sections]
  · cases h

/-- There is a text if the batch size fits 64 bits with sign. -/
theorem isSome_text?_iff : s.text?.isSome = true ↔ s.batchSize < 2 ^ 63 := by
  have hfits : Word.fitsSigned s.batchSize = true ↔ s.batchSize < 2 ^ 63 := by
    rw [Word.fitsSigned_iff]
    omega
  rw [← hfits, text?]
  split
  · next h => simp [h]
  · next h => simp [h]

/-! ## Keeping and loading -/

/-- Where no file can be written no settings are kept. -/
theorem persist_not_kept (htext : s.text? = some text) (h : fs.keep? path text = none) :
    ((persist FileSystem.host s path).run.run fs).1 ≠ .ok () := by
  rw [FileSystem.keep?_eq_bind] at h
  cases hmade : fs.surround? path with
  | none =>
    obtain ⟨parent, hparent⟩ := persist_unsurrounded s hmade
    rw [hparent]
    nofun
  | some made =>
    rw [hmade, Option.bind_some] at h
    rw [persist_surrounded s hmade, htext]
    dsimp only
    rw [h]
    nofun

/-- **Settings survive being kept.** If the batch size fits 64 bits with sign, settings are kept
wherever a file can be written, and once they are kept they are loaded again as they were. With a
greater batch size they are never kept: they have no text, which is noticed after the directory is
created, and no file is changed. Where there is a file, nothing at all is changed. -/
theorem persist_settles (s : Settings) (path : String) (fs : FileSystem) :
    let ended := (persist FileSystem.host s path).run.run fs
    (s.batchSize < 2 ^ 63 →
      (ended.1 = .ok () ↔ fs.canKeep path = true) ∧
        (ended.1 = .ok () → answerIn ended.2 (load FileSystem.host (some path)) = .ok s)) ∧
      (2 ^ 63 ≤ s.batchSize →
        (ended.1 = .error .unwritable ↔ (fs.surround? path).isSome = true) ∧
          ended.1 ≠ .ok () ∧
          (ended.2.files = fs.files ∧ ended.2.binaries = fs.binaries) ∧
          (fs.isThere path = true → ended = (.error .unwritable, fs))) := by
  intro ended
  constructor
  · intro hsize
    obtain ⟨text, htext⟩ := Option.isSome_iff_exists.mp (isSome_text?_iff.mpr hsize)
    rw [← FileSystem.isSome_keep? fs path text]
    cases hkeep : fs.keep? path text with
    | none =>
      have hfailed : ended.1 ≠ .ok () := persist_not_kept htext hkeep
      exact ⟨⟨fun hok => absurd hok hfailed, nofun⟩, fun hok => absurd hok hfailed⟩
    | some written =>
      have hended : ended = (.ok (), written) := persist_kept htext hkeep
      -- what was kept is read again, and reading undoes writing
      have hload : answerIn written (load FileSystem.host (some path)) = .ok s := by
        rw [load_text (FileSystem.readText?_of_keep? hkeep), ofText?_of_text? htext]
        rfl
      rw [hended]
      exact ⟨⟨fun _ => rfl, fun _ => rfl⟩, fun _ => hload⟩
  · intro hsize
    have htext : s.text? = none := by
      rw [← Option.not_isSome_iff_eq_none, isSome_text?_iff]
      omega
    -- the directories are made before the text is known to be none, so they may be left behind
    cases hmade : fs.surround? path with
    | none =>
      obtain ⟨parent, hparent⟩ := persist_unsurrounded s hmade
      have hended : ended = (.error (.noDirectory parent), fs) := hparent
      rw [hended]
      refine ⟨⟨nofun, nofun⟩, nofun, ⟨rfl, rfl⟩, fun hthere => ?_⟩
      rw [FileSystem.surround?_of_isThere hthere] at hmade
      cases hmade
    | some made =>
      have hended : ended = (.error .unwritable, made) := by
        have hrun := persist_surrounded s hmade
        rwa [htext] at hrun
      rw [hended]
      refine ⟨⟨fun _ => rfl, fun _ => rfl⟩, nofun, FileSystem.files_of_surround? hmade,
        fun hthere => ?_⟩
      rw [FileSystem.surround?_of_isThere hthere] at hmade
      rw [Option.some.inj hmade]

/-- Texts with quotes, backslashes, line breaks and control characters are kept, in a directory that
is not there before, next to the greatest batch size. With the next greater one a settings file
stays as it is. -/
theorem persist_settles_special :
    let special : Settings :=
      { mappingDir := some "C:\\maps\n'old' \"new\"", strict := true, batchSize := 2 ^ 63 - 1,
        logFilter := some "a='''\u0001\t\"\"\"" }
    let kept := (persist FileSystem.host special "user/config.toml").run.run ⟨[], [], [], []⟩
    let earlier : FileSystem := ⟨[], [], [(["config.toml"], "[load]\nbatch_size = 3\n")], []⟩
    (kept.1 = .ok () ∧
      answerIn kept.2 (load FileSystem.host (some "user/config.toml")) = .ok special) ∧
      (persist FileSystem.host { batchSize := 2 ^ 63 } "config.toml").run.run earlier =
        (.error .unwritable, earlier) := by
  intro special kept earlier
  have hspecial := (persist_settles special "user/config.toml" ⟨[], [], [], []⟩).1 (by decide)
  have hgreater := (persist_settles { batchSize := 2 ^ 63 } "config.toml" earlier).2 (by decide)
  have hok : kept.1 = .ok () := hspecial.1.mpr (by decide)
  exact ⟨⟨hok, hspecial.2 hok⟩, hgreater.2.2.2 (by decide)⟩

end Settings

end ThreatGraph
