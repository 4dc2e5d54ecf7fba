import ThreatGraph.Proofs.Effects

/-!
# Making a settings file

The settings are loaded before any command is run, also before the one that makes the settings
file. So a file that holds settings is overwritten on request, but one that does not parse stays as
it is, and the request fails (`Cli.configInit_settles`).

Each operation of the file system has a law of runs (`run_writeText` and the others), so a command
is followed from one question to the next. What keeping settings comes to is stated without the
command: `FileSystem.keep?` is the file system in which the file and its directories are there.
-/

namespace ThreatGraph

variable {σ α β ε : Type}

/-! ## Questions and changes -/

/-- A question is asked before something else. -/
theorem run_liftM_bind {question : StateM σ α} {next : α → ExceptT ε (StateM σ) β} {s t : σ} {a : α}
    (h : question.run s = (a, t)) :
    ((liftM question : ExceptT ε (StateM σ) α) >>= next).run.run s = (next a).run.run t := by
  rw [ExceptT.run_bind, StateT.run_bind, ExceptT.run_liftM, StateT.run_map, h]
  rfl

namespace FileSystem

variable {fs written : FileSystem} {path text : String}

/-- A change that is not possible is not made. -/
theorem run_attempt_none {change : FileSystem → Option FileSystem} (h : change fs = none) :
    (attempt change).run fs = (false, fs) := by
  rw [attempt, StateT.run_modifyGet, h]
  rfl

/-- Whether a file is there is asked without changing anything. -/
theorem run_isThere (fs : FileSystem) (path : String) :
    (host.isThere path).run fs = (fs.isThere path, fs) := rfl

theorem run_readText? (fs : FileSystem) (path : String) :
    (host.readText? path).run fs = (fs.readText? path, fs) := rfl

/-- Writing a text succeeds where there is a place for it, and changes nothing otherwise. -/
theorem run_writeText (fs : FileSystem) (path text : String) :
    (host.writeText path text).run fs =
      match fs.writeText? path text with
      | none => (false, fs)
      | some written => (true, written) := by
  cases hchange : fs.writeText? path text with
  | none => exact run_attempt_none hchange
  | some written => exact run_attempt hchange

theorem run_createDirectories (h : fs.createDirectories? path = some written) :
    (host.createDirectories path).run fs = (true, written) := run_attempt h

/-- The file system with a text in the file at a path, whose directory is created first. -/
def keep? (fs : FileSystem) (path text : String) : Option FileSystem :=
  match (Path.parent? path).filter fun parent => !parent.isEmpty with
  | none => fs.writeText? path text
  | some parent => (fs.createDirectories? parent).bind fun made => made.writeText? path text

/-- The file system with the directory of the file at a path. -/
def surround? (fs : FileSystem) (path : String) : Option FileSystem :=
  match (Path.parent? path).filter fun parent => !parent.isEmpty with
  | none => some fs
  | some parent => fs.createDirectories? parent

/-- A text is kept by making the directories around it and writing it. -/
theorem keep?_eq_bind (fs : FileSystem) (path text : String) :
    fs.keep? path text = (fs.surround? path).bind fun made => made.writeText? path text := by
  unfold keep? surround?
  split
  · rfl
  · rfl

theorem readText?_of_keep? (h : fs.keep? path text = some written) :
    written.readText? path = some text := by
  unfold keep? at h
  split at h
  · exact readText?_of_writeText? h
  · obtain ⟨made, -, hwritten⟩ := Option.bind_eq_some_iff.mp h
    exact readText?_of_writeText? hwritten

/-- What can be read is there. -/
theorem isThere_of_readText? (h : fs.readText? path = some text) : fs.isThere path = true := by
  obtain ⟨place, hplace, hfile⟩ := Option.bind_eq_some_iff.mp h
  rw [isThere, hplace]
  simp [isFile, hfile]

end FileSystem

namespace Settings

variable {fs written : FileSystem} {path text : String}

/-- The text of the default settings. -/
def defaultText : String := String.ofList (Toml.writeSections ({} : Settings).sections)

/-- The settings of a new file are written as their text. -/
theorem text?_default : text? {} = some defaultText := rfl

/-- That text is read as these settings again. -/
theorem ofText?_default : ofText? defaultText = some {} := by decide +kernel

/-- Without a file the settings are the default ones. -/
theorem load_absent (h : fs.isThere path = false) :
    answerIn fs (load FileSystem.host (some path)) = .ok {} := by
  rw [answerIn, load, run_liftM_bind (FileSystem.run_isThere fs path), h]
  rfl

/-- With a file the settings are those that its text states. -/
theorem load_there (h : fs.isThere path = true) :
    answerIn fs (load FileSystem.host (some path)) =
      match fs.readText? path with
      | none => .error (.unreadable path)
      | some text => (ofText? text).elim (.error (.malformed path)) .ok := by
  rw [answerIn, load, run_liftM_bind (FileSystem.run_isThere fs path), h, Bool.not_true,
    if_neg Bool.false_ne_true, run_liftM_bind (FileSystem.run_readText? fs path)]
  cases fs.readText? path with
  | none => rfl
  | some text =>
    dsimp only
    cases ofText? text with
    | none => rfl
    | some settings => rfl

/-- Settings are loaded from a file if its text states some. -/
theorem load_text (h : fs.readText? path = some text) :
    answerIn fs (load FileSystem.host (some path)) =
      (ofText? text).elim (.error (.malformed path)) .ok := by
  rw [load_there (FileSystem.isThere_of_readText? h), h]

/-- Without its directory no settings are kept. -/
theorem persist_unsurrounded (settings : Settings) (h : fs.surround? path = none) :
    ∃ parent, (persist FileSystem.host settings path).run.run fs =
      (.error (.noDirectory parent), fs) := by
  cases hparent : (Path.parent? path).filter fun parent => !parent.isEmpty with
  | none =>
    rw [FileSystem.surround?, hparent] at h
    cases h
  | some parent =>
    rw [FileSystem.surround?, hparent] at h
    have hasked : (FileSystem.host.createDirectories parent).run fs = (false, fs) :=
      FileSystem.run_attempt_none h
    refine ⟨parent, ?_⟩
    rw [persist, hparent]
    dsimp only
    rw [run_liftM_bind hasked]
    rfl

/-- Once the directory is there, the text is made and then it is written. -/
theorem persist_surrounded (settings : Settings) {made : FileSystem}
    (h : fs.surround? path = some made) :
    (persist FileSystem.host settings path).run.run fs =
      match settings.text? with
      | none => (.error .unwritable, made)
      | some text =>
        match made.writeText? path text with
        | none => (.error (.notWritten path), made)
        | some written => (.ok (), written) := by
  -- what is left to do once the directories are there
  have hrest :
      (match settings.text? with
        | none => throw .unwritable
        | some text => do
          if !(← FileSystem.host.writeText path text) then throw (.notWritten path) :
        ExceptT SettingsDefect (StateM FileSystem) Unit).run.run made =
      match settings.text? with
      | none => (.error .unwritable, made)
      | some text =>
        match made.writeText? path text with
        | none => (.error (.notWritten path), made)
        | some written => (.ok (), written) := by
    cases settings.text? with
    | none => rfl
    | some text =>
      dsimp only
      rw [run_liftM_bind (FileSystem.run_writeText made path text)]
      cases made.writeText? path text with
      | none => rfl
      | some written => rfl
  cases hparent : (Path.parent? path).filter fun parent => !parent.isEmpty with
  | none =>
    rw [FileSystem.surround?, hparent] at h
    obtain rfl := Option.some.inj h
    rw [persist, hparent]
    exact hrest
  | some parent =>
    rw [FileSystem.surround?, hparent] at h
    rw [persist, hparent]
    dsimp only
    rw [run_liftM_bind (FileSystem.run_createDirectories h), Bool.not_true,
      if_neg Bool.false_ne_true]
    exact hrest

theorem persist_kept {settings : Settings} (htext : settings.text? = some text)
    (h : fs.keep? path text = some written) :
    (persist FileSystem.host settings path).run.run fs = (.ok (), written) := by
  rw [FileSystem.keep?_eq_bind] at h
  obtain ⟨made, hmade, hwritten⟩ := Option.bind_eq_some_iff.mp h
  rw [persist_surrounded settings hmade, htext]
  dsimp only
  rw [hwritten]

end Settings

namespace Cli

theorem Output.empty_append (o : Output) : ({} : Output) ++ o = o := by
  change Output.mk ("" ++ o.standard) ("" ++ o.error) = o
  rw [String.empty_append, String.empty_append]

variable {fs written : FileSystem} {path : String}

/-- A file that is there is kept unless it is to be overwritten. -/
theorem initConfig_kept (h : fs.keep? path Settings.defaultText = some written) (style : Style)
    (force : Bool) (o : Output) :
    ((initConfig FileSystem.host style path force).run.run o).run fs =
      if fs.isThere path && !force then ((.error (.alreadyThere path), o), fs)
      else ((.ok (), o ++ .lines [style.success ("wrote " ++ path)]), written) := by
  unfold initConfig
  rw [Run.run_bind_ok (Run.run_ask _ fs o), FileSystem.run_isThere]
  cases fs.isThere path && !force with
  | true => rfl
  | false =>
    exact Run.run_bind_ok
      (Run.run_ofExcept (Settings.persist_kept Settings.text?_default h) .settings o)

section Run

variable {host : Host (StateM σ)} {environment : Table String} {arguments : List String}
  {i : Invocation} {s t : σ}
  (harguments :
    Invocation.ofArguments (environment.get? Settings.pathVariable) arguments = .ok i)

include harguments

/-- A command that fails reports why, and ends with the exit code of failures. -/
theorem run_of_stopped {present : Present} {failure : Failure}
    (h : ((perform host present environment i).run.run {}).run s = ((.error failure, {}), t)) :
    (run host present environment arguments).run s =
      (⟨1, .errorLines ["error: " ++ failure.message]⟩, t) := by
  rw [run_of_perform harguments h, Outcome.ofResult, Output.empty_append]

/-- A command that succeeds puts out what it has to say. -/
theorem run_of_done {present : Present} {o : Output}
    (h : ((perform host present environment i).run.run {}).run s = ((.ok (), {} ++ o), t)) :
    (run host present environment arguments).run s = (⟨0, o⟩, t) := by
  rw [run_of_perform harguments h, Outcome.ofResult, Output.empty_append]

/-- No command is run without settings. -/
theorem run_unloaded (hhost : host.Still) {defect : SettingsDefect}
    (h : answerIn s (Settings.load host (Settings.path? environment i.config)) = .error defect)
    (present : Present) :
    (run host present environment arguments).run s =
      (⟨1, .errorLines ["error: " ++ (Failure.settings defect).message]⟩, s) := by
  have hload : (Settings.load host (Settings.path? environment i.config)).run.run s =
      (.error defect, s) := Prod.ext h (Settings.load_still hhost _ s)
  exact run_of_stopped harguments (Run.run_bind_error (Run.run_ofExcept hload .settings {}))

/-- The command writes the new file unless there is one that it may not replace, provided that
settings could be loaded before. -/
theorem run_configInit {force : Bool} (hi : i.command = .configInit force)
    (hpath : Settings.path? environment i.config = some path)
    (hkeep : fs.keep? path Settings.defaultText = some written) {settings : Settings}
    (hload : answerIn fs (Settings.load FileSystem.host (some path)) = .ok settings)
    (present : Present) :
    (run FileSystem.host present environment arguments).run fs =
      if fs.isThere path && !force then
        (⟨1, .errorLines ["error: " ++ (Failure.alreadyThere path).message]⟩, fs)
      else (⟨0, .lines [(Style.mk i.quiet).success ("wrote " ++ path)]⟩, written) := by
  have hloaded : (Settings.load FileSystem.host (some path)).run.run fs = (.ok settings, fs) :=
    Prod.ext hload (Settings.load_still FileSystem.host_still _ fs)
  have hperform : ((perform FileSystem.host present environment i).run.run {}).run fs =
      ((initConfig FileSystem.host ⟨i.quiet⟩ path force).run.run {}).run fs := by
    unfold perform
    rw [hpath, Run.run_bind_ok (Run.run_ofExcept hloaded .settings {}), hi]
  have hended := hperform.trans (initConfig_kept hkeep _ _ _)
  cases hkept : fs.isThere path && !force with
  | true => exact run_of_stopped harguments (hended.trans (if_pos hkept))
  | false => exact run_of_done harguments (hended.trans (if_neg (Bool.eq_false_iff.mp hkept)))

end Run

/-- **What becomes of a request for a settings file**, where the file can be written. A file that is
not there is made, and what is in it then are the default settings. A file with settings gives way
to it only if it is to be overwritten. A file without settings is kept and the request fails, even
if it is to be overwritten. -/
theorem configInit_settles {environment : Table String} {arguments : List String} {i : Invocation}
    {force : Bool}
    (harguments :
      Invocation.ofArguments (environment.get? Settings.pathVariable) arguments = .ok i)
    (hi : i.command = .configInit force)
    (hpath : Settings.path? environment i.config = some path)
    (hkeep : fs.keep? path Settings.defaultText = some written) (present : Present) :
    let ended := (run FileSystem.host present environment arguments).run fs
    let made : Outcome × FileSystem :=
      (⟨0, .lines [(Style.mk i.quiet).success ("wrote " ++ path)]⟩, written)
    let stopped (failure : Failure) : Outcome × FileSystem :=
      (⟨1, .errorLines ["error: " ++ failure.message]⟩, fs)
    answerIn written (Settings.load FileSystem.host (some path)) = .ok {} ∧
      (fs.isThere path = false → ended = made) ∧
      (fs.isThere path = true → fs.readText? path = none →
        ended = stopped (.settings (.unreadable path))) ∧
      ∀ text, fs.readText? path = some text →
        (Settings.ofText? text = none → ended = stopped (.settings (.malformed path))) ∧
          ∀ settings, Settings.ofText? text = some settings →
            ended = if force then made else stopped (.alreadyThere path) := by
  intro ended made stopped
  -- the settings are loaded before the command is looked at, so a file that is not read stops it
  have hunloaded {defect : SettingsDefect}
      (h : answerIn fs (Settings.load FileSystem.host (some path)) = .error defect) :
      ended = stopped (.settings defect) :=
    run_unloaded harguments FileSystem.host_still (by rw [hpath, h]) present
  have hloaded {settings : Settings}
      (h : answerIn fs (Settings.load FileSystem.host (some path)) = .ok settings) :
      ended = if fs.isThere path && !force then stopped (.alreadyThere path) else made :=
    run_configInit harguments hi hpath hkeep h present
  refine ⟨?_, fun habsent => ?_, fun hthere hbinary => ?_, fun text htext => ⟨fun hnone => ?_,
    fun settings hsettings => ?_⟩⟩
  · rw [Settings.load_text (FileSystem.readText?_of_keep? hkeep), Settings.ofText?_default]
    rfl
  · rw [hloaded (Settings.load_absent habsent), habsent]
    rfl
  · exact hunloaded (by rw [Settings.load_there hthere, hbinary])
  · exact hunloaded (by rw [Settings.load_text htext, hnone]; rfl)
  · rw [hloaded (by rw [Settings.load_text htext, hsettings]; rfl),
      FileSystem.isThere_of_readText? htext]
    cases force with
    | true => rfl
    | false => rfl

/-- A settings file with a text. -/
def configured (text : String) : FileSystem where
  current := []
  directories := []
  files := [(["config.toml"], text)]

/-- Settings are kept, unless they are to be overwritten. -/
theorem configInit_settles_configured :
    let request : List String := ["--config", "config.toml", "config", "init"]
    let earlier := configured "[load]\nbatch_size = 3\n"
    let ended (arguments : List String) := (run FileSystem.host 0 [] arguments).run earlier
    ended request =
        (⟨1, .errorLines ["error: config.toml already exists; pass --force to overwrite"]⟩,
          earlier) ∧
      ended (request ++ ["--force"]) =
        (⟨0, .lines ["✔ wrote config.toml"]⟩, configured Settings.defaultText) := by
  intro request earlier ended
  have hsettings : Settings.ofText? "[load]\nbatch_size = 3\n" = some { batchSize := 3 } := by
    decide +kernel
  obtain ⟨-, -, -, hkept⟩ := @configInit_settles earlier (configured Settings.defaultText)
    "config.toml" [] request ⟨some "config.toml", false, .configInit false⟩ false rfl rfl rfl rfl 0
  obtain ⟨-, -, -, hforced⟩ := @configInit_settles earlier (configured Settings.defaultText)
    "config.toml" [] (request ++ ["--force"]) ⟨some "config.toml", false, .configInit true⟩ true
    rfl rfl rfl rfl 0
  exact ⟨(hkept _ rfl).2 _ hsettings, (hforced _ rfl).2 _ hsettings⟩

/-- It is not enough to ask for the file to be overwritten: one with a misspelled name is kept. -/
theorem configInit_settles_misspelled :
    ¬ ∀ fs written : FileSystem,
      fs.keep? "config.toml" Settings.defaultText = some written →
        let ended := (run FileSystem.host 0 []
          ["--config", "config.toml", "config", "init", "--force"]).run fs
        ended.1.code = 0 ∧
          answerIn ended.2 (Settings.load FileSystem.host (some "config.toml")) = .ok {} := by
  intro h
  obtain ⟨hcode, -⟩ :=
    h (configured "[load]\nbatch = 3\n") (configured Settings.defaultText) rfl
  exact absurd hcode (by decide +kernel)

end Cli

end ThreatGraph
