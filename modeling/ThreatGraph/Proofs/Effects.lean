import Mathlib.Control.Monad.Basic
import ThreatGraph.Cli.Commands
import ThreatGraph.Host.FileSystem

/-!
# A command that fails touches no file

Surroundings that are a value are only changed by writing. Commands look at files before they write
anything: such a question changes nothing (`Still`), whatever it is answered, and so does a part of
a command that asks questions only. `Ends` says how a part of a command ends, and in which state of
its surroundings; the output streams are left out of it.

So a transformation that cannot have its settings, its mapping or its bundle leaves all files as
they are, and one that can have them makes one change, which is to write its script
(`Cli.transform_touches`).
-/

namespace ThreatGraph

variable {σ α β ε : Type}

/-! ## Questions -/

/-- Asking changes nothing. -/
def Still (question : StateM σ α) : Prop := ∀ s, (question.run s).2 = s

namespace Still

variable {question : StateM σ α}

theorem pure (a : α) : Still (Pure.pure a : StateM σ α) := fun _ => rfl

/-- A question that may fail is asked, and then another. -/
theorem exceptBind {question : ExceptT ε (StateM σ) α} {next : α → ExceptT ε (StateM σ) β}
    (h : Still question.run) (hnext : ∀ a, Still (next a).run) : Still (question >>= next).run := by
  intro s
  rcases hanswer : question.run.run s with ⟨answer, u⟩
  obtain rfl : u = s := by
    rw [← h s, hanswer]
  rw [ExceptT.run_bind, StateT.run_bind, hanswer]
  cases answer with
  | ok a => exact hnext a u
  | error e => rfl

/-- A question that cannot fail is asked, and then one that may. -/
theorem askBind {next : α → ExceptT ε (StateM σ) β} (h : Still question)
    (hnext : ∀ a, Still (next a).run) :
    Still ((liftM question : ExceptT ε (StateM σ) α) >>= next).run :=
  exceptBind (fun s => h s) hnext

end Still

/-- Looking at files and at the clock changes nothing. -/
structure Host.Still (host : Host (StateM σ)) : Prop where
  isThere (path : String) : ThreatGraph.Still (host.isThere path)
  readText? (path : String) : ThreatGraph.Still (host.readText? path)
  now : ThreatGraph.Still host.now

section Stages

variable {host : Host (StateM σ)}

/-- Looking for the settings leaves everything as it is. -/
theorem Settings.load_still (h : host.Still) (path : Option String) :
    Still (Settings.load host path).run := by
  cases path with
  | none => exact .pure _
  | some path =>
    refine Still.askBind (h.isThere path) fun there => ?_
    cases there with
    | false => exact .pure _
    | true =>
      refine Still.askBind (h.readText? path) fun text => ?_
      cases text with
      | none => exact .pure _
      | some text =>
        dsimp only
        split
        · exact .pure _
        · exact .pure _

namespace Mapping

/-- Reading documents leaves everything as it is. -/
theorem readDocuments_still (h : host.Still) (dir : String) (names : List DocumentName) :
    Still (readDocuments host dir names).run := by
  induction names with
  | nil => exact .pure _
  | cons name rest ih =>
    refine Still.askBind (h.readText? _) fun text => ?_
    cases text with
    | none => exact .pure _
    | some text => exact Still.exceptBind ih fun others => .pure _

theorem load_still (h : host.Still) (dir : Option String) : Still (Mapping.load host dir).run := by
  cases dir with
  | none => exact .pure builtin
  | some dir =>
    refine Still.exceptBind (readDocuments_still h dir _) fun texts => ?_
    exact .pure (ofTexts texts)

end Mapping

theorem Cli.readBundle_still (h : host.Still) (present : Cli.Present) (path : String) :
    Still (Cli.readBundle host present path).run := by
  refine Still.askBind (h.readText? path) fun text => ?_
  cases text with
  | none => exact .pure _
  | some text => exact .pure (Stix.readBundle path present text)

end Stages

/-! ## How a part of a command ends -/

/-- What a question is answered in a state of the surroundings. -/
def answerIn (s : σ) (question : ExceptT ε (StateM σ) α) : Except ε α := (question.run.run s).1

namespace Cli

namespace Run

variable {step : Run (StateM σ) α} {next : α → Run (StateM σ) β} {s t : σ} {o o' : Output} {a : α}

/-- Where a step succeeds, what follows starts with what it has left and put out. -/
theorem run_bind_ok (h : (step.run.run o).run s = ((.ok a, o'), t)) :
    ((step >>= next).run.run o).run s = ((next a).run.run o').run t := by
  rw [ExceptT.run_bind, StateT.run_bind, StateT.run_bind, h]
  rfl

theorem run_bind_error {failure : Failure}
    (h : (step.run.run o).run s = ((.error failure, o'), t)) :
    ((step >>= next).run.run o).run s = ((.error failure, o'), t) := by
  rw [ExceptT.run_bind, StateT.run_bind, StateT.run_bind, h]
  rfl

theorem run_ask (question : StateM σ α) (s : σ) (o : Output) :
    ((Run.ask question).run.run o).run s =
      ((.ok (question.run s).1, o), (question.run s).2) := rfl

/-- A question that can fail fails as the command reports it. -/
theorem run_ofExcept {question : ExceptT ε (StateM σ) α} {answer : Except ε α}
    (h : question.run.run s = (answer, t)) (failure : ε → Failure) (o : Output) :
    ((Run.ofExcept failure question).run.run o).run s = ((answer.mapError failure, o), t) := by
  calc ((Run.ofExcept failure question).run.run o).run s
    _ = (((question.run.run s).1.mapError failure, o), (question.run.run s).2) := rfl
    _ = ((answer.mapError failure, o), t) := by rw [h]

end Run

/-- From the state `s` a part of a command comes to a result and leaves its surroundings in some
state, whatever the streams hold by then. -/
def Ends (step : Run (StateM σ) α) (s : σ) (ending : Except Failure α × σ) : Prop :=
  ∀ output, ∃ written, (step.run.run output).run s = ((ending.1, written), ending.2)

namespace Ends

variable {step : Run (StateM σ) α} {next : α → Run (StateM σ) β} {s t : σ} {a : α}
  {ending : Except Failure α × σ}

theorem pure (a : α) (s : σ) : Ends (Pure.pure a) s (.ok a, s) := fun output => ⟨output, rfl⟩

theorem throw (failure : Failure) (s : σ) :
    Ends (MonadExcept.throw failure : Run (StateM σ) α) s (.error failure, s) :=
  fun output => ⟨output, rfl⟩

/-- Output is written without touching anything else. -/
theorem write (output : Output) (s : σ) : Ends (Run.write output) s (.ok (), s) :=
  fun before => ⟨before ++ output, rfl⟩

theorem ask (question : StateM σ α) (s : σ) :
    Ends (Run.ask question) s (.ok (question.run s).1, (question.run s).2) :=
  fun output => ⟨output, Run.run_ask question s output⟩

/-- What follows a step ends as it does behind what the step ends in. -/
theorem bind {ending : Except Failure β × σ} (h : Ends step s (.ok a, t))
    (hnext : Ends (next a) t ending) : Ends (step >>= next) s ending := by
  intro output
  obtain ⟨before, hbefore⟩ := h output
  obtain ⟨written, hwritten⟩ := hnext before
  exact ⟨written, (Run.run_bind_ok hbefore).trans hwritten⟩

/-- Nothing follows a part that fails. -/
theorem stop {failure : Failure} (h : Ends step s (.error failure, t)) :
    Ends (step >>= next) s (.error failure, t) := by
  intro output
  obtain ⟨before, hbefore⟩ := h output
  exact ⟨before, Run.run_bind_error hbefore⟩

/-- What comes of a part is looked at, also if it failed. -/
theorem caught (h : Ends step s ending) :
    Ends (ExceptT.lift step.run) s (.ok ending.1, ending.2) := by
  intro output
  obtain ⟨written, hwritten⟩ := h output
  refine ⟨written, ?_⟩
  rw [ExceptT.run_lift, StateT.run_map, StateT.run_map, hwritten]
  rfl

/-- A part that only asks ends as it is answered, and changes nothing. -/
theorem ofExcept {question : ExceptT ε (StateM σ) α} (h : Still question.run)
    (failure : ε → Failure) (s : σ) :
    Ends (Run.ofExcept failure question) s ((answerIn s question).mapError failure, s) := by
  have hanswer : question.run.run s = (answerIn s question, s) := Prod.ext rfl (h s)
  exact fun output => ⟨output, Run.run_ofExcept hanswer failure output⟩

/-- A part with a name ends as it would without one. -/
theorem task {host : Host (StateM σ)} (hhost : host.Still) (style : Style) (name : String)
    (h : Ends step s ending) : Ends (Run.task host style name step) s ending := by
  obtain ⟨result, u⟩ := ending
  refine bind (ask host.now s) ?_
  rw [hhost.now s]
  refine bind h.caught ?_
  cases result with
  | ok a => exact pure a u
  | error failure =>
    refine bind (ask host.now u) ?_
    rw [hhost.now u]
    dsimp only
    cases style.quiet with
    | false => exact bind (pure _ _) (throw _ _)
    | true => exact bind (write _ _) (throw _ _)

/-- A stage that changes nothing, before others: if it fails, so does the whole, and that `finish`
makes nothing of a failure is all that is asked of it. -/
theorem stage {γ : Type} {answer : Except Failure α} {rest : α → Except Failure γ}
    {finish : Except Failure γ → Except Failure β × σ} (h : Ends step s (answer, s))
    (hfinish : ∀ failure, finish (.error failure) = (.error failure, s))
    (hnext : ∀ a, Ends (next a) s (finish (rest a))) :
    Ends (step >>= next) s (finish (answer >>= rest)) := by
  cases answer with
  | ok a => exact h.bind (hnext a)
  | error failure =>
    have hstop : finish (.error failure >>= rest) = (.error failure, s) := hfinish failure
    rw [hstop]
    exact h.stop

end Ends

/-- The outcome for a command that came to a result, after what it wrote. -/
def Outcome.ofResult (output : Output) : Except Failure Unit → Outcome
  | .ok () => ⟨0, output⟩
  | .error failure => ⟨1, output ++ .errorLines ["error: " ++ failure.message]⟩

section Run

variable {host : Host (StateM σ)} {present : Present} {environment : Table String}
  {arguments : List String} {i : Invocation} {s t : σ}

/-- A run of the program comes to what its command comes to. -/
theorem run_of_perform {result : Except Failure Unit} {o : Output}
    (harguments :
      Invocation.ofArguments (environment.get? Settings.pathVariable) arguments = .ok i)
    (h : ((perform host present environment i).run.run {}).run s = ((result, o), t)) :
    (run host present environment arguments).run s = (.ofResult o result, t) := by
  rw [run, harguments]
  dsimp only
  rw [StateT.run_bind, h]
  rcases result with failure | ⟨⟩
  · rfl
  · rfl

/-- A run ends as its command does. -/
theorem run_of_ends {ending : Except Failure Unit × σ}
    (harguments :
      Invocation.ofArguments (environment.get? Settings.pathVariable) arguments = .ok i)
    (h : Ends (perform host present environment i) s ending) :
    ∃ output, (run host present environment arguments).run s =
      (.ofResult output ending.1, ending.2) := by
  obtain ⟨output, houtput⟩ := h {}
  exact ⟨output, run_of_perform harguments houtput⟩

end Run

/-! ## The script that is asked for -/

/-- The script that a request asks for, or why there is none. The settings, the mapping and the
bundle are had one after the other, where an option stands in for what is set. -/
def requestedScript (host : Host (StateM σ)) (s : σ) (present : Present)
    (settingsPath : Option String) (r : TransformRequest) : Except Failure Script := do
  let settings ← (answerIn s (Settings.load host settingsPath)).mapError .settings
  let mapping ← (answerIn s (Mapping.load host (r.mapping <|> settings.mappingDir))).mapError
    .mapping
  let objects ← (answerIn s (readBundle host present r.bundle)).mapError .bundle
  let collection := Collection.ofObjects mapping (settings.strict || r.strict) objects
  let batching := Loader.ofSize (r.batchSize.getD settings.batchSize)
  return (Loader.loadCollection (Script.store fun _ => .ok ()) batching collection {}).2

/-- What becomes of a script that is to be written to the file at a path, if there is one. -/
def delivered (host : Host (StateM σ)) (s : σ) (path : String) :
    Except Failure Script → Except Failure Unit × σ
  | .error failure => (.error failure, s)
  | .ok script =>
    match (host.writeText path script.text).run s with
    | (true, written) => (.ok (), written)
    | (false, left) => (.error (.notCreated path), left)

/-- A script is written, and then there are only reports on it. -/
theorem delivered_ends (host : Host (StateM σ)) (s : σ) (path : String) (script : Script)
    {reports : Run (StateM σ) Unit} (hreports : ∀ u, Ends reports u (.ok (), u)) :
    Ends
      (do
        if !(← Run.ask (host.writeText path script.text)) then throw (.notCreated path)
        reports)
      s (delivered host s path (.ok script)) := by
  refine .bind (.ask _ s) ?_
  rw [delivered]
  rcases (host.writeText path script.text).run s with ⟨_ | _, u⟩
  · exact .stop (.throw _ u)
  · exact hreports u

/-- A transformation changes nothing but by writing the script that is asked for. -/
theorem perform_transform {host : Host (StateM σ)} (h : host.Still) {i : Invocation}
    {r : TransformRequest} {path : String} (hi : i.command = .transform r)
    (hpath : r.output = some path) (present : Present) (environment : Table String) (s : σ) :
    Ends (perform host present environment i) s
      (delivered host s path
        (requestedScript host s present (Settings.path? environment i.config) r)) := by
  have hfinish : ∀ failure, delivered host s path (.error failure) = (.error failure, s) :=
    fun failure => rfl
  unfold perform requestedScript
  refine Ends.stage (.ofExcept (Settings.load_still h _) _ s) hfinish fun settings => ?_
  simp only [hi]
  unfold transform
  refine Ends.stage (.task h _ _ (.ofExcept (Mapping.load_still h _) _ s)) hfinish
    fun mapping => ?_
  refine Ends.stage (.task h _ _ (.ofExcept (readBundle_still h present _) _ s)) hfinish
    fun objects => ?_
  refine .bind (.ask host.now s) ?_
  rw [h.now s]
  refine .bind (.ask host.now s) ?_
  rw [h.now s, hpath]
  exact delivered_ends host s path _ fun u =>
    .bind (.write _ u) (.bind (.write _ u) (.write _ u))

end Cli

/-! ## Files -/

namespace FileSystem

variable {fs written : FileSystem} {path text : String}

/-- The questions that commands ask of the file system change no file. -/
theorem host_still : host.Still := ⟨fun _ _ => rfl, fun _ _ => rfl, fun _ => rfl⟩

/-- Paths lead through directories, whatever the files hold. -/
theorem follow?_files (fs : FileSystem) (files : List (List String × String))
    (binaries : List (List String × List UInt8)) (place names : List String) :
    { fs with files, binaries }.follow? place names = fs.follow? place names := by
  induction names generalizing place with
  | nil => rfl
  | cons name rest ih =>
    simp only [follow?, ih]
    rfl

/-- Where a path leads depends on the directories alone. -/
theorem place?_files (fs : FileSystem) (files : List (List String × String))
    (binaries : List (List String × List UInt8)) (path : String) :
    { fs with files, binaries }.place? path = fs.place? path := by
  simp only [place?, follow?_files]
  rfl

/-- A text that is written is there to be read. -/
theorem readText?_of_writeText? (h : fs.writeText? path text = some written) :
    written.readText? path = some text := by
  unfold writeText? at h
  split at h
  · cases h
  · next place hplace =>
    split at h
    · cases h
    · obtain rfl := Option.some.inj h
      rw [readText?, place?_files, hplace]
      exact List.lookup_cons_self

/-- A change that is possible is made. -/
theorem run_attempt {change : FileSystem → Option FileSystem} (h : change fs = some written) :
    (attempt change).run fs = (true, written) := by
  rw [attempt, StateT.run_modifyGet, h]
  rfl

end FileSystem

/-! ## Transformations on files -/

namespace Cli

/-- A transformation with an output that fails before it has a script leaves all files as they are,
whatever is at the output. One that has its script succeeds if the output can be written, and the
script is what the output holds then. -/
theorem transform_touches {environment : Table String} {arguments : List String}
    {i : Invocation} {r : TransformRequest} {path : String}
    (harguments :
      Invocation.ofArguments (environment.get? Settings.pathVariable) arguments = .ok i)
    (hi : i.command = .transform r) (hpath : r.output = some path) (present : Present)
    (fs : FileSystem) :
    let requested :=
      requestedScript FileSystem.host fs present (Settings.path? environment i.config) r
    let ended := (run FileSystem.host present environment arguments).run fs
    (∀ failure, requested = .error failure →
      ended.1.code = 1 ∧
        (∃ before, ended.1.output = before ++ .errorLines ["error: " ++ failure.message]) ∧
        ended.2 = fs) ∧
      ∀ script written, requested = .ok script →
        fs.writeText? path script.text = some written →
        ended.1.code = 0 ∧ ended.2 = written ∧ written.readText? path = some script.text := by
  intro requested ended
  have hends : Ends (perform FileSystem.host present environment i) fs
      (delivered FileSystem.host fs path requested) :=
    perform_transform FileSystem.host_still hi hpath present environment fs
  obtain ⟨output, hrun⟩ := run_of_ends harguments hends
  rw [show ended = _ from hrun]
  cases requested with
  | error failure =>
    refine ⟨fun reason hreason => ?_, fun script written hscript => (nomatch hscript)⟩
    obtain rfl := Except.error.inj hreason
    exact ⟨rfl, ⟨output, rfl⟩, rfl⟩
  | ok script =>
    refine ⟨fun reason hreason => (nomatch hreason), fun text written htext hwritten => ?_⟩
    obtain rfl := Except.ok.inj htext
    have hdelivered : delivered FileSystem.host fs path (.ok script) = (.ok (), written) := by
      rw [delivered, FileSystem.host, FileSystem.run_attempt hwritten]
    rw [hdelivered]
    exact ⟨rfl, rfl, FileSystem.readText?_of_writeText? hwritten⟩

/-- A bundle with an object that can be converted and one that cannot, next to statements. -/
def exported (statements : String) : FileSystem where
  current := []
  directories := []
  files :=
    [(["out.tql"], statements),
      (["bundle.json"],
        "[\x7b\"type\":\"url\",\"id\":\"url--1\",\"value\":\"x\"\x7d,\x7b\"type\":\"url\"\x7d]")]

/-- The statements for the bundle. -/
def exportedText : String :=
  "# batch 1 (1 statements)\ninsert\n$v0 isa url, has stix-id \"url--1\", has stix-value \"x\";\n\n"

/-- With a mapping that is not there the earlier statements are kept. With the built-in one they
give way to the new ones, though an object is dropped. -/
theorem transform_touches_exported :
    let request : List String := ["transform", "bundle.json", "--output", "out.tql"]
    let earlier := exported "insert\n$v0 isa url;\n"
    let stopped := (run FileSystem.host 0 [] (request ++ ["--mapping", "nowhere"])).run earlier
    let done := (run FileSystem.host 0 [] request).run earlier
    (stopped.1.code = 1 ∧ stopped.2 = earlier) ∧
      done.1.code = 0 ∧ done.2 = exported exportedText := by
  intro request earlier
  obtain ⟨hstop, -⟩ := @transform_touches [] (request ++ ["--mapping", "nowhere"])
    ⟨none, false, .transform ⟨"bundle.json", some "out.tql", some "nowhere", none, false⟩⟩ _ _
    rfl rfl rfl 0 earlier
  obtain ⟨hcode, -, hkept⟩ := hstop (.mapping (.unreadable "nowhere/classes.json"))
    (by decide +kernel)
  refine ⟨⟨hcode, hkept⟩, ?_⟩
  obtain ⟨-, hwrite⟩ := @transform_touches [] request
    ⟨none, false, .transform ⟨"bundle.json", some "out.tql", none, none, false⟩⟩ _ _
    rfl rfl rfl 0 earlier
  obtain ⟨hcode, hwritten, -⟩ := hwrite ⟨exportedText, 1, 1⟩ (exported exportedText)
    (by decide +kernel) rfl
  exact ⟨hcode, hwritten⟩

end Cli

end ThreatGraph
