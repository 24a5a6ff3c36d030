import PipelineShell.Proofs.StageRuns
import PipelineShell.Proofs.UnreadFile

/-!
# Runs that differ in what the log holds

The log is told of a line before its stages act, and what it was told stands in its file when
they do.  Two runs that go on from files which are the same but for this one go on alike,
stage by stage, as long as no stage takes notice of what it holds: no builtin reads it, and
the programs do the same whatever it holds.
-/

namespace PipelineShell

/-! ## Programs that take no notice of a file -/

/-- What programs leave that have ended alike: only what one file holds may differ. -/
structure Finished.SameBut (hidden : Option Location) (found found' : FileSystem)
    (finished finished' : Finished) : Prop where
  output : finished'.output = finished.output
  errors : finished'.errors = finished.errors
  isCut : finished'.isCut = finished.isCut
  consumed : finished'.consumed = finished.consumed
  files : FileSystem.SameBut hidden finished.files finished'.files
  /-- one has changed a file exactly if the other one has -/
  unchanged : finished'.files.nodes = found'.nodes ↔ finished.files.nodes = found.nodes

/-- Programs that end alike, whatever one file holds. -/
def Started.EndsAlike (hidden : Option Location) (setting : Setting)
    (program program' : Started) : Prop :=
  ∀ files, FileSystem.SameBut hidden setting.files files →
    Finished.SameBut hidden setting.files files (program setting) (program' { setting with files })

/-- A launcher that starts programs which end alike, or fails in the same way, whatever one
file holds. -/
def Launcher.StartsAlike (launcher : Launcher) (hidden : Option Location) (files : FileSystem)
    (launch : Launch) (setting : Setting) : Prop :=
  ∀ files', FileSystem.SameBut hidden files files' →
    SameAnswer (Started.EndsAlike hidden setting) (launcher files launch) (launcher files' launch)

/-! ## Worlds and runs -/

/-- Worlds that differ at most in what the log was told. -/
structure World.Agrees (w w' : World) : Prop where
  state : w'.state = w.state
  input : w'.input = w.input
  /-- the log is written to the same file -/
  log : w'.journal.location? = w.journal.location?
  files : FileSystem.SameBut w.journal.location? w.files w'.files

namespace World.Agrees

variable {w w' : World}

theorem refl (w : World) : w.Agrees w := ⟨rfl, rfl, rfl, .refl _ _⟩

theorem tell (hagrees : w.Agrees w') (records records' : List LogRecord) :
    (w.log records).Agrees (w'.log records') :=
  ⟨hagrees.state, hagrees.input, hagrees.log, hagrees.files⟩

/-- What the logs write is hidden with their file. -/
theorem flush (hagrees : w.Agrees w') : w.flush.Agrees w'.flush where
  state := hagrees.state
  input := hagrees.input
  log := hagrees.log
  files := by
    have hstored : FileSystem.SameBut w.journal.location? w.files w.flush.files :=
      Journal.sameBut_stored w.journal w.files
    have hstored' : FileSystem.SameBut w.journal.location? w'.files w'.flush.files := by
      rw [← hagrees.log]
      exact Journal.sameBut_stored w'.journal w'.files
    exact hstored.symm.trans (hagrees.files.trans hstored')

theorem withFiles (hagrees : w.Agrees w') {files files' : FileSystem}
    (hfiles : FileSystem.SameBut w.journal.location? files files') :
    ({ w with files } : World).Agrees { w' with files := files' } :=
  ⟨hagrees.state, hagrees.input, hagrees.log, hfiles⟩

end World.Agrees

namespace Executor

/-- Runs that have gone on alike after different pasts: they differ at most in what was
logged before. -/
structure Run.Alike (hidden : Option Location) (past past' : List Event) (run run' : Run) :
    Prop where
  world : run.world.Agrees run'.world
  /-- the file to which the log is written -/
  log : run.world.journal.location? = hidden
  piped : run'.piped = run.piped
  flows : run'.flows = run.flows
  events : ∃ later, run.events = past ++ later ∧ run'.events = past' ++ later

/-- Stages that have become alike. -/
inductive Stage.Alike (related : Started → Started → Prop) : Stage → Stage → Prop where
  | done (output : Bytes) : Alike related (.done output) (.done output)
  | started {program program' : Started} (stdout stderr : Sink) : related program program' →
      Alike related (.started program stdout stderr) (.started program' stdout stderr)

/-- A stage takes no notice of what a file holds: a builtin does not read it when the turn of
the stage comes, and a program that has started does the same once it has its setting. -/
structure Unaware (ex : Executor) (hidden : Option Location) (held : Option FileSystem.Handle)
    (m : Moment) (stage : Command × Resolution) (out : Sink × Sink) (setting : Setting) :
    Prop where
  builtin : ∀ b, stage.2 = .builtin b →
    ¬b.Reads hidden stage.1.args m.state ⟨m.files, ex.here, ex.search⟩
  program : ∀ path, stage.2 = .external path →
    ex.launch.StartsAlike hidden m.files (launchAt m held stage.1 path out.1 out.2) setting

namespace Run.Alike

variable {hidden : Option Location} {past past' : List Event} {run run' : Run}

theorem files (halike : Alike hidden past past' run run') :
    FileSystem.SameBut hidden run.world.files run'.world.files := by
  rw [← halike.log]
  exact halike.world.files

/-- The runs stay alike if their worlds stay so and the same happens in both. -/
theorem update (halike : Alike hidden past past' run run') {world world' : World}
    (hworld : world.Agrees world') (hlog : world.journal.location? = hidden)
    (more : List Event) :
    Alike hidden past past' { run with world, events := run.events ++ more }
      { run' with world := world', events := run'.events ++ more } := by
  obtain ⟨later, hevents, hevents'⟩ := halike.events
  refine ⟨hworld, hlog, halike.piped, halike.flows, later ++ more, ?_, ?_⟩
  · rw [hevents, List.append_assoc]
  · rw [hevents', List.append_assoc]

theorem tell (halike : Alike hidden past past' run run') (records : List LogRecord) :
    Alike hidden past past' (run.log records) (run'.log records) :=
  halike.update (halike.world.tell records records) halike.log _

theorem flush (halike : Alike hidden past past' run run') :
    Alike hidden past past' run.flush run'.flush :=
  ⟨halike.world.flush, halike.log, halike.piped, halike.flows, halike.events⟩

theorem enter (halike : Alike hidden past past' run run') (index : Nat) (command : Command)
    (resolution : Resolution) :
    Alike hidden past past' (run.enter index command resolution)
      (run'.enter index command resolution) :=
  (halike.tell _).flush

theorem surface (halike : Alike hidden past past' run run') :
    Alike hidden past past' run.surface run'.surface := by
  rw [Run.surface, Run.surface, halike.files.shown]
  exact halike.update (halike.world.withFiles (halike.world.files.withShown [])) halike.log _

theorem pass (halike : Alike hidden past past' run run') (text : Stream) (flow : Flow) :
    Alike hidden past past' (run.pass text flow) (run'.pass text flow) :=
  ⟨halike.world, halike.log, rfl, congrArg (flow :: ·) halike.flows, halike.events⟩

theorem take (halike : Alike hidden past past' run run') (count : Nat) :
    Alike hidden past past' (run.take count) (run'.take count) := by
  refine ⟨halike.world, halike.log, halike.piped, ?_, halike.events⟩
  rw [Run.take, Run.take, halike.flows]

/-- Showing a text to the user. -/
theorem shows (halike : Alike hidden past past' run run') (event : Event) :
    Alike hidden past past' { run with events := run.events ++ [event] }
      { run' with events := run'.events ++ [event] } :=
  halike.update halike.world halike.log [event]

theorem store (halike : Alike hidden past past' run run') {files files' : FileSystem}
    (hfiles : FileSystem.SameBut hidden files files') :
    Alike hidden past past' ({ run with world := { run.world with files } } : Run).surface
      ({ run' with world := { run'.world with files := files' } } : Run).surface := by
  rw [← halike.log] at hfiles
  apply surface
  exact ⟨halike.world.withFiles hfiles, halike.log, halike.piped, halike.flows, halike.events⟩

theorem emit (halike : Alike hidden past past' run run') (sink : Sink) (event : Bytes → Event)
    (text : Bytes) :
    Alike hidden past past' (run.emit sink event text) (run'.emit sink event text) := by
  cases sink with
  | terminal => exact halike.shows _
  | pipe room => exact halike
  | file handle =>
      rcases (halike.files.write handle text).error_or_ok with
        ⟨e, hwrite, hwrite'⟩ | ⟨written, written', hwrite, hwrite', -, hwritten⟩
      · simp only [Run.emit, hwrite, hwrite']
        exact halike.tell _
      · simp only [Run.emit, hwrite, hwrite']
        exact halike.store hwritten

theorem deliver (halike : Alike hidden past past' run run') (sink : Sink)
    (event : Bytes → Event) (text : Stream) (flow : Flow) :
    Alike hidden past past' (run.deliver sink event text flow)
      (run'.deliver sink event text flow) := by
  cases sink with
  | terminal => exact halike.shows _
  | pipe room => exact halike.pass text flow
  | file handle =>
      rcases (halike.files.write handle text.first).error_or_ok with
        ⟨e, hwrite, hwrite'⟩ | ⟨written, written', hwrite, hwrite', -, hwritten⟩
      · simp only [Run.deliver, hwrite, hwrite']
        exact halike
      · simp only [Run.deliver, hwrite, hwrite']
        exact halike.store hwritten

theorem setting_eq (halike : Alike hidden past past' run run') :
    run'.setting = { run.setting with files := run'.world.files } := by
  rw [Run.setting, Run.setting, Run.input, Run.input, halike.piped, halike.world.input]

end Run.Alike

section Alike

variable {ex : Executor} {held : Option FileSystem.Handle} {hidden : Option Location}
  {past past' : List Event} {run run' : Run}

/-! ## Setting a stage up -/

theorem alike_doBuiltin (halike : run.Alike hidden past past' run') {b : Builtin}
    {args : List String}
    (hunread : ¬b.Reads hidden args run.world.state ⟨run.world.files, ex.here, ex.search⟩)
    (stdout stderr : Sink) :
    (ex.doBuiltin run b args stdout stderr).1.Alike hidden past past'
        (ex.doBuiltin run' b args stdout stderr).1 ∧
      (ex.doBuiltin run' b args stdout stderr).2 = (ex.doBuiltin run b args stdout stderr).2 := by
  have houtcome := Builtin.perform_sameBut halike.files hunread
  rw [doBuiltin, doBuiltin, halike.world.state]
  generalize b.perform args run.world.state ⟨run.world.files, ex.here, ex.search⟩ = outcome
    at houtcome
  generalize b.perform args run.world.state ⟨run'.world.files, ex.here, ex.search⟩ = outcome'
    at houtcome
  simp only [houtcome.state, houtcome.records, houtcome.output, houtcome.error]
  have hfiles : FileSystem.SameBut run.world.journal.location? outcome.files outcome'.files := by
    rw [halike.log]
    exact houtcome.files
  have hworld : ({ run.world with state := outcome.state, files := outcome.files } : World).Agrees
      { run'.world with state := outcome.state, files := outcome'.files } :=
    ⟨rfl, halike.world.input, halike.world.log, hfiles⟩
  have hdone : Run.Alike hidden past past'
      { run with world := { run.world with state := outcome.state, files := outcome.files } }
      { run' with world := { run'.world with state := outcome.state, files := outcome'.files } } :=
    ⟨hworld, halike.log, halike.piped, halike.flows, halike.events⟩
  have hshown := (((hdone.tell outcome.records).flush).surface).emit stdout .output
    (utf8 outcome.output)
  cases outcome.error with
  | none => exact ⟨hshown, trivial⟩
  | some message => exact ⟨hshown.emit stderr .errors _, trivial⟩

theorem alike_doFailed (halike : run.Alike hidden past past' run') (program : Path)
    (name : String) (e : OsError) (stdout stderr : Sink) :
    (doFailed run program name e stdout stderr).1.Alike hidden past past'
        (doFailed run' program name e stdout stderr).1 ∧
      (doFailed run' program name e stdout stderr).2 =
        (doFailed run program name e stdout stderr).2 := by
  have hfailed := (halike.tell [failedRecord program e]).flush
  rw [doFailed, doFailed]
  by_cases hmissing : e = .notFound
  · simp only [if_pos hmissing]
    exact ⟨hfailed.emit _ _ _, trivial⟩
  · simp only [if_neg hmissing]
    exact ⟨(hfailed.emit _ _ _).emit _ _ _, trivial⟩

/-- A stage that takes no notice of the file is set up alike. -/
theorem alike_setUpStage (halike : run.Alike hidden past past' run') {command : Command}
    {resolution : Resolution} {out : Sink × Sink} {setting : Setting}
    (hunaware : ex.Unaware hidden held run.moment (command, resolution) out setting) :
    (ex.setUpStage held run command resolution out.1 out.2).1.Alike hidden past past'
        (ex.setUpStage held run' command resolution out.1 out.2).1 ∧
      Stage.Alike (Started.EndsAlike hidden setting)
        (ex.setUpStage held run command resolution out.1 out.2).2
        (ex.setUpStage held run' command resolution out.1 out.2).2 := by
  cases resolution with
  | builtin b =>
      obtain ⟨hdone, hstage⟩ := alike_doBuiltin halike (hunaware.builtin b rfl) out.1 out.2
      refine ⟨hdone, ?_⟩
      simp only [setUpStage, hstage]
      exact .done _
  | notFound => exact ⟨halike.emit out.1 .output _, .done _⟩
  | external program =>
      have hmoment : launchAt run'.moment held command program out.1 out.2 =
          launchAt run.moment held command program out.1 out.2 := by
        simp only [launchAt, Run.moment, halike.world.state]
      rcases (hunaware.program program rfl run'.world.files halike.files).error_or_ok with
        ⟨e, hlaunch, hlaunch'⟩ | ⟨started, started', hlaunch, hlaunch', hends⟩
      · rw [← hmoment] at hlaunch'
        obtain ⟨hfailed, hstage⟩ := alike_doFailed halike program command.name e out.1 out.2
        rw [setUpStage_of_launch_error run hlaunch, setUpStage_of_launch_error run' hlaunch',
          hstage]
        refine ⟨hfailed, ?_⟩
        rw [doFailed]
        split <;> exact .done _
      · rw [← hmoment] at hlaunch'
        rw [setUpStage_of_launch_ok run hlaunch, setUpStage_of_launch_ok run' hlaunch']
        exact ⟨halike, .started _ _ hends⟩

/-! ## Running it -/

/-- What is known of the pipe of a program that has ended. -/
theorem flowOf_eq (halike : run.Alike hidden past past' run') {finished finished' : Finished}
    (hended : Finished.SameBut hidden run.world.files run'.world.files finished finished') :
    flowOf finished' run' = flowOf finished run := by
  have hnodes : (finished'.files.nodes == run'.world.files.nodes) =
      (finished.files.nodes == run.world.files.nodes) := by
    rw [Bool.eq_iff_iff, beq_iff_eq, beq_iff_eq]
    exact hended.unchanged
  rw [flowOf, flowOf, hended.output, hended.isCut, hended.errors, hended.consumed,
    hended.files.shown, halike.piped, halike.files.shown, hnodes]

theorem alike_runProgram (halike : run.Alike hidden past past' run') {program program' : Started}
    (hends : program.EndsAlike hidden run.setting program') (stdout stderr : Sink) :
    (runProgram run program stdout stderr).Alike hidden past past'
      (runProgram run' program' stdout stderr) := by
  have hended := hends run'.world.files halike.files
  rw [← halike.setting_eq] at hended
  change Finished.SameBut hidden run.world.files run'.world.files
    (program ⟨run.world.files, run.input⟩) (program' ⟨run'.world.files, run'.input⟩) at hended
  rw [runProgram, runProgram]
  generalize program ⟨run.world.files, run.input⟩ = finished at hended ⊢
  generalize program' ⟨run'.world.files, run'.input⟩ = finished' at hended ⊢
  have hfirst : run'.piped.isNone = run.piped.isNone := by rw [halike.piped]
  simp only [flowOf_eq halike hended, hended.output, hended.errors, hended.consumed, hfirst,
    halike.world.input]
  have hfiles : FileSystem.SameBut run.world.journal.location? finished.files finished'.files := by
    rw [halike.log]
    exact hended.files
  have hran : Run.Alike hidden past past' { run with world := { run.world with
        files := finished.files
        input := if run.piped.isNone then run.world.input.drop finished.consumed
          else run.world.input } }
      { run' with world := { run'.world with
        files := finished'.files
        input := if run.piped.isNone then run.world.input.drop finished.consumed
          else run.world.input } } :=
    ⟨⟨halike.world.state, rfl, halike.world.log, hfiles⟩, halike.log, halike.piped, halike.flows,
      halike.events⟩
  exact (((hran.take finished.consumed).deliver stdout .output finished.output _).deliver
    stderr .errors (.ofBytes finished.errors) _).surface

theorem alike_runStage (halike : run.Alike hidden past past' run') {stage stage' : Stage}
    (hstage : Stage.Alike (Started.EndsAlike hidden run.setting) stage stage') :
    (runStage run stage).Alike hidden past past' (runStage run' stage') := by
  cases hstage with
  | done output => exact halike.pass _ _
  | started stdout stderr hends => exact alike_runProgram halike hends stdout stderr

end Alike

end Executor

end PipelineShell
