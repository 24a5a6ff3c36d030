import PipelineShell.Executor

/-!
# What the terminal receives

A pipeline under way changes the state, the files, the input that is left and
what has been seen on the two streams of the terminal.  Each thing that the shell
writes is one write to a sink, be it the terminal, a pipe, a file or a device
that is the terminal again.
-/

namespace PipelineShell

/-! ## What the user sees -/

/-- What an event puts on one of the two streams of the terminal. -/
def Event.textOn (outlet : Outlet) : Event → Bytes
  | .output text => if outlet = .output then text else []
  | .errors text => if outlet = .errors then text else []
  | .record _ => []

/-- What a stream of the terminal has received. -/
def seenOn (outlet : Outlet) (events : List Event) : Bytes :=
  events.flatMap (Event.textOn outlet)

/-- What an outlet shows of texts that were written to outlets. -/
def shownOn (outlet : Outlet) (shown : List (Outlet × Bytes)) : Bytes :=
  shown.flatMap fun entry => if entry.1 = outlet then entry.2 else []

/-- What a stream of the terminal receives of a text that is written to a sink,
if the sink is the terminal under its own name or as a device. -/
def Sink.reaches (sink : Sink) (own outlet : Outlet) (text : Bytes) : Bytes :=
  match sink with
  | .terminal => if own = outlet then text else []
  | .file (.device (.outlet device)) => if device = outlet then text else []
  | .file _ => []
  | .pipe _ => []

/-- The files after a text was written to a sink.  A write that fails changes
nothing. -/
def Sink.store (sink : Sink) (files : FileSystem) (text : Bytes) : FileSystem :=
  match sink with
  | .terminal => files
  | .pipe _ => files
  | .file handle =>
    match files.write handle text with
    | .ok (_, written) => { written with shown := [] }
    | .error _ => files

/-! ## What a stage finds -/

/-- What a stage finds when it is its turn, and what the log goes on from. -/
structure Moment where
  state : ShellState
  files : FileSystem
  journal : Journal

namespace Moment

/-- The log is told something and writes all that it was told. -/
def record (m : Moment) (records : List LogRecord) : Moment :=
  let journal := m.journal.tell records
  { m with files := journal.stored m.files, journal := journal.settled }

/-- The turn of a stage comes. -/
def enter (m : Moment) (index : Nat) (stage : Command × Resolution) : Moment :=
  m.record (Executor.stageRecords index stage.1 stage.2)

/-- A builtin has done what it does, and what it has shown is with the user. -/
def finish (m : Moment) (outcome : BuiltinOutcome) : Moment :=
  let m := { m with state := outcome.state, files := outcome.files }.record outcome.records
  { m with files := { m.files with shown := [] } }

end Moment

namespace Executor

/-! ## What is seen of a pipeline under way -/

/-- What running a line changes, apart from the log. -/
structure View where
  state : ShellState
  files : FileSystem
  input : Bytes
  seen : Outlet → Bytes

def Run.view (run : Run) : View :=
  ⟨run.world.state, run.world.files, run.world.input, fun outlet => seenOn outlet run.events⟩

/-- The moment of a pipeline under way. -/
def Run.moment (run : Run) : Moment :=
  ⟨run.world.state, run.world.files, run.world.journal⟩

/-- Nothing waits to be shown. -/
def Run.Quiet (run : Run) : Prop := run.world.files.shown = []

namespace View

/-- Write a text to a sink. -/
def write (v : View) (sink : Sink) (own : Outlet) (text : Bytes) : View :=
  { v with
    files := sink.store v.files text
    seen := fun outlet => v.seen outlet ++ sink.reaches own outlet text }

/-- Write the output and the error text of a stage, if there is one. -/
def writeBoth (v : View) (stdout stderr : Sink) (output : Bytes) (errors : Option Bytes) : View :=
  let v := v.write stdout .output output
  match errors with
  | none => v
  | some text => v.write stderr .errors text

end View

theorem seenOn_append (outlet : Outlet) (front events : List Event) :
    seenOn outlet (front ++ events) = seenOn outlet front ++ seenOn outlet events :=
  List.flatMap_append

theorem seenOn_records (outlet : Outlet) (records : List LogRecord) :
    seenOn outlet (records.map Event.record) = [] := by
  simp [seenOn, List.flatMap_map, Event.textOn]

theorem seenOn_shownEvents (outlet : Outlet) (shown : List (Outlet × Bytes)) :
    seenOn outlet (shown.map Run.shownEvent) = shownOn outlet shown := by
  rw [seenOn, List.flatMap_map, shownOn]
  congr 1
  funext entry
  obtain ⟨device, text⟩ := entry
  cases device <;> cases outlet <;> rfl

@[simp]
theorem view_log (run : Run) (records : List LogRecord) : (run.log records).view = run.view := by
  simp [Run.view, Run.log, World.log, seenOn_append, seenOn_records]

@[simp]
theorem view_take (run : Run) (count : Nat) : (run.take count).view = run.view := rfl

theorem view_flush (run : Run) :
    run.flush.view =
      { run.view with files := run.world.journal.stored run.world.files } := rfl

/-- What the log writes is seen in the files only. -/
theorem view_recorded (run : Run) (records : List LogRecord) :
    (run.log records).flush.view =
      { run.view with files := (run.moment.record records).files } := by
  rw [view_flush, view_log]
  rfl

theorem view_enter (run : Run) (index : Nat) (command : Command) (resolution : Resolution) :
    (run.enter index command resolution).view =
      { run.view with files := (run.moment.enter index (command, resolution)).files } :=
  view_recorded _ _

theorem view_surface (run : Run) :
    run.surface.view =
      { run.view with
        files := { run.world.files with shown := [] }
        seen := fun outlet =>
          run.view.seen outlet ++ shownOn outlet run.world.files.shown.reverse } := by
  simp only [Run.view, Run.surface, seenOn_append, seenOn_shownEvents]

theorem view_surface_of_quiet {run : Run} (hquiet : run.Quiet) : run.surface.view = run.view := by
  obtain ⟨⟨state, ⟨nodes, shown⟩, input, journal⟩, piped, events, flows⟩ := run
  obtain rfl : shown = [] := hquiet
  rw [view_surface]
  simp [Run.view, shownOn]

/-- The log shows nothing by the names of outlets. -/
theorem shown_stored (journal : Journal) (files : FileSystem) :
    (journal.stored files).shown = files.shown := by
  rw [Journal.stored, LogSetup.store]
  split <;> rfl

theorem shown_insert (files : FileSystem) (loc : Location) (node : Node) :
    (files.insert loc node).shown = files.shown := rfl

/-- Writing shows a text only through a device that is an outlet. -/
theorem shownOn_write {files written : FileSystem} {handle moved : FileSystem.Handle}
    {text : Bytes} (hwrite : files.write handle text = .ok (moved, written))
    (hquiet : files.shown = []) (own outlet : Outlet) :
    shownOn outlet written.shown.reverse = (Sink.file handle).reaches own outlet text := by
  cases handle with
  | atOffset loc offset =>
      simp only [FileSystem.write] at hwrite
      split at hwrite <;> obtain ⟨-, rfl⟩ := Prod.mk.inj (Except.ok.inj hwrite) <;>
        simp [shown_insert, hquiet, shownOn, Sink.reaches]
  | atEnd loc =>
      simp only [FileSystem.write] at hwrite
      split at hwrite <;> obtain ⟨-, rfl⟩ := Prod.mk.inj (Except.ok.inj hwrite) <;>
        simp [shown_insert, hquiet, shownOn, Sink.reaches]
  | device d =>
      cases d with
      | outlet device =>
          obtain ⟨-, rfl⟩ := Prod.mk.inj (Except.ok.inj hwrite)
          by_cases hempty : text = []
          · simp [FileSystem.reveal, hempty, hquiet, shownOn, Sink.reaches]
          · simp [FileSystem.reveal, hempty, hquiet, shownOn, Sink.reaches]
      | null | zero =>
          obtain ⟨-, rfl⟩ := Prod.mk.inj (Except.ok.inj hwrite)
          simp [hquiet, shownOn, Sink.reaches]
      | full =>
          simp only [FileSystem.write] at hwrite
          split at hwrite
          · obtain ⟨-, rfl⟩ := Prod.mk.inj (Except.ok.inj hwrite)
            simp [hquiet, shownOn, Sink.reaches]
          · nomatch hwrite

/-- Only a device without room refuses a text, and it shows nothing. -/
theorem reaches_of_write_error {files : FileSystem} {handle : FileSystem.Handle} {text : Bytes}
    {e : OsError} (hwrite : files.write handle text = .error e) (own outlet : Outlet) :
    (Sink.file handle).reaches own outlet text = [] := by
  cases handle with
  | atOffset loc offset => rfl
  | atEnd loc => rfl
  | device d =>
      cases d with
      | outlet device => nomatch hwrite
      | null | zero | full => rfl

theorem shown_store (sink : Sink) {files : FileSystem} (hquiet : files.shown = [])
    (text : Bytes) : (sink.store files text).shown = [] := by
  cases sink with
  | terminal => exact hquiet
  | pipe room => exact hquiet
  | file handle =>
      rw [Sink.store]
      split
      · rfl
      · exact hquiet

/-- A write to an open file, brought to the user. -/
theorem view_stored {run : Run} (hquiet : run.Quiet) {handle moved : FileSystem.Handle}
    {text : Bytes} {written : FileSystem}
    (hwrite : run.world.files.write handle text = .ok (moved, written)) (own : Outlet) :
    ({ run with world := { run.world with files := written } } : Run).surface.view =
      run.view.write (.file handle) own text := by
  rw [view_surface]
  simp only [Run.view, View.write, Sink.store, hwrite, shownOn_write hwrite hquiet own]

theorem view_write_error {run : Run} {handle : FileSystem.Handle} {text : Bytes} {e : OsError}
    (hwrite : run.world.files.write handle text = .error e) (own : Outlet) :
    run.view.write (.file handle) own text = run.view := by
  simp [Run.view, View.write, Sink.store, hwrite, reaches_of_write_error hwrite]

/-- What an event of a stream puts on the streams of the terminal. -/
theorem seenOn_shownEvent (own outlet : Outlet) (text : Bytes) :
    seenOn outlet [Run.shownEvent (own, text)] = Sink.terminal.reaches own outlet text := by
  cases own <;> cases outlet <;> simp [seenOn, Run.shownEvent, Event.textOn, Sink.reaches]

theorem view_emit {run : Run} (hquiet : run.Quiet) (sink : Sink) (own : Outlet) (text : Bytes) :
    (run.emit sink (fun text => Run.shownEvent (own, text)) text).view =
      run.view.write sink own text := by
  cases sink with
  | terminal => simp [Run.emit, Run.view, View.write, seenOn_append, seenOn_shownEvent, Sink.store]
  | pipe room => simp [Run.emit, Run.view, View.write, Sink.store, Sink.reaches]
  | file handle =>
      simp only [Run.emit]
      split
      · rename_i moved written hwrite
        exact view_stored hquiet hwrite own
      · rename_i e hwrite
        rw [view_log, view_write_error hwrite]

theorem view_deliver {run : Run} (hquiet : run.Quiet) (sink : Sink) (own : Outlet)
    (text : Stream) (flow : Flow) :
    (run.deliver sink (fun text => Run.shownEvent (own, text)) text flow).view =
      run.view.write sink own text.first := by
  cases sink with
  | terminal =>
      simp [Run.deliver, Run.view, View.write, seenOn_append, seenOn_shownEvent, Sink.store]
  | pipe room => simp [Run.deliver, Run.view, Run.pass, View.write, Sink.store, Sink.reaches]
  | file handle =>
      simp only [Run.deliver]
      split
      · rename_i moved written hwrite
        exact view_stored hquiet hwrite own
      · rename_i e hwrite
        rw [view_write_error hwrite]

/-! ## Nothing waits to be shown -/

theorem quiet_emit {run : Run} (hquiet : run.Quiet) (sink : Sink) (own : Outlet)
    (text : Bytes) : (run.emit sink (fun text => Run.shownEvent (own, text)) text).Quiet := by
  have hfiles := congrArg View.files (view_emit hquiet sink own text)
  exact (congrArg FileSystem.shown hfiles).trans (shown_store sink hquiet text)

theorem quiet_recorded {run : Run} (hquiet : run.Quiet) (records : List LogRecord) :
    (run.log records).flush.Quiet := (shown_stored _ _).trans hquiet

theorem quiet_enter {run : Run} (hquiet : run.Quiet) (index : Nat) (command : Command)
    (resolution : Resolution) : (run.enter index command resolution).Quiet :=
  quiet_recorded hquiet _

theorem quiet_setUpStage (ex : Executor) (held : Option FileSystem.Handle) {run : Run}
    (hquiet : run.Quiet) (command : Command) (resolution : Resolution) (stdout stderr : Sink) :
    (ex.setUpStage held run command resolution stdout stderr).1.Quiet := by
  cases resolution with
  | builtin b =>
      simp only [setUpStage, doBuiltin]
      have hdone : ∀ run : Run, run.surface.Quiet := fun _ => rfl
      split
      · exact quiet_emit (hdone _) stdout .output _
      · exact quiet_emit (quiet_emit (hdone _) stdout .output _) stderr .errors _
  | notFound => exact quiet_emit hquiet stdout .output _
  | external program =>
      simp only [setUpStage, start]
      split
      · simp only [doFailed]
        split
        · exact quiet_emit (quiet_recorded hquiet _) stdout .output _
        · exact quiet_emit (quiet_emit (quiet_recorded hquiet _) stdout .output _) stderr .errors _
      · exact hquiet

theorem quiet_setUp (ex : Executor) (held : Option FileSystem.Handle)
    (stages : List (Command × Resolution)) (index : Nat) {run : Run} (hquiet : run.Quiet)
    (rooms : List Nat) : (ex.setUp held index run rooms stages).1.Quiet := by
  induction stages generalizing index run rooms with
  | nil => exact hquiet
  | cons stage rest ih =>
      exact ih _ (quiet_setUpStage ex held (quiet_enter hquiet _ _ _) _ _ _ _) _

theorem quiet_runStage {run : Run} (hquiet : run.Quiet) (stage : Stage) :
    (runStage run stage).Quiet := by
  cases stage with
  | done output => exact hquiet
  | started program stdout stderr => rfl

theorem quiet_foldl_runStage (ready : List Stage) {run : Run} (hquiet : run.Quiet) :
    (ready.foldl runStage run).Quiet := by
  induction ready generalizing run with
  | nil => exact hquiet
  | cons stage ready ih => exact ih (quiet_runStage hquiet stage)

theorem quiet_deliver {run : Run} (hquiet : run.Quiet) (sink : Sink) (own : Outlet)
    (text : Stream) (flow : Flow) :
    (run.deliver sink (fun text => Run.shownEvent (own, text)) text flow).Quiet := by
  have hfiles := congrArg View.files (view_deliver hquiet sink own text flow)
  exact (congrArg FileSystem.shown hfiles).trans (shown_store sink hquiet text.first)

theorem writeBoth_view (v : View) (stdout stderr : Sink) (output : Bytes)
    (errors : Option Bytes) :
    v.writeBoth stdout stderr output errors =
      let files := stdout.store v.files output
      { v with
        files := errors.elim files (stderr.store files)
        seen := fun outlet => v.seen outlet ++ stdout.reaches .output outlet output ++
          errors.elim [] (stderr.reaches .errors outlet) } := by
  cases errors with
  | none => simp [View.writeBoth, View.write]
  | some text => rfl

/-! ## What the shell does itself -/

section Views

variable (stdout stderr : Sink) {run : Run}

theorem view_emitBoth (hquiet : run.Quiet) (output errors : Bytes) :
    ((run.emit stdout .output output).emit stderr .errors errors).view =
      run.view.writeBoth stdout stderr output (some errors) := by
  refine (view_emit (quiet_emit hquiet stdout .output output) stderr .errors errors).trans ?_
  exact congrArg (fun v : View => v.write stderr .errors errors)
    (view_emit hquiet stdout .output output)

/-- A builtin does what it does, and then it writes. -/
theorem view_doBuiltin (ex : Executor) (run : Run) (b : Builtin) (args : List String) :
    let outcome := b.perform args run.world.state ⟨run.world.files, ex.here, ex.search⟩
    (ex.doBuiltin run b args stdout stderr).1.view =
      View.writeBoth
        { run.view with
          state := outcome.state
          files := (run.moment.finish outcome).files
          seen := fun outlet =>
            run.view.seen outlet ++ shownOn outlet outcome.files.shown.reverse }
        stdout stderr (utf8 outcome.output) (outcome.error.map utf8) := by
  intro outcome
  let performed : Run :=
    { run with world := { run.world with state := outcome.state, files := outcome.files } }
  generalize hdone : (performed.log outcome.records).flush.surface = done
  have hquiet : done.Quiet := by
    rw [← hdone]
    rfl
  have hview : done.view = { run.view with
      state := outcome.state
      files := (run.moment.finish outcome).files
      seen := fun outlet =>
        run.view.seen outlet ++ shownOn outlet outcome.files.shown.reverse } := by
    have hshown : (performed.log outcome.records).flush.world.files.shown =
        outcome.files.shown := shown_stored _ _
    rw [← hdone, view_surface, view_recorded, hshown]
    rfl
  simp only [doBuiltin, outcome, performed] at hdone ⊢
  rw [hdone, ← hview]
  cases outcome.error with
  | none => exact view_emit hquiet stdout .output _
  | some message => exact view_emitBoth stdout stderr hquiet _ _

theorem view_doMissing (hquiet : run.Quiet) (name : String) :
    (doMissing run name stdout).1.view =
      run.view.writeBoth stdout stderr (notFoundLine name) none :=
  view_emit hquiet stdout .output _

theorem view_doFailed (hquiet : run.Quiet) (program : Path) (name : String) (e : OsError) :
    let failed : View :=
      { run.view with files := (run.moment.record [failedRecord program e]).files }
    (doFailed run program name e stdout stderr).1.view =
      if e = .notFound then failed.writeBoth stdout stderr (notFoundLine name) none
      else failed.writeBoth stdout stderr [] (some (utf8 (name ++ ": " ++ e.message ++ "\n"))) := by
  intro failed
  have hfailed : (run.log [failedRecord program e]).flush.view = failed := view_recorded _ _
  rw [doFailed, ← hfailed]
  split
  · exact view_emit (quiet_recorded hquiet _) stdout .output _
  · exact view_emitBoth stdout stderr (quiet_recorded hquiet _) _ _

end Views

/-! ## A line -/

theorem shown_openForWriting {files opened : FileSystem} {here : Place} {path : Path}
    {append : Bool} {handle : FileSystem.Handle}
    (hopen : files.openForWriting here path append = .ok (handle, opened)) :
    opened.shown = files.shown := by
  rw [FileSystem.openForWriting] at hopen
  split at hopen
  · cases hopen
  split at hopen
  · cases hopen
  split at hopen <;> split at hopen <;> cases hopen <;> rfl

theorem shown_openRedirect {ex : Executor} {w : World} {command : Command}
    {held : Option FileSystem.Handle} {files : FileSystem}
    (hopen : ex.openRedirect w command = .ok (held, files)) : files.shown = w.files.shown := by
  rw [openRedirect] at hopen
  split at hopen
  · obtain ⟨-, rfl⟩ := Prod.mk.inj (Except.ok.inj hopen)
    rfl
  · nomatch hopen
  split at hopen
  · rename_i handle opened hfile
    obtain ⟨-, rfl⟩ := Prod.mk.inj (Except.ok.inj hopen)
    exact shown_openForWriting hfile
  · nomatch hopen

end Executor

end PipelineShell
