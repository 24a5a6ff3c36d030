import Mathlib.Data.List.Forall2
import PipelineShell.FileSystem.Descriptor
import PipelineShell.Proofs.Terminal

/-!
# What a pipeline means, stage by stage

Where every program turns the whole of its input into its output, a pipeline is
the composition of its stages.  Builtins act in the order of the stages, each on
the state that those before it have left; what a stage writes is a function of
what the stage before it has written.  Running a pipeline gives exactly this.
-/

namespace PipelineShell

/-! ## Programs that are functions of their input -/

/-- An input that holds a text and then ends. -/
def Input.Holds : Input → Bytes → Prop
  | .piped stream, text => stream = .ofBytes text
  | .terminal rest, text => rest = text

/-- A program that takes the whole of its input, writes a function of it, and
does nothing else. -/
def Started.IsFilter (program : Started) (f : Bytes → Bytes) : Prop :=
  ∀ setting text, setting.input.Holds text →
    program setting = ⟨.ofBytes (f text), [], false, setting.files, text.length⟩

/-- A sink whatever room it has. -/
def Sink.kind : Sink → Sink
  | .pipe _ => .pipe 0
  | sink => sink

/-- A start whatever room there is in the pipe that the program writes to. -/
def Launch.call (launch : Launch) : Launch :=
  { launch with stdout := launch.stdout.kind }

/-- What programs do: why one does not start, or the function that it is. -/
abbrev Meaning := FileSystem → Launch → Except OsError (Bytes → Bytes)

/-- A launch that fails as its meaning says, or starts the function that it means. -/
structure Launcher.Follows (launcher : Launcher) (meaning : Meaning) (files : FileSystem)
    (launch : Launch) : Prop where
  fails : ∀ e, meaning files launch.call = .error e → launcher files launch = .error e
  starts : ∀ f, meaning files launch.call = .ok f →
    ∃ program, launcher files launch = .ok program ∧ program.IsFilter f

/-! ## The meaning of a stage -/

/-- What a stage does. -/
structure Action where
  /-- what it writes, given what it could read -/
  transform : Bytes → Bytes
  /-- its error text, if there is one -/
  errors : Option Bytes
  /-- what it has written to outlets by their names as files -/
  shown : List (Outlet × Bytes)
  /-- what the next stage finds -/
  next : Moment
  /-- it is a program, which reads its input -/
  reads : Bool

namespace Action

/-- What a stage before the last one puts on a stream of the terminal. -/
def frontOn (action : Action) (outlet : Outlet) : Bytes :=
  shownOn outlet action.shown ++
    (action.errors.elim [] fun text => Sink.terminal.reaches .errors outlet text)

end Action

namespace Executor

/-- How the program of a command is launched at a moment. -/
def launchAt (m : Moment) (held : Option FileSystem.Handle) (command : Command) (path : Path)
    (stdout stderr : Sink) : Launch :=
  ⟨path, command.name, command.args, m.state.cwd, stdout, stderr, held⟩

/-- What a stage does at its moment, if it writes to two sinks. -/
def action (ex : Executor) (meaning : Meaning) (held : Option FileSystem.Handle)
    (stdout stderr : Sink) (m : Moment) (stage : Command × Resolution) : Action :=
  match stage.2 with
  | .builtin b =>
    let outcome := b.perform stage.1.args m.state ⟨m.files, ex.here, ex.search⟩
    { transform := fun _ => utf8 outcome.output
      errors := outcome.error.map utf8
      shown := outcome.files.shown.reverse
      next := m.finish outcome
      reads := false }
  | .notFound => ⟨fun _ => notFoundLine stage.1.name, none, [], m, false⟩
  | .external program =>
    match meaning m.files (launchAt m held stage.1 program stdout stderr).call with
    | .ok f => ⟨f, some [], [], m, true⟩
    | .error e =>
      let next := m.record [failedRecord program e]
      if e = .notFound then ⟨fun _ => notFoundLine stage.1.name, none, [], next, false⟩
      else ⟨fun _ => [], some (utf8 (stage.1.name ++ ": " ++ e.message ++ "\n")), [], next, false⟩

/-- What a stage before the last one does, which writes to a pipe. -/
def frontAction (ex : Executor) (meaning : Meaning) (held : Option FileSystem.Handle)
    (index : Nat) (m : Moment) (stage : Command × Resolution) : Action :=
  ex.action meaning held (.pipe 0) .terminal (m.enter index stage) stage

/-- What the last stage does, which writes where its redirection says. -/
def lastAction (ex : Executor) (meaning : Meaning) (held : Option FileSystem.Handle)
    (index : Nat) (m : Moment) (stage : Command × Resolution) : Action :=
  let (stdout, stderr) := sinks true 0 stage.1 held
  ex.action meaning held stdout stderr (m.enter index stage) stage

/-- What the stages before the last one do, one after another.  The first of them has an
index. -/
def actions (ex : Executor) (meaning : Meaning) (held : Option FileSystem.Handle) :
    (index : Nat) → Moment → List (Command × Resolution) → List Action
  | _, _, [] => []
  | index, m, stage :: rest =>
    let first := ex.frontAction meaning held index m stage
    first :: actions ex meaning held (index + 1) first.next rest

/-- The moment after some stages before the last one. -/
def momentAfter (ex : Executor) (meaning : Meaning) (held : Option FileSystem.Handle) :
    (index : Nat) → Moment → List (Command × Resolution) → Moment
  | _, m, [] => m
  | index, m, stage :: rest =>
    momentAfter ex meaning held (index + 1) (ex.frontAction meaning held index m stage).next rest

/-! ## Stages whose programs are functions -/

/-- If a stage at its moment is a program, its launch is as it is meant. -/
def Follows (ex : Executor) (meaning : Meaning) (held : Option FileSystem.Handle) (m : Moment)
    (stage : Command × Resolution) (stdout stderr : Sink) : Prop :=
  ∀ path, stage.2 = .external path →
    ex.launch.Follows meaning m.files (launchAt m held stage.1 path stdout stderr)

/-- The stages before the last one are as they are meant, each at its moment and whatever
room its pipe has. -/
def FrontFollows (ex : Executor) (meaning : Meaning) (held : Option FileSystem.Handle)
    (index : Nat) (m : Moment) (stages : List (Command × Resolution)) : Prop :=
  ∀ i stage room, stages[i]? = some stage →
    ex.Follows meaning held
      ((ex.momentAfter meaning held index m (stages.take i)).enter (index + i) stage) stage
      (.pipe room) .terminal

theorem FrontFollows.tail {ex : Executor} {meaning : Meaning} {held : Option FileSystem.Handle}
    {index : Nat} {m : Moment} {stage : Command × Resolution}
    {rest : List (Command × Resolution)}
    (hfront : ex.FrontFollows meaning held index m (stage :: rest)) :
    ex.FrontFollows meaning held (index + 1) (ex.frontAction meaning held index m stage).next
      rest := by
  intro i next room hnext
  have hfollows := hfront (i + 1) next room hnext
  rwa [← Nat.add_assoc, Nat.add_right_comm] at hfollows

end Executor

/-- What comes out of stages of which the first could read a text: each reads
what the one before it has written. -/
def carried (input : Bytes) (actions : List Action) : Bytes :=
  actions.foldl (fun text action => action.transform text) input

namespace Executor

/-! ## Setting a stage up -/

/-- A stage that is set up does what its action says. -/
inductive Realises (stdout stderr : Sink) : Stage → Action → Prop where
  | done {output : Bytes} {action : Action} : action.reads = false →
      (∀ text, action.transform text = output) → Realises stdout stderr (.done output) action
  | started {program : Started} {action : Action} : action.reads = true →
      action.errors = some [] → program.IsFilter action.transform →
      Realises stdout stderr (.started program stdout stderr) action

/-- Do what a builtin does before it writes. -/
def View.perform (v : View) (action : Action) : View :=
  { v with
    state := action.next.state
    files := action.next.files
    seen := fun outlet => v.seen outlet ++ shownOn outlet action.shown }

/-- What has been seen once a stage is set up.  A program has not run yet. -/
def afterSetUp (v : View) (stdout stderr : Sink) (action : Action) : View :=
  if action.reads then v
  else (v.perform action).writeBoth stdout stderr (action.transform []) action.errors

theorem piped_emit (run : Run) (sink : Sink) (event : Bytes → Event) (text : Bytes) :
    (run.emit sink event text).piped = run.piped := by
  cases sink <;> simp only [Run.emit]
  split <;> rfl

/-- What holds of a stage that is set up. -/
structure SetUp (held : Run) (stdout stderr : Sink) (action : Action) (result : Run × Stage) :
    Prop where
  realises : Realises stdout stderr result.2 action
  piped : result.1.piped = held.piped
  view : result.1.view = afterSetUp held.view stdout stderr action
  /-- nothing is told to the log by writing to a pipe or to the terminal -/
  journal : ∀ room, stdout = .pipe room → stderr = .terminal →
    result.1.world.journal = action.next.journal

/-- What a stage has done before it writes. -/
structure Performed (run done : Run) (action : Action) : Prop where
  view : done.view = run.view.perform action
  quiet : done.Quiet
  piped : done.piped = run.piped
  journal : done.world.journal = action.next.journal
  reads : action.reads = false

section Writing

variable {run done : Run} {action : Action} {output : Bytes}

/-- A stage that writes an output and no errors. -/
theorem setUp_of_output (hdone : Performed run done action)
    (houtput : ∀ text, action.transform text = output) (herrors : action.errors = none)
    (stdout stderr : Sink) :
    SetUp run stdout stderr action (done.emit stdout .output output, .done output) where
  realises := .done hdone.reads houtput
  piped := (piped_emit _ _ _ _).trans hdone.piped
  view := by
    refine (view_emit hdone.quiet stdout .output output).trans ?_
    rw [hdone.view, afterSetUp, hdone.reads, herrors, houtput]
    rfl
  journal := by
    rintro room rfl rfl
    exact hdone.journal

/-- A stage that writes an output and then errors. -/
theorem setUp_of_errors {errors : Bytes} (hdone : Performed run done action)
    (houtput : ∀ text, action.transform text = output) (herrors : action.errors = some errors)
    (stdout stderr : Sink) :
    SetUp run stdout stderr action
      ((done.emit stdout .output output).emit stderr .errors errors, .done output) where
  realises := .done hdone.reads houtput
  piped := by rw [piped_emit, piped_emit, hdone.piped]
  view := by
    refine (view_emitBoth stdout stderr hdone.quiet output errors).trans ?_
    rw [hdone.view, afterSetUp, hdone.reads, herrors, houtput]
    rfl
  journal := by
    rintro room rfl rfl
    exact hdone.journal

end Writing

/-- An action that leaves the state and the files alone and shows nothing. -/
theorem perform_of_next {v : View} {action : Action} (hstate : action.next.state = v.state)
    (hfiles : action.next.files = v.files) (hshown : action.shown = []) :
    v.perform action = v := by
  simp [View.perform, hstate, hfiles, hshown, shownOn]

/-- A builtin has done what it does. -/
theorem performed_doBuiltin (run : Run) (outcome : BuiltinOutcome) :
    let world := { run.world with state := outcome.state, files := outcome.files }
    Performed run (({ run with world } : Run).log outcome.records).flush.surface
      ⟨fun _ => utf8 outcome.output, outcome.error.map utf8, outcome.files.shown.reverse,
        run.moment.finish outcome, false⟩ where
  view := by
    have hshown : ∀ done : Run, (done.log outcome.records).flush.world.files.shown =
        done.world.files.shown := fun _ => shown_stored _ _
    rw [view_surface, view_recorded, hshown]
    rfl
  quiet := rfl
  piped := rfl
  journal := rfl
  reads := rfl

/-- The log has been told that a program does not start. -/
theorem performed_doFailed {run : Run} (hquiet : run.Quiet) (program : Path) (e : OsError)
    (transform : Bytes → Bytes) (errors : Option Bytes) :
    Performed run (run.log [failedRecord program e]).flush
      ⟨transform, errors, [], run.moment.record [failedRecord program e], false⟩ where
  view := by
    rw [view_recorded]
    simp [View.perform, shownOn, Run.view, Run.moment, Moment.record]
  quiet := quiet_recorded hquiet _
  piped := rfl
  journal := rfl
  reads := rfl

theorem setUpStage_spec {ex : Executor} {meaning : Meaning} {held : Option FileSystem.Handle}
    {run : Run} (hquiet : run.Quiet) {command : Command} {resolution : Resolution}
    {stdout stderr : Sink}
    (hfollows : ex.Follows meaning held run.moment (command, resolution) stdout stderr) :
    SetUp run stdout stderr (ex.action meaning held stdout stderr run.moment (command, resolution))
      (ex.setUpStage held run command resolution stdout stderr) := by
  cases resolution with
  | builtin b =>
      simp only [setUpStage, doBuiltin]
      generalize houtcome : b.perform command.args run.world.state
        ⟨run.world.files, ex.here, ex.search⟩ = outcome
      have haction : ex.action meaning held stdout stderr run.moment (command, .builtin b) =
          ⟨fun _ => utf8 outcome.output, outcome.error.map utf8, outcome.files.shown.reverse,
            run.moment.finish outcome, false⟩ := by
        rw [← houtcome]
        rfl
      rw [haction]
      have hdone := performed_doBuiltin run outcome
      cases herror : outcome.error with
      | none =>
          rw [herror] at hdone
          exact setUp_of_output hdone (fun _ => rfl) rfl stdout stderr
      | some message =>
          rw [herror] at hdone
          exact setUp_of_errors hdone (fun _ => rfl) rfl stdout stderr
  | notFound =>
      have hview : run.view.perform (ex.action meaning held stdout stderr run.moment
          (command, .notFound)) = run.view := perform_of_next rfl rfl rfl
      have hdone : Performed run run
          (ex.action meaning held stdout stderr run.moment (command, .notFound)) :=
        ⟨hview.symm, hquiet, rfl, rfl, rfl⟩
      exact setUp_of_output hdone (fun _ => rfl) rfl stdout stderr
  | external program =>
      obtain ⟨hfails, hstarts⟩ := hfollows program rfl
      have hlaunchAt : (⟨program, command.name, command.args, run.world.state.cwd, stdout,
        stderr, held⟩ : Launch) = launchAt run.moment held command program stdout stderr := rfl
      have hfiles : run.world.files = run.moment.files := rfl
      simp only [setUpStage, start, action, hlaunchAt, hfiles]
      cases hmeaning : meaning run.moment.files
          (launchAt run.moment held command program stdout stderr).call with
      | ok f =>
          obtain ⟨started, hstarted, hfilter⟩ := hstarts f hmeaning
          simp only [hstarted]
          exact ⟨.started rfl rfl hfilter, rfl, rfl, fun _ _ _ => rfl⟩
      | error e =>
          simp only [hfails e hmeaning, doFailed]
          by_cases hnotFound : e = .notFound
          · rw [if_pos hnotFound, if_pos hnotFound]
            exact setUp_of_output (performed_doFailed hquiet program e _ _) (fun _ => rfl) rfl
              stdout stderr
          · rw [if_neg hnotFound, if_neg hnotFound]
            exact setUp_of_errors (performed_doFailed hquiet program e _ _) (fun _ => rfl) rfl
              stdout stderr

/-- A program leaves its moment alone while it is set up. -/
theorem action_of_reads {ex : Executor} {meaning : Meaning} {held : Option FileSystem.Handle}
    {stdout stderr : Sink} {m : Moment} {stage : Command × Resolution}
    (hreads : (ex.action meaning held stdout stderr m stage).reads = true) :
    (ex.action meaning held stdout stderr m stage).next = m ∧
      (ex.action meaning held stdout stderr m stage).shown = [] ∧
      (ex.action meaning held stdout stderr m stage).errors = some [] := by
  obtain ⟨command, resolution⟩ := stage
  cases resolution with
  | builtin b => nomatch hreads
  | notFound => nomatch hreads
  | external program =>
      generalize hmeaning : meaning m.files
        (launchAt m held command program stdout stderr).call = started
      simp only [action, hmeaning] at hreads ⊢
      cases started with
      | ok f => exact ⟨rfl, rfl, rfl⟩
      | error e =>
          by_cases hnotFound : e = .notFound <;> simp [hnotFound] at hreads

/-- A stage before the last one: its output waits in the pipe. -/
theorem afterSetUp_front {run : Run} {action : Action}
    (hreads : action.reads = true →
      action.next = run.moment ∧ action.shown = [] ∧ action.errors = some []) (room : Nat) :
    afterSetUp run.view (.pipe room) .terminal action =
      ⟨action.next.state, action.next.files, run.world.input,
        fun outlet => run.view.seen outlet ++ action.frontOn outlet⟩ := by
  rw [afterSetUp]
  cases hcase : action.reads with
  | true =>
      obtain ⟨hnext, hshown, herrors⟩ := hreads hcase
      simp [Action.frontOn, hnext, hshown, herrors, shownOn, Sink.reaches, Run.moment, Run.view]
  | false =>
      cases herrors : action.errors <;>
        simp [View.writeBoth, View.write, View.perform, Action.frontOn, herrors, Sink.store,
          Sink.reaches, Run.view]

/-- What has been seen when the turn of the last stage comes. -/
def atLast (ex : Executor) (meaning : Meaning) (held : Option FileSystem.Handle) (index : Nat)
    (run : Run) (front : List (Command × Resolution)) (last : Command × Resolution) : View :=
  let m := (ex.momentAfter meaning held index run.moment front).enter (index + front.length) last
  ⟨m.state, m.files, run.world.input, fun outlet => run.view.seen outlet ++
    (ex.actions meaning held index run.moment front).flatMap (Action.frontOn · outlet)⟩

/-- The turn of the last stage is the same, seen from the first stage or from the one behind
it. -/
theorem atLast_cons {ex : Executor} {meaning : Meaning} {held : Option FileSystem.Handle}
    {index : Nat} {run next : Run} {stage : Command × Resolution}
    (hmoment : next.moment = (ex.frontAction meaning held index run.moment stage).next)
    (hinput : next.world.input = run.world.input)
    (hseen : ∀ outlet, next.view.seen outlet = run.view.seen outlet ++
      (ex.frontAction meaning held index run.moment stage).frontOn outlet)
    (front : List (Command × Resolution)) (last : Command × Resolution) :
    ex.atLast meaning held (index + 1) next front last =
      ex.atLast meaning held index run (stage :: front) last := by
  have hindex : index + 1 + front.length = index + (front.length + 1) := by
    rw [Nat.add_assoc, Nat.add_comm 1]
  simp only [atLast, hmoment, hinput, hseen, hindex]
  simp [actions, momentAfter, List.append_assoc]

/-- One stage before the last one is set up, in its turn. -/
theorem setUp_front {ex : Executor} {meaning : Meaning} {held : Option FileSystem.Handle}
    {index : Nat} {run : Run} (hquiet : run.Quiet) {stage : Command × Resolution} (room : Nat)
    (hfollows : ex.Follows meaning held (run.moment.enter index stage) stage (.pipe room)
      .terminal) :
    let action := ex.frontAction meaning held index run.moment stage
    let result := ex.setUpStage held (run.enter index stage.1 stage.2) stage.1 stage.2
      (.pipe room) .terminal
    Realises (.pipe room) .terminal result.2 action ∧ result.1.piped = run.piped ∧
      result.1.moment = action.next ∧ result.1.view =
        ⟨action.next.state, action.next.files, run.world.input,
          fun outlet => run.view.seen outlet ++ action.frontOn outlet⟩ := by
  intro action result
  have hstage := setUpStage_spec (quiet_enter hquiet index stage.1 stage.2) hfollows
  have hview := hstage.view.trans (afterSetUp_front action_of_reads _)
  rw [view_enter] at hview
  have hstate : result.1.world.state = action.next.state := congrArg View.state hview
  have hfiles : result.1.world.files = action.next.files := congrArg View.files hview
  have hjournal : result.1.world.journal = action.next.journal := hstage.journal room rfl rfl
  refine ⟨hstage.realises, hstage.piped, ?_, hview⟩
  rw [Run.moment, hstate, hfiles, hjournal]

/-- All stages are set up in order, and each is ready to do what its action says. -/
theorem setUp_spec {ex : Executor} {meaning : Meaning} {held : Option FileSystem.Handle}
    {front : List (Command × Resolution)} {last : Command × Resolution} {index : Nat} {run : Run}
    (hquiet : run.Quiet) (hfront : ex.FrontFollows meaning held index run.moment front)
    (hlast : ex.Follows meaning held
      ((ex.momentAfter meaning held index run.moment front).enter (index + front.length) last)
      last (sinks true 0 last.1 held).1 (sinks true 0 last.1 held).2)
    (rooms : List Nat) :
    let action := ex.lastAction meaning held (index + front.length)
      (ex.momentAfter meaning held index run.moment front) last
    let out := sinks true 0 last.1 held
    ∃ ready stage, ∃ done : Run,
      ex.setUp held index run rooms (front ++ [last]) = (done, ready ++ [stage]) ∧
      List.Forall₂ (fun stage action => ∃ room, Realises (.pipe room) .terminal stage action)
        ready (ex.actions meaning held index run.moment front) ∧
      Realises out.1 out.2 stage action ∧ done.piped = run.piped ∧
      done.view = afterSetUp (ex.atLast meaning held index run front last) out.1 out.2 action := by
  induction front generalizing index run rooms with
  | nil =>
      obtain ⟨command, resolution⟩ := last
      have hstage := setUpStage_spec (quiet_enter hquiet index command resolution) hlast
      refine ⟨[], _, _, rfl, .nil, hstage.realises, hstage.piped, ?_⟩
      refine hstage.view.trans ?_
      have hturn : ex.atLast meaning held index run [] (command, resolution) =
          (run.enter index command resolution).view := by
        rw [view_enter]
        simp [atLast, actions, momentAfter, Run.view, Run.moment, Moment.enter, Moment.record]
      rw [hturn]
      rfl
  | cons stage front ih =>
      obtain ⟨command, resolution⟩ := stage
      obtain ⟨hrealises, hpipedNext, hmoment, hview⟩ := setUp_front hquiet (rooms.headD 0)
        (hfront 0 (command, resolution) (rooms.headD 0) rfl)
      have hquietNext := quiet_setUpStage ex held (quiet_enter hquiet index command resolution)
        command resolution (.pipe (rooms.headD 0)) .terminal
      generalize hresult : ex.setUpStage held (run.enter index command resolution) command
        resolution (.pipe (rooms.headD 0)) .terminal = result
        at hrealises hpipedNext hmoment hview hquietNext
      obtain ⟨next, stage⟩ := result
      have hindex : index + 1 + front.length = index + (front.length + 1) := by
        rw [Nat.add_assoc, Nat.add_comm 1]
      have hturn : ex.atLast meaning held (index + 1) next front last =
          ex.atLast meaning held index run ((command, resolution) :: front) last :=
        atLast_cons hmoment (congrArg View.input hview)
          (fun outlet => congrArg (fun v : View => v.seen outlet) hview) front last
      have hfrontNext : ex.FrontFollows meaning held (index + 1) next.moment front := by
        rw [hmoment]
        exact hfront.tail
      have hlastNext : ex.Follows meaning held
          ((ex.momentAfter meaning held (index + 1) next.moment front).enter
            (index + 1 + front.length) last) last (sinks true 0 last.1 held).1
            (sinks true 0 last.1 held).2 := by
        rw [hmoment, hindex]
        exact hlast
      obtain ⟨ready, lastStage, done, hsetUp, hready, hlastReady, hpiped, hdoneView⟩ :=
        ih hquietNext hfrontNext hlastNext rooms.tail
      rw [hmoment] at hready hlastReady hdoneView
      rw [hindex] at hlastReady hdoneView
      refine ⟨stage :: ready, lastStage, done, ?_, .cons ⟨_, hrealises⟩ hready, hlastReady,
        hpiped.trans hpipedNext, ?_⟩
      · have hsinks : sinks (front ++ [last]).isEmpty (rooms.headD 0) command held =
            (.pipe (rooms.headD 0), .terminal) := by
          simp [sinks]
        simp only [List.cons_append, setUp, hsinks, hresult, hsetUp]
      · rwa [hturn] at hdoneView

/-! ## Running the stages -/

/-- What is left of the input of the terminal when a stage has run.  Only the
first stage reads from it. -/
def leftInput (run : Run) (action : Action) : Bytes :=
  if action.reads && run.piped.isNone then [] else run.world.input

theorem drop_of_holds {run : Run} {text : Bytes} (hholds : run.input.Holds text)
    (hfirst : run.piped.isNone = true) : run.world.input.drop text.length = [] := by
  rw [Option.isNone_iff_eq_none] at hfirst
  have hrest : run.world.input = text := by simpa [Run.input, hfirst, Input.Holds] using hholds
  rw [hrest, List.drop_length]

/-- A filter that runs takes its input and writes its output. -/
theorem runProgram_spec {run : Run} {program : Started} {action : Action} {text : Bytes}
    (hquiet : run.Quiet) (hreads : action.reads = true)
    (hfilter : program.IsFilter action.transform) (hholds : run.input.Holds text)
    (stdout stderr : Sink) :
    (runProgram run program stdout stderr).view =
      ({ run.view with input := leftInput run action }.write stdout .output
        (action.transform text)).write stderr .errors [] := by
  have hfinished := hfilter ⟨run.world.files, run.input⟩ text hholds
  simp only [runProgram, hfinished]
  generalize flowOf _ run = flow
  generalize htaken : Run.take { run with
    world := { run.world with
      input := if run.piped.isNone then run.world.input.drop text.length
        else run.world.input } } text.length = taken
  have htakenQuiet : taken.Quiet := by rw [← htaken]; exact hquiet
  have htakenView : taken.view = { run.view with input := leftInput run action } := by
    have hinput : (if run.piped.isNone then run.world.input.drop text.length
        else run.world.input) = leftInput run action := by
      rw [leftInput, hreads, Bool.true_and]
      by_cases hfirst : run.piped.isNone = true
      · rw [if_pos hfirst, if_pos hfirst, drop_of_holds hholds hfirst]
      · rw [if_neg hfirst, if_neg hfirst]
    rw [← htaken, view_take, ← hinput]
    rfl
  have hout := view_deliver htakenQuiet stdout .output (.ofBytes (action.transform text)) flow
  have houtQuiet := quiet_deliver htakenQuiet stdout .output
    (.ofBytes (action.transform text)) flow
  have herr := view_deliver houtQuiet stderr .errors (.ofBytes []) flow
  have herrQuiet := quiet_deliver houtQuiet stderr .errors (.ofBytes []) flow
  refine (view_surface_of_quiet herrQuiet).trans (herr.trans ?_)
  rw [hout, htakenView]
  rfl

theorem runStage_front {run : Run} {stage : Stage} {action : Action} {text : Bytes} {room : Nat}
    (hquiet : run.Quiet) (hstage : Realises (.pipe room) .terminal stage action)
    (hholds : run.input.Holds text) :
    (runStage run stage).piped = some (.ofBytes (action.transform text)) ∧
      (runStage run stage).view = { run.view with input := leftInput run action } := by
  cases hstage with
  | done hreads houtput =>
      refine ⟨?_, ?_⟩
      · simp [runStage, Run.pass, houtput]
      · simp [runStage, leftInput, hreads]
        rfl
  | started hreads _ hfilter =>
      have hview := runProgram_spec hquiet hreads hfilter hholds (.pipe room) .terminal
      refine ⟨?_, ?_⟩
      · have hfinished := hfilter ⟨run.world.files, run.input⟩ text hholds
        simp only [runStage, runProgram, hfinished]
        rfl
      · refine hview.trans ?_
        simp [View.write, Sink.store, Sink.reaches]

theorem runStage_last {run : Run} {stage : Stage} {action : Action} {text : Bytes}
    {stdout stderr : Sink} (hquiet : run.Quiet) (hstage : Realises stdout stderr stage action)
    (hholds : run.input.Holds text) :
    (runStage run stage).view =
      let left : View := { run.view with input := leftInput run action }
      if action.reads then left.writeBoth stdout stderr (action.transform text) action.errors
      else left := by
  cases hstage with
  | done hreads houtput =>
      simp only [hreads, leftInput, Bool.false_and, Bool.false_eq_true, if_false]
      rfl
  | started hreads herrors hfilter =>
      refine (runProgram_spec hquiet hreads hfilter hholds stdout stderr).trans ?_
      simp only [hreads, herrors, if_true]
      rfl

/-- What is left of the input of the terminal after some stages. -/
def leftAfter (run : Run) (actions : List Action) : Bytes :=
  match actions with
  | [] => run.world.input
  | action :: _ => leftInput run action

/-- The stages before the last one run, each on what the one before it has
written, and show nothing. -/
theorem foldl_runStage_front {ready : List Stage} {actions : List Action}
    (hready : List.Forall₂
      (fun stage action => ∃ room, Realises (.pipe room) .terminal stage action) ready actions)
    {run : Run} {text : Bytes} (hquiet : run.Quiet) (hholds : run.input.Holds text) :
    (ready.foldl runStage run).input.Holds (carried text actions) ∧
      (ready.foldl runStage run).view = { run.view with input := leftAfter run actions } ∧
      (actions ≠ [] → (ready.foldl runStage run).piped.isNone = false) := by
  induction hready generalizing run text with
  | nil => exact ⟨hholds, rfl, fun h => absurd rfl h⟩
  | @cons stage action ready actions hstage hrest ih =>
      obtain ⟨room, hrealises⟩ := hstage
      obtain ⟨hpiped, hview⟩ := runStage_front hquiet hrealises hholds
      have hnextHolds : (runStage run stage).input.Holds (action.transform text) := by
        simp [Run.input, hpiped, Input.Holds]
      obtain ⟨hdoneHolds, hdoneView, hdonePiped⟩ := ih (quiet_runStage hquiet stage) hnextHolds
      have hinput : (runStage run stage).world.input = leftInput run action :=
        congrArg View.input hview
      have hleft : leftAfter (runStage run stage) actions = leftInput run action := by
        cases actions with
        | nil => exact hinput
        | cons later actions => simp [leftAfter, leftInput, hpiped] at hinput ⊢; exact hinput
      refine ⟨hdoneHolds, ?_, fun _ => ?_⟩
      · rw [List.foldl_cons, hdoneView, hview, hleft]
        rfl
      · cases hrest with
        | nil => simp [hpiped]
        | cons _ _ => exact hdonePiped (List.cons_ne_nil _ _)

/-- What is left of the input of the terminal when the stages have run: all of it
unless the first stage is a program. -/
def inputLeft (input : Bytes) (actions : List Action) : Bytes :=
  if actions.head?.any Action.reads then [] else input

theorem leftInput_last {start last : Run} {before : List Action} (action : Action)
    (hfirst : start.piped = none) (hview : last.view = { start.view with
      input := leftAfter start before })
    (hpiped : before ≠ [] → last.piped.isNone = false)
    (hkept : before = [] → last.piped = start.piped) :
    leftInput last action = inputLeft start.world.input (before ++ [action]) := by
  have hinput : last.world.input = leftAfter start before := congrArg View.input hview
  cases before with
  | nil =>
      have hnone : last.piped.isNone = true := by rw [hkept rfl, hfirst]; rfl
      cases hreads : action.reads <;> simp [leftInput, inputLeft, leftAfter, hnone, hinput, hreads]
  | cons first before =>
      have hlater : last.piped.isNone = false := hpiped (List.cons_ne_nil _ _)
      cases hreads : first.reads <;>
        simp [leftInput, inputLeft, leftAfter, hlater, hinput, hreads, hfirst]

/-- An action whose stage is set up and which reads nothing writes the same
whatever it could have read. -/
theorem transform_eq_of_realises {stdout stderr : Sink} {stage : Stage} {action : Action}
    (hstage : Realises stdout stderr stage action) (hreads : action.reads = false)
    (text : Bytes) : action.transform [] = action.transform text := by
  cases hstage with
  | done _ houtput => rw [houtput, houtput]
  | started hprogram => rw [hreads] at hprogram; nomatch hprogram

theorem writeBoth_input (v : View) (stdout stderr : Sink) (output : Bytes)
    (errors : Option Bytes) (input : Bytes) :
    { v.writeBoth stdout stderr output errors with input := input } =
      { v with input := input }.writeBoth stdout stderr output errors := by
  cases errors <;> rfl

/-- Setting up all stages and running them: the builtins act in order, the texts
go from stage to stage, and the last stage writes to its sinks. -/
theorem view_runStages {ex : Executor} {meaning : Meaning} {held : Option FileSystem.Handle}
    {front : List (Command × Resolution)} {last : Command × Resolution} {run : Run}
    (hquiet : run.Quiet) (hfront : ex.FrontFollows meaning held 0 run.moment front)
    (hlast : ex.Follows meaning held
      ((ex.momentAfter meaning held 0 run.moment front).enter front.length last) last
      (sinks true 0 last.1 held).1 (sinks true 0 last.1 held).2)
    (hfirst : run.piped = none) (rooms : List Nat) :
    let before := ex.actions meaning held 0 run.moment front
    let action := ex.lastAction meaning held front.length
      (ex.momentAfter meaning held 0 run.moment front) last
    let out := sinks true 0 last.1 held
    let done := ex.runStages held run rooms (front ++ [last])
    done.view =
      (({ ex.atLast meaning held 0 run front last with
          input := inputLeft run.world.input (before ++ [action]) } : View).perform
        action).writeBoth out.1 out.2 (action.transform (carried run.world.input before))
          action.errors := by
  intro before action out done
  rw [← Nat.zero_add front.length] at hlast
  obtain ⟨ready, stage, start, hsetUp, hready, hlast, hpiped, hview⟩ :=
    setUp_spec hquiet hfront hlast rooms
  rw [Nat.zero_add] at hlast hview
  have hstart : start.Quiet := by
    have hset := quiet_setUp ex held (front ++ [last]) 0 hquiet rooms
    rwa [hsetUp] at hset
  have hinput : start.world.input = run.world.input := by
    have := input_setUp ex held (front ++ [last]) 0 run rooms
    rwa [hsetUp] at this
  have hholds : start.input.Holds run.world.input := by
    simp [Run.input, hpiped, hfirst, Input.Holds, hinput]
  obtain ⟨hrunHolds, hrunView, hrunPiped⟩ := foldl_runStage_front hready hstart hholds
  have hdoneView := runStage_last (quiet_foldl_runStage ready hstart) hlast hrunHolds
  have hfold : done = runStage (ready.foldl runStage start) stage := by
    simp only [done, runStages, hsetUp, List.foldl_append, List.foldl_cons, List.foldl_nil]
  have hleft : leftInput (ready.foldl runStage start) action =
      inputLeft run.world.input (before ++ [action]) := by
    rw [← hinput]
    refine leftInput_last action (hpiped.trans hfirst) hrunView hrunPiped fun hnil => ?_
    have hready : ready = [] := by
      rw [show ex.actions meaning held 0 run.moment front = [] from hnil] at hready
      exact List.forall₂_nil_right_iff.mp hready
    rw [hready]
    rfl
  rw [hfold]
  refine hdoneView.trans ?_
  rw [hrunView, hleft, hview]
  cases hreads : action.reads with
  | true =>
      have hnext : action.next =
          (ex.momentAfter meaning held 0 run.moment front).enter (0 + front.length) last := by
        rw [Nat.zero_add]
        exact (action_of_reads hreads).1
      have hshown : action.shown = [] := (action_of_reads hreads).2.1
      have hperform : ∀ input, ({ ex.atLast meaning held 0 run front last with
          input := input } : View).perform action =
            { ex.atLast meaning held 0 run front last with input := input } := fun _ =>
        perform_of_next (congrArg Moment.state hnext) (congrArg Moment.files hnext) hshown
      rw [afterSetUp, hreads, if_pos rfl, if_pos rfl, hperform]
  | false =>
      rw [afterSetUp, hreads, if_neg Bool.false_ne_true, if_neg Bool.false_ne_true]
      refine (writeBoth_input _ _ _ _ _ _).trans ?_
      rw [transform_eq_of_realises hlast hreads]
      rfl

/-! ## Running a pipeline -/

/-- What a pipeline means: its stages before the last one, the last one, and
where that one writes. -/
structure Reading where
  before : List Action
  last : Action
  stdout : Sink
  stderr : Sink

namespace Reading

/-- What the last stage writes if the terminal holds an input. -/
def output (r : Reading) (input : Bytes) : Bytes := r.last.transform (carried input r.before)

/-- What the pipeline puts on a stream of the terminal. -/
def seen (r : Reading) (input : Bytes) (outlet : Outlet) : Bytes :=
  r.before.flatMap (Action.frontOn · outlet) ++ shownOn outlet r.last.shown ++
    r.stdout.reaches .output outlet (r.output input) ++
    r.last.errors.elim [] (r.stderr.reaches .errors outlet)

/-- The files that the pipeline leaves. -/
def files (r : Reading) (input : Bytes) : FileSystem :=
  let files := r.stdout.store r.last.next.files (r.output input)
  r.last.errors.elim files (r.stderr.store files)

end Reading

/-- The stages of commands, with what their names mean before the first one runs. -/
def resolved (ex : Executor) (w : World) (commands : List Command) :
    List (Command × Resolution) :=
  commands.map fun command => (command, ex.resolve w command.name)

/-- The run of a pipeline whose redirection is open, before its first stage is set up. -/
def opened (ex : Executor) (w : World) (p : Pipeline) (files : FileSystem) : Run :=
  ⟨{ ex.announced w p with files }, none, (ex.openingRecords w p).map .record, []⟩

/-- What a pipeline means whose redirection is open. -/
def reading (ex : Executor) (meaning : Meaning) (w : World) (held : Option FileSystem.Handle)
    (files : FileSystem) (p : Pipeline) : Reading :=
  let m := (ex.opened w p files).moment
  let front := ex.resolved w p.front
  let (stdout, stderr) := sinks true 0 p.last held
  { before := ex.actions meaning held 0 m front
    last := ex.lastAction meaning held front.length (ex.momentAfter meaning held 0 m front)
      (p.last, ex.resolve w p.last.name)
    stdout
    stderr }

/-- Every program that a stage of a pipeline starts is a function from its whole input to its
output, and every other start fails. -/
structure RunsFilters (ex : Executor) (meaning : Meaning) (w : World)
    (held : Option FileSystem.Handle) (files : FileSystem) (p : Pipeline) : Prop where
  front : ex.FrontFollows meaning held 0 (ex.opened w p files).moment (ex.resolved w p.front)
  last :
    let front := ex.resolved w p.front
    let stage := (p.last, ex.resolve w p.last.name)
    let m := (ex.momentAfter meaning held 0 (ex.opened w p files).moment front).enter front.length
      stage
    let out := sinks true 0 p.last held
    ex.Follows meaning held m stage out.1 out.2

/-- Where programs are functions of their input, a pipeline whose redirection
opens does what it means, whatever room its pipes have. -/
theorem execute_eq_reading {ex : Executor} {meaning : Meaning} {w : World}
    (hquiet : w.files.shown = []) {p : Pipeline} {held : Option FileSystem.Handle}
    {files : FileSystem} (hopen : ex.openRedirect (ex.announced w p) p.last = .ok (held, files))
    (hfilters : ex.RunsFilters meaning w held files p) :
    let r := ex.reading meaning w held files p
    let done := ex.execute w p
    done.result = .ok () ∧
      (∀ outlet, seenOn outlet done.events = r.seen w.input outlet) ∧
      done.world.state = r.last.next.state ∧
      done.world.files = r.files w.input ∧
      done.world.input = inputLeft w.input (r.before ++ [r.last]) := by
  intro r done
  have hstages : (p.commands.map fun command => (command, ex.resolve w command.name)) =
      ex.resolved w p.front ++ [(p.last, ex.resolve w p.last.name)] := by
    rw [← List.dropLast_append_getLast p.commands_ne_nil, List.map_append]
    rfl
  obtain ⟨rooms, hdone⟩ : ∃ rooms, done =
      let run := ex.runStages held (ex.opened w p files) rooms
        (ex.resolved w p.front ++ [(p.last, ex.resolve w p.last.name)])
      ⟨run.world, run.events, .ok ()⟩ := by
    simp only [done, execute, hopen, hstages]
    obtain ⟨rooms, hsettle⟩ := settle_eq_runStages ex held _ _ _ _
    rw [hsettle]
    exact ⟨rooms, rfl⟩
  have hstart : (ex.opened w p files).Quiet :=
    (shown_openRedirect hopen).trans ((shown_stored _ _).trans hquiet)
  have hseen : ∀ outlet, (ex.opened w p files).view.seen outlet = [] := fun outlet =>
    seenOn_records outlet _
  have hview := view_runStages hstart hfilters.front hfilters.last rfl rooms
  simp only [writeBoth_view] at hview
  rw [hdone]
  refine ⟨rfl, fun outlet => ?_, congrArg View.state hview, congrArg View.files hview,
    congrArg View.input hview⟩
  refine (congrArg (fun v : View => v.seen outlet) hview).trans ?_
  simp only [View.perform, atLast, hseen, List.nil_append]
  rfl

/-- Every program starts and turns its whole input around. -/
def reversing : Executor where
  here := .root
  search := ⟨[]⟩
  launch := fun _ _ => .ok fun setting =>
    let text := match setting.input with
      | .piped stream => stream.first
      | .terminal rest => rest
    ⟨.ofBytes text.reverse, [], false, setting.files, text.length⟩

theorem follows_reversing (files : FileSystem) (launch : Launch) :
    reversing.launch.Follows (fun _ _ => .ok List.reverse) files launch where
  fails := fun _ h => nomatch h
  starts := by
    intro f hmeaning
    obtain rfl := Except.ok.inj hmeaning
    refine ⟨_, rfl, fun setting text hholds => ?_⟩
    cases hinput : setting.input <;> rw [hinput] at hholds <;> subst hholds <;> rfl

theorem runsFilters_reversing (w : World) (held : Option FileSystem.Handle) (files : FileSystem)
    (p : Pipeline) : reversing.RunsFilters (fun _ _ => .ok List.reverse) w held files p where
  front := fun _ _ _ _ _ _ => follows_reversing _ _
  last := fun _ _ => follows_reversing _ _

/-- A world with one entry in its history, a program and the devices of a terminal. -/
def desk : World where
  state := ⟨[Path.slash], none, ⟨["one"], 0⟩, false⟩
  files := FileSystem.attachDevices { nodes := [([utf8 "tool"], .program "tool")] }
  input := utf8 "typed"

theorem execute_eq_reading_reversed :
    let p : Pipeline := ⟨[⟨"missing", [], none, none, none⟩, ⟨"echo", ["one"], none, none, none⟩,
      ⟨"/tool", [], none, none, none⟩], by decide⟩
    (reversing.execute desk p).result = .ok () ∧
      seenOn .output (reversing.execute desk p).events = utf8 "\neno" := by
  intro p
  have hopen : reversing.openRedirect (reversing.announced desk p) p.last =
      .ok (none, desk.files) := rfl
  obtain ⟨hresult, hseen, -⟩ := execute_eq_reading rfl hopen (runsFilters_reversing desk _ _ p)
  refine ⟨hresult, (hseen .output).trans ?_⟩
  decide +kernel

/-- The terminal can receive more than what the last stage writes: a builtin may
store the history where the terminal is. -/
theorem not_seenOn_output_eq_output :
    ¬ ∀ (ex : Executor) (meaning : Meaning) (w : World) (p : Pipeline)
      (held : Option FileSystem.Handle) (files : FileSystem), w.files.shown = [] →
      ex.openRedirect (ex.announced w p) p.last = .ok (held, files) →
      ex.RunsFilters meaning w held files p → (sinks true 0 p.last held).1 = .terminal →
      seenOn .output (ex.execute w p).events =
        (ex.reading meaning w held files p).output w.input := by
  intro hclaim
  let p : Pipeline := ⟨[⟨"history", ["-w", "/dev/stdout"], none, none, none⟩], by decide⟩
  have hsame := hclaim reversing _ desk p none desk.files rfl rfl
    (runsFilters_reversing desk none desk.files p) rfl
  have hseen : seenOn .output (reversing.execute desk p).events = utf8 "one\n" := by
    decide +kernel
  have houtput : (reversing.reading (fun _ _ => .ok List.reverse) desk none desk.files p).output
      desk.input = [] := by
    decide +kernel
  rw [hseen, houtput] at hsame
  exact absurd hsame (by decide +kernel)

end Executor

end PipelineShell
