import PipelineShell.Pipeline
import PipelineShell.Builtin
import PipelineShell.Flow
import PipelineShell.Journal
import PipelineShell.Stream

/-!
# Running a pipeline

The stages are set up from left to right: the shell does at once what it does
itself, and starts the programs.  Then the programs run, each on what the stage
before it has written.  Which program a stage means, and the file of the
redirection, are settled before the first stage is set up.  Only the redirection
of the last stage counts.  Programs are started by a `Launcher`, of which nothing
is assumed.  What the log is told stands in its file when a stage acts, so that a
stage can read it there.
-/

namespace PipelineShell

/-- What a command name stands for. -/
inductive Resolution where
  | builtin (b : Builtin)
  | external (program : Path)
  | notFound
  deriving DecidableEq, Repr

/-- Where a stage writes. -/
inductive Sink where
  | terminal
  /-- a pipe, which has so much room -/
  | pipe (room : Nat)
  | file (handle : FileSystem.Handle)
  deriving DecidableEq, Repr

/-- A program to be started. -/
structure Launch where
  program : Path
  name : String
  args : List String
  /-- the directory in which it is started -/
  directory : Path
  stdout : Sink
  stderr : Sink
  /-- the file of the redirection, which is open while programs are started -/
  held : Option FileSystem.Handle
  deriving DecidableEq, Repr

/-- What a program reads. -/
inductive Input where
  | piped (text : Stream)
  /-- what is left of the input of the terminal -/
  | terminal (rest : Bytes)
  deriving Repr

/-- A program that has ended. -/
structure Finished where
  output : Stream
  errors : Bytes
  /-- it was stopped because its pipe had no more room -/
  isCut : Bool
  files : FileSystem
  /-- how many bytes of its input it has taken -/
  consumed : Nat
  deriving Repr

/-- What a program finds when it runs. -/
structure Setting where
  files : FileSystem
  input : Input
  deriving Repr

/-- A program that has started. -/
abbrev Started := Setting → Finished

abbrev Launcher := FileSystem → Launch → Except OsError Started

/-- What the user sees and what the log is told, in order. -/
inductive Event where
  | output (text : Bytes)
  | errors (text : Bytes)
  | record (r : LogRecord)
  deriving DecidableEq, Repr

/-- What running a line can change. -/
structure World where
  state : ShellState
  /-- the files as they were when somebody last looked at them -/
  files : FileSystem
  /-- input of the terminal that nobody has read -/
  input : Bytes
  journal : Journal := .apart
  deriving Repr

namespace World

/-- Tell the log something.  It is written before anybody looks at the files. -/
def log (w : World) (records : List LogRecord) : World :=
  { w with journal := w.journal.tell records }

/-- Write what the log was told, so that the files can be looked at. -/
def flush (w : World) : World :=
  { w with files := w.journal.stored w.files, journal := w.journal.settled }

end World

/-- What running a line does not change. -/
structure Executor where
  here : Place
  search : SearchPath
  launch : Launcher

namespace Resolution

/-- The resolution in log records. -/
def title : Resolution → String
  | builtin b => "Builtin(" ++ b.title ++ ")"
  | external program => "External(" ++ Text.quotedPath program ++ ")"
  | notFound => "NotFound"

end Resolution

namespace Executor

/-- What a name stands for.  A name with a slash is a path; other names are
looked up. -/
def resolve (ex : Executor) (w : World) (name : String) : Resolution :=
  match Builtin.ofName? name with
  | some b => .builtin b
  | none =>
    if name.toList.contains '/' then
      let program := w.state.cwd.join (utf8 name)
      if w.files.isExecutable ex.here program then .external program else .notFound
    else match ex.search.lookup w.files ex.here name with
      | some program => .external program
      | none => .notFound

/-- What resolving a name tells the log. -/
def resolveRecords (ex : Executor) (w : World) (name : String) : List LogRecord :=
  if (Builtin.ofName? name).isSome || name.toList.contains '/' then []
  else ex.search.lookupRecords w.files ex.here name

/-- The file of a redirection, opened. -/
def openRedirect (ex : Executor) (w : World) (command : Command) :
    Except LineError (Option FileSystem.Handle × FileSystem) :=
  match command.redirect, command.target with
  | none, _ => .ok (none, w.files)
  | some _, none => .error (.missingRedirectTarget (command.operator.getD ""))
  | some redirect, some target =>
    match w.files.openForWriting ex.here (w.state.cwd.join (utf8 target)) redirect.isAppend with
    | .ok (handle, files) => .ok (some handle, files)
    | .error e => .error (.redirection target e)

def openRecords (w : World) (command : Command) : List LogRecord :=
  match command.redirect, command.target with
  | some redirect, some target =>
    [.debug ("打开重定向文件: " ++ (w.state.cwd.join (utf8 target)).display ++
      " (" ++ redirect.name ++ ")")]
  | _, _ => []

/-- The warning for a redirection that does not count. -/
def ignoredRecords (command : Command) : List LogRecord :=
  if command.redirect.isSome then
    [.warn ("忽略非末尾阶段的重定向: " ++ command.name ++ " " ++
      Text.quotedOption command.target)]
  else []

/-- Where a stage writes to: output and errors. -/
def sinks (isLast : Bool) (room : Nat) (command : Command) (handle : Option FileSystem.Handle) :
    Sink × Sink :=
  if !isLast then (.pipe room, .terminal)
  else match handle, command.redirect with
    | some h, some redirect =>
      if redirect.isStderr then (.terminal, .file h) else (.file h, .terminal)
    | _, _ => (.terminal, .terminal)

/-- A pipeline under way. -/
structure Run where
  world : World
  /-- what the previous stage has written; `none` before the first stage -/
  piped : Option Stream
  events : List Event
  /-- what has gone through the pipes, latest first -/
  flows : List Flow
  deriving Repr

namespace Run

def log (run : Run) (records : List LogRecord) : Run :=
  { run with
    world := run.world.log records
    events := run.events ++ records.map Event.record }

/-- The event of a text that an outlet shows. -/
def shownEvent : Outlet × Bytes → Event
  | (.output, text) => .output text
  | (.errors, text) => .errors text

def flush (run : Run) : Run := { run with world := run.world.flush }

/-- Bring to the user what was written to outlets. -/
def surface (run : Run) : Run :=
  { run with
    world := { run.world with files := { run.world.files with shown := [] } }
    events := run.events ++ run.world.files.shown.reverse.map shownEvent }

/-- Hand a text to the next stage. -/
def pass (run : Run) (text : Stream) (flow : Flow) : Run :=
  { run with piped := some text, flows := flow :: run.flows }

/-- What is known of a pipe that the shell itself writes to: nothing can go wrong. -/
def ownFlow : Flow := { written := 0, taken := none }

/-- A stage has taken so much from the pipe before it. -/
def take (run : Run) (count : Nat) : Run :=
  { run with flows := match run.flows with
      | flow :: flows => { flow with taken := some count } :: flows
      | [] => [] }

/-- Write a text of the shell.  What is written to a pipe waits there until the
stages run.  A failing write is only reported to the log. -/
def emit (run : Run) (sink : Sink) (event : Bytes → Event) (text : Bytes) : Run :=
  match sink with
  | .terminal => { run with events := run.events ++ [event text] }
  | .pipe _ => run
  | .file handle =>
    match run.world.files.write handle text with
    | .ok (_, files) => ({ run with world := { run.world with files } } : Run).surface
    | .error e => run.log [.warn ("写入输出失败: " ++ e.message)]

/-- Hand on what a program has written.  What happens when its writing fails is
the program's own affair. -/
def deliver (run : Run) (sink : Sink) (event : Bytes → Event) (text : Stream) (flow : Flow) :
    Run :=
  match sink with
  | .terminal => { run with events := run.events ++ [event text.first] }
  | .pipe _ => run.pass text flow
  | .file handle =>
    match run.world.files.write handle text.first with
    | .ok (_, files) => ({ run with world := { run.world with files } } : Run).surface
    | .error _ => run

/-- The input of the next stage. -/
def input (run : Run) : Input :=
  match run.piped with
  | some text => .piped text
  | none => .terminal run.world.input

end Run

/-- A stage that is set up. -/
inductive Stage where
  /-- the shell has done it, and has written so much -/
  | done (output : Bytes)
  | started (program : Started) (stdout stderr : Sink)

def notFoundLine (name : String) : Bytes := utf8 (name ++ ": command not found\n")

/-- Do a builtin stage, of whose start the log has been told. -/
def doBuiltin (ex : Executor) (run : Run) (b : Builtin) (args : List String)
    (stdout stderr : Sink) : Run × Stage :=
  let outcome := b.perform args run.world.state ⟨run.world.files, ex.here, ex.search⟩
  let world := { run.world with state := outcome.state, files := outcome.files }
  let run := (({ run with world } : Run).log outcome.records).flush.surface
  let run := run.emit stdout .output (utf8 outcome.output)
  let run := match outcome.error with
    | none => run
    | some message => run.emit stderr .errors (utf8 message)
  (run, .done (utf8 outcome.output))

/-- Do a stage that names no command. -/
def doMissing (run : Run) (name : String) (stdout : Sink) : Run × Stage :=
  (run.emit stdout .output (notFoundLine name), .done (notFoundLine name))

/-- What the log is told of a program that does not start. -/
def failedRecord (program : Path) (e : OsError) : LogRecord :=
  .error ("启动外部命令失败: " ++ program.display ++ ": " ++ e.message)

/-- Do a stage whose program does not start. -/
def doFailed (run : Run) (program : Path) (name : String) (e : OsError)
    (stdout stderr : Sink) : Run × Stage :=
  let run := (run.log [failedRecord program e]).flush
  if e = .notFound then (run.emit stdout .output (notFoundLine name), .done (notFoundLine name))
  else
    ((run.emit stdout .output []).emit stderr .errors (utf8 (name ++ ": " ++ e.message ++ "\n")),
      .done [])

/-- What a program has written to its pipe. -/
def flowOf (finished : Finished) (run : Run) : Flow :=
  { written := finished.output.first.length
    endless := finished.output.isEndless
    isCut := finished.isCut
    isQuiet := finished.isCut && finished.errors.isEmpty &&
      (run.piped.isSome || finished.consumed = 0) &&
      finished.files.nodes == run.world.files.nodes &&
      finished.files.shown == run.world.files.shown
    taken := none }

/-- Start a program. -/
def start (ex : Executor) (held : Option FileSystem.Handle) (run : Run) (program : Path)
    (command : Command) (stdout stderr : Sink) : Run × Stage :=
  let launch : Launch :=
    ⟨program, command.name, command.args, run.world.state.cwd, stdout, stderr, held⟩
  match ex.launch run.world.files launch with
  | .error e => doFailed run program command.name e stdout stderr
  | .ok started => (run, .started started stdout stderr)

/-- Set up a stage. -/
def setUpStage (ex : Executor) (held : Option FileSystem.Handle) (run : Run) (command : Command)
    (resolution : Resolution) (stdout stderr : Sink) : Run × Stage :=
  match resolution with
  | .builtin b => ex.doBuiltin run b command.args stdout stderr
  | .external program => ex.start held run program command stdout stderr
  | .notFound => doMissing run command.name stdout

/-- What the log is told of a stage before it acts. -/
def stageRecords (index : Nat) (command : Command) (resolution : Resolution) : List LogRecord :=
  let own : LogRecord := match resolution with
    | .builtin b => b.startRecord command.args
    | .external program =>
      .debug ("执行外部命令: " ++ program.display ++ " " ++ Text.quotedList command.args)
    | .notFound => .warn ("命令不存在: " ++ command.name)
  [.debug ("阶段 " ++ toString index ++ ": " ++ command.name ++ " -> " ++ resolution.title), own]

/-- The turn of a stage comes. -/
def Run.enter (run : Run) (index : Nat) (command : Command) (resolution : Resolution) : Run :=
  (run.log (stageRecords index command resolution)).flush

/-- Set up the stages that are left, the first of which has an index, with so much
room in the pipes between them. -/
def setUp (ex : Executor) (handle : Option FileSystem.Handle) (index : Nat) (run : Run) :
    (rooms : List Nat) → List (Command × Resolution) → Run × List Stage
  | _, [] => (run, [])
  | rooms, (command, resolution) :: rest =>
    let (stdout, stderr) := sinks rest.isEmpty (rooms.headD 0) command handle
    let run := run.enter index command resolution
    let (run, stage) := ex.setUpStage handle run command resolution stdout stderr
    let (run, stages) := setUp ex handle (index + 1) run rooms.tail rest
    (run, stage :: stages)

/-- Let a program run.  The first stage reads from the terminal, and leaves there
what it does not read. -/
def runProgram (run : Run) (program : Started) (stdout stderr : Sink) : Run :=
  let finished := program ⟨run.world.files, run.input⟩
  let flow := flowOf finished run
  let input := if run.piped.isNone then run.world.input.drop finished.consumed
    else run.world.input
  let world := { run.world with files := finished.files, input }
  let run := ({ run with world } : Run).take finished.consumed
  let run := run.deliver stdout .output finished.output flow
  (run.deliver stderr .errors (.ofBytes finished.errors) flow).surface

def runStage (run : Run) : Stage → Run
  | .done output => run.pass (.ofBytes output) Run.ownFlow
  | .started program stdout stderr => runProgram run program stdout stderr

/-- Set up all stages and run them. -/
def runStages (ex : Executor) (handle : Option FileSystem.Handle) (run : Run)
    (rooms : List Nat) (stages : List (Command × Resolution)) : Run :=
  let (run, ready) := ex.setUp handle 0 run rooms stages
  ready.foldl runStage run

/-- Run stages until the room in the pipes is right. -/
def settle (ex : Executor) (handle : Option FileSystem.Handle) (start : Run)
    (stages : List (Command × Resolution)) : (tries : Nat) → (rooms : List Nat) → Run
  | 0, rooms => ex.runStages handle start rooms stages
  | tries + 1, rooms =>
    let run := ex.runStages handle start rooms stages
    match Flow.corrected? rooms run.flows.reverse with
    | none => run
    | some rooms => settle ex handle start stages tries rooms

/-- The room of the pipes at first.  What is no program reads nothing. -/
def firstRooms (stages : List (Command × Resolution)) : List Nat :=
  (Flow.firstRooms (stages.length - 1)).zipWith (fun room reader => match reader.2 with
    | .external _ => room
    | _ => 0) stages.tail

/-- A line that has run. -/
structure Outcome where
  world : World
  events : List Event
  result : Except LineError Unit

/-- What the log is told of a pipeline before its redirection is opened. -/
def openingRecords (ex : Executor) (w : World) (p : Pipeline) : List LogRecord :=
  p.commands.flatMap (fun command => ex.resolveRecords w command.name) ++
    p.front.flatMap ignoredRecords ++ openRecords w p.last

/-- The world in which the redirection of a pipeline is opened. -/
def announced (ex : Executor) (w : World) (p : Pipeline) : World :=
  (w.log (ex.openingRecords w p)).flush

/-- Run a pipeline.  If the file of the redirection cannot be opened, no stage
runs. -/
def execute (ex : Executor) (w : World) (p : Pipeline) : Outcome :=
  let stages := p.commands.map fun command => (command, ex.resolve w command.name)
  let records := ex.openingRecords w p
  let events := records.map Event.record
  match ex.openRedirect (ex.announced w p) p.last with
  | .error e => ⟨w.log records, events, .error e⟩
  | .ok (handle, files) =>
    let start : Run := ⟨{ ex.announced w p with files }, none, events, []⟩
    let run := ex.settle handle start stages Flow.maxTries (firstRooms stages)
    ⟨run.world, run.events, .ok ()⟩

/-! ### Running a line never puts input back -/

theorem input_log (run : Run) (records : List LogRecord) :
    (run.log records).world.input = run.world.input := rfl

theorem input_flush (run : Run) : run.flush.world.input = run.world.input := rfl

theorem input_enter (run : Run) (index : Nat) (command : Command) (resolution : Resolution) :
    (run.enter index command resolution).world.input = run.world.input := rfl

theorem input_surface (run : Run) : run.surface.world.input = run.world.input := rfl

theorem input_take (run : Run) (count : Nat) :
    (run.take count).world.input = run.world.input := rfl

theorem input_pass (run : Run) (text : Stream) (flow : Flow) :
    (run.pass text flow).world.input = run.world.input := rfl

theorem input_emit (run : Run) (sink : Sink) (event : Bytes → Event) (text : Bytes) :
    (run.emit sink event text).world.input = run.world.input := by
  cases sink <;> simp only [Run.emit]
  split <;> simp [Run.log, Run.surface, World.log]

theorem input_deliver (run : Run) (sink : Sink) (event : Bytes → Event) (text : Stream)
    (flow : Flow) : (run.deliver sink event text flow).world.input = run.world.input := by
  cases sink <;> simp only [Run.deliver, input_pass]
  split <;> rfl

theorem input_setUpStage (ex : Executor) (held : Option FileSystem.Handle) (run : Run)
    (command : Command) (resolution : Resolution) (stdout stderr : Sink) :
    (ex.setUpStage held run command resolution stdout stderr).1.world.input =
      run.world.input := by
  cases resolution with
  | builtin b =>
    simp only [setUpStage, doBuiltin]
    split <;> simp [input_emit, input_log, input_flush, input_surface]
  | notFound => simp [setUpStage, doMissing, input_emit]
  | external program =>
    simp only [setUpStage, start]
    split
    · simp only [doFailed]
      split <;> simp [input_emit, input_log, input_flush]
    · rfl

theorem input_setUp (ex : Executor) (handle : Option FileSystem.Handle)
    (stages : List (Command × Resolution)) (index : Nat) (run : Run) (rooms : List Nat) :
    (ex.setUp handle index run rooms stages).1.world.input = run.world.input := by
  induction stages generalizing index run rooms with
  | nil => simp [setUp]
  | cons stage rest ih => simp only [setUp, ih, input_setUpStage, input_enter]

theorem input_runStage_le (run : Run) (stage : Stage) :
    (runStage run stage).world.input.length ≤ run.world.input.length := by
  cases stage with
  | done output => simp [runStage, input_pass]
  | started program stdout stderr =>
    simp only [runStage, runProgram, input_surface, input_deliver, input_take]
    split <;> simp

theorem input_foldl_runStage_le (ready : List Stage) (run : Run) :
    (ready.foldl runStage run).world.input.length ≤ run.world.input.length := by
  induction ready generalizing run with
  | nil => simp
  | cons stage rest ih => exact Nat.le_trans (ih _) (input_runStage_le run stage)

theorem input_runStages_le (ex : Executor) (handle : Option FileSystem.Handle)
    (stages : List (Command × Resolution)) (run : Run) (rooms : List Nat) :
    (ex.runStages handle run rooms stages).world.input.length ≤ run.world.input.length := by
  simp only [runStages]
  exact Nat.le_trans (input_foldl_runStage_le _ _) (by simp [input_setUp])

/-- Whatever room the pipes get in the end, the stages are run with it from the
start. -/
theorem settle_eq_runStages (ex : Executor) (handle : Option FileSystem.Handle) (start : Run)
    (stages : List (Command × Resolution)) (tries : Nat) (rooms : List Nat) :
    ∃ room, ex.settle handle start stages tries rooms =
      ex.runStages handle start room stages := by
  induction tries generalizing rooms with
  | zero => exact ⟨rooms, rfl⟩
  | succ tries ih =>
    simp only [settle]
    split
    · exact ⟨rooms, rfl⟩
    · exact ih _

theorem input_execute_le (ex : Executor) (w : World) (p : Pipeline) :
    (ex.execute w p).world.input.length ≤ w.input.length := by
  simp only [execute]
  split
  · exact Nat.le_refl _
  · rename_i handle files _
    obtain ⟨room, h⟩ := settle_eq_runStages ex handle
      ⟨{ ex.announced w p with files }, none, _, []⟩ _ Flow.maxTries _
    rw [h]
    exact input_runStages_le _ _ _ _ _

end Executor

end PipelineShell
