import PipelineShell.Proofs.Denotation

/-!
# The stages of a pipeline in the order in which they act

First the stages are set up from left to right, then the programs among them run, in
the same order.  What becomes of a stage that is set up depends on the run so far only
through its moment: the state, the files and the log that there are when its turn comes.
Of the state only what the builtins before it have left is there.
-/

namespace PipelineShell

/-! ## Builtins, one after another -/

namespace Builtin

/-- A builtin that is run, with what it finds around it.  Whatever else changes the files
may do so between two calls. -/
structure Call where
  builtin : Builtin
  args : List String
  around : Surroundings

/-- The state that a call leaves. -/
def Call.leave (state : ShellState) (call : Call) : ShellState :=
  (call.builtin.run call.args state call.around).state

def afterCalls (state : ShellState) (calls : List Call) : ShellState :=
  calls.foldl Call.leave state

end Builtin

namespace Executor

/-- What a program finds that runs next. -/
def Run.setting (run : Run) : Setting := ⟨run.world.files, run.input⟩

/-- What becomes of a stage that is set up at a moment. -/
def stageAt (ex : Executor) (held : Option FileSystem.Handle) (m : Moment)
    (stage : Command × Resolution) (out : Sink × Sink) : Stage :=
  match stage.2 with
  | .builtin b =>
    .done (utf8 (b.run stage.1.args m.state ⟨m.files, ex.here, ex.search⟩).output)
  | .notFound => .done (notFoundLine stage.1.name)
  | .external path =>
    match ex.launch m.files (launchAt m held stage.1 path out.1 out.2) with
    | .ok program => .started program out.1 out.2
    | .error e => .done (if e = .notFound then notFoundLine stage.1.name else [])

/-- What a stage leaves that others follow, so that it writes to a pipe. -/
def leave (ex : Executor) (held : Option FileSystem.Handle) (room : Nat) (m : Moment)
    (stage : Command × Resolution) : Moment :=
  match stage.2 with
  | .builtin b => m.finish (b.perform stage.1.args m.state ⟨m.files, ex.here, ex.search⟩)
  | .notFound => m
  | .external path =>
    match ex.launch m.files (launchAt m held stage.1 path (.pipe room) .terminal) with
    | .ok _ => m
    | .error e => m.record [failedRecord path e]

/-- The builtin of a stage, as it is called at a moment. -/
def call? (ex : Executor) (m : Moment) (stage : Command × Resolution) : Option Builtin.Call :=
  match stage.2 with
  | .builtin b => some ⟨b, stage.1.args, ⟨m.files, ex.here, ex.search⟩⟩
  | _ => none

/-- The builtins among stages with their arguments. -/
def builtinCalls (stages : List (Command × Resolution)) : List (Builtin × List String) :=
  stages.filterMap fun stage =>
    match stage.2 with
    | .builtin b => some (b, stage.1.args)
    | _ => none

/-- Set up stages that others follow: they write to pipes. -/
def setUpFront (ex : Executor) (held : Option FileSystem.Handle) (index : Nat) (run : Run) :
    (rooms : List Nat) → List (Command × Resolution) → Run × List Stage
  | _, [] => (run, [])
  | rooms, (command, resolution) :: rest =>
    let (run, stage) := ex.setUpStage held (run.enter index command resolution) command
      resolution (.pipe (rooms.headD 0)) .terminal
    let (run, stages) := setUpFront ex held (index + 1) run rooms.tail rest
    (run, stage :: stages)

/-- The room that the pipes have in the last try, which is the one that counts. -/
def settledRooms (ex : Executor) (held : Option FileSystem.Handle) (start : Run)
    (stages : List (Command × Resolution)) : (tries : Nat) → (rooms : List Nat) → List Nat
  | 0, rooms => rooms
  | tries + 1, rooms =>
    match Flow.corrected? rooms (ex.runStages held start rooms stages).flows.reverse with
    | none => rooms
    | some rooms => settledRooms ex held start stages tries rooms

/-- The stages of a pipeline with what their names stand for. -/
def stagesOf (ex : Executor) (w : World) (p : Pipeline) : List (Command × Resolution) :=
  p.commands.map fun command => (command, ex.resolve w command.name)

/-- The room in the pipes of a pipeline, in the end. -/
def rooms (ex : Executor) (w : World) (p : Pipeline) (held : Option FileSystem.Handle)
    (files : FileSystem) : List Nat :=
  ex.settledRooms held (ex.opened w p files) (ex.stagesOf w p) Flow.maxTries
    (firstRooms (ex.stagesOf w p))

section Course

variable (ex : Executor) (w : World) (p : Pipeline) (held : Option FileSystem.Handle)
  (files : FileSystem) (rooms : List Nat)

/-- The stages of a pipeline once all of them are set up, with so much room in the pipes. -/
def prepared : Run × List Stage :=
  ex.setUp held 0 (ex.opened w p files) rooms (ex.stagesOf w p)

/-- The first stages of a pipeline once they are set up, if others follow them. -/
def preparedUpTo (count : Nat) : Run × List Stage :=
  ex.setUpFront held 0 (ex.opened w p files) rooms ((ex.stagesOf w p).take count)

/-- The stages before the last one once they are set up. -/
def preparedFront : Run × List Stage :=
  ex.setUpFront held 0 (ex.opened w p files) rooms (ex.resolved w p.front)

/-- The run of a pipeline when some of its stages have run. -/
def ranUpTo (count : Nat) : Run :=
  ((ex.prepared w p held files rooms).2.take count).foldl runStage
    (ex.prepared w p held files rooms).1

/-- What the stage finds, when its turn comes, that comes after some others. -/
def found (count : Nat) : Moment :=
  let m := (ex.preparedUpTo w p held files rooms count).1.moment
  match (ex.stagesOf w p)[count]? with
  | some stage => m.enter count stage
  | none => m

/-- The builtins among the first stages of a pipeline, each with the files that it finds. -/
def callsUpTo (count : Nat) : List Builtin.Call :=
  (List.range count).filterMap fun i =>
    (ex.stagesOf w p)[i]?.bind (ex.call? (ex.found w p held files rooms i))

/-- The builtins of a pipeline, each with the files that it finds. -/
def calls : List Builtin.Call := ex.callsUpTo w p held files rooms p.commands.length

end Course

/-! ## Setting stages up -/

section SetUp

variable {ex : Executor} {held : Option FileSystem.Handle}

section Launching

variable {command : Command} {program : Path} {stdout stderr : Sink} (run : Run)

theorem setUpStage_of_launch_error {e : OsError} (hlaunch : ex.launch run.moment.files
      (launchAt run.moment held command program stdout stderr) = .error e) :
    ex.setUpStage held run command (.external program) stdout stderr =
      doFailed run program command.name e stdout stderr := by
  have hfails : ex.launch run.world.files ⟨program, command.name, command.args,
      run.world.state.cwd, stdout, stderr, held⟩ = .error e := hlaunch
  simp only [setUpStage, start, hfails]

theorem setUpStage_of_launch_ok {started : Started} (hlaunch : ex.launch run.moment.files
      (launchAt run.moment held command program stdout stderr) = .ok started) :
    ex.setUpStage held run command (.external program) stdout stderr =
      (run, .started started stdout stderr) := by
  have hstarts : ex.launch run.world.files ⟨program, command.name, command.args,
      run.world.state.cwd, stdout, stderr, held⟩ = .ok started := hlaunch
  simp only [setUpStage, start, hstarts]

end Launching

theorem snd_setUpStage (run : Run) (command : Command) (resolution : Resolution)
    (stdout stderr : Sink) :
    (ex.setUpStage held run command resolution stdout stderr).2 =
      ex.stageAt held run.moment (command, resolution) (stdout, stderr) := by
  cases resolution with
  | builtin b => rfl
  | notFound => rfl
  | external path =>
      cases hlaunch : ex.launch run.moment.files
          (launchAt run.moment held command path stdout stderr) with
      | error e =>
          simp only [setUpStage_of_launch_error run hlaunch, stageAt, hlaunch, doFailed]
          split <;> rfl
      | ok program => simp only [setUpStage_of_launch_ok run hlaunch, stageAt, hlaunch]

variable (ex held) in
/-- A stage before the last one, which writes to a pipe and to the terminal. -/
theorem moment_setUpStage (run : Run) (command : Command) (resolution : Resolution) (room : Nat) :
    (ex.setUpStage held run command resolution (.pipe room) .terminal).1.moment =
      ex.leave held room run.moment (command, resolution) := by
  cases resolution with
  | builtin b =>
      simp only [setUpStage, doBuiltin]
      split <;> rfl
  | notFound => rfl
  | external path =>
      cases hlaunch : ex.launch run.moment.files
          (launchAt run.moment held command path (.pipe room) .terminal) with
      | error e =>
          simp only [setUpStage_of_launch_error run hlaunch, leave, hlaunch, doFailed]
          split <;> rfl
      | ok program => simp only [setUpStage_of_launch_ok run hlaunch, leave, hlaunch]

/-- The log goes on in its file. -/
theorem location?_leave (room : Nat) (m : Moment) (stage : Command × Resolution) :
    (ex.leave held room m stage).journal.location? = m.journal.location? := by
  obtain ⟨command, resolution⟩ := stage
  cases resolution with
  | builtin b => rfl
  | notFound => rfl
  | external path =>
      simp only [leave]
      split <;> rfl

theorem moment_enter (run : Run) (index : Nat) (command : Command) (resolution : Resolution) :
    (run.enter index command resolution).moment =
      run.moment.enter index (command, resolution) := rfl

/-- Each stage is set up at the moment that the stages before it have left. -/
theorem getElem?_setUp (stages : List (Command × Resolution)) (index : Nat) (run : Run)
    (rooms : List Nat) (i : Nat) :
    (ex.setUp held index run rooms stages).2[i]? = stages[i]?.map fun stage =>
      ex.stageAt held
        ((ex.setUpFront held index run rooms (stages.take i)).1.moment.enter (index + i) stage)
        stage (sinks (i + 1 == stages.length) (rooms.getD i 0) stage.1 held) := by
  induction stages generalizing index run rooms i with
  | nil => rfl
  | cons first rest ih =>
      obtain ⟨command, resolution⟩ := first
      cases i with
      | zero =>
          have hlast : rest.isEmpty = (0 + 1 == (List.cons (command, resolution) rest).length) := by
            cases rest <;> rfl
          have hroom : rooms.headD 0 = rooms.getD 0 0 := by
            cases rooms <;> rfl
          rw [← hlast, ← hroom]
          exact congrArg some (snd_setUpStage (run.enter index command resolution) _ _ _ _)
      | succ i =>
          cases rest with
          | nil => rfl
          | cons next rest =>
              have hlast : (i + 1 + 1 == ((command, resolution) :: next :: rest).length) =
                  (i + 1 == (next :: rest).length) := by
                simp
              have hroom : rooms.getD (i + 1) 0 = rooms.tail.getD i 0 := by
                cases rooms <;> rfl
              have hindex : index + (i + 1) = index + 1 + i := by
                rw [← Nat.add_assoc, Nat.add_right_comm]
              -- the first stage is not the last one, so that it writes to a pipe
              rw [List.take_succ_cons, hlast, hroom, hindex]
              exact ih _ _ _ _

/-- Only a program starts, where the stage stands. -/
theorem started_of_stageAt {m : Moment} {command : Command} {resolution : Resolution}
    {out : Sink × Sink} {program : Started} {stdout stderr : Sink}
    (hstarted : ex.stageAt held m (command, resolution) out = .started program stdout stderr) :
    (stdout, stderr) = out ∧ ∃ path, resolution = .external path ∧
      ex.launch m.files (launchAt m held command path stdout stderr) = .ok program := by
  cases resolution with
  | builtin b => cases hstarted
  | notFound => cases hstarted
  | external path =>
      simp only [stageAt] at hstarted
      split at hstarted
      · rename_i launched hlaunch
        obtain ⟨rfl, rfl, rfl⟩ := Stage.started.inj hstarted
        exact ⟨rfl, path, rfl, hlaunch⟩
      · cases hstarted

theorem length_setUpFront (stages : List (Command × Resolution)) (index : Nat) (run : Run)
    (rooms : List Nat) : (ex.setUpFront held index run rooms stages).2.length = stages.length := by
  induction stages generalizing index run rooms with
  | nil => rfl
  | cons first rest ih => simp only [setUpFront, List.length_cons, ih]

theorem quiet_setUpFront (stages : List (Command × Resolution)) (index : Nat) {run : Run}
    (hquiet : run.Quiet) (rooms : List Nat) :
    (ex.setUpFront held index run rooms stages).1.Quiet := by
  induction stages generalizing index run rooms with
  | nil => exact hquiet
  | cons stage rest ih =>
      exact ih _ (quiet_setUpStage ex held (quiet_enter hquiet _ _ _) _ _ _ _) _

/-- One more stage that others follow. -/
theorem setUpFront_concat (front : List (Command × Resolution)) (command : Command)
    (resolution : Resolution) (index : Nat) (run : Run) (rooms : List Nat) :
    (ex.setUpFront held index run rooms (front ++ [(command, resolution)])).1 =
      (ex.setUpStage held ((ex.setUpFront held index run rooms front).1.enter
        (index + front.length) command resolution) command resolution
        (.pipe (rooms.getD front.length 0)) .terminal).1 := by
  induction front generalizing index run rooms with
  | nil =>
      have hroom : rooms.getD 0 0 = rooms.headD 0 := by
        cases rooms <;> rfl
      simp only [List.nil_append, setUpFront, List.length_nil, hroom]
      rfl
  | cons first front ih =>
      have hroom : rooms.getD (front.length + 1) 0 = rooms.tail.getD front.length 0 := by
        cases rooms <;> rfl
      simp only [List.cons_append, setUpFront, ih, List.length_cons, hroom,
        Nat.add_right_comm index 1, Nat.add_assoc]

/-- The last stage is set up when those before it are. -/
theorem setUp_concat (front : List (Command × Resolution)) (command : Command)
    (resolution : Resolution) (index : Nat) (run : Run) (rooms : List Nat) :
    let before := ex.setUpFront held index run rooms front
    let last := ex.setUpStage held (before.1.enter (index + front.length) command resolution)
      command resolution (sinks true 0 command held).1 (sinks true 0 command held).2
    ex.setUp held index run rooms (front ++ [(command, resolution)]) =
      (last.1, before.2 ++ [last.2]) := by
  induction front generalizing index run rooms with
  | nil => rfl
  | cons first front ih =>
      have hpipe : ∀ room, sinks (front ++ [(command, resolution)]).isEmpty room first.1 held =
          (.pipe room, .terminal) := by
        intro room
        simp [sinks]
      simp only [List.cons_append, setUp, hpipe, ih, setUpFront, List.length_cons,
        Nat.add_right_comm index 1, Nat.add_assoc]

end SetUp

/-! ## Who changes the state -/

section State

theorem state_emit (run : Run) (sink : Sink) (event : Bytes → Event) (text : Bytes) :
    (run.emit sink event text).world.state = run.world.state := by
  cases sink with
  | terminal | pipe room => rfl
  | file handle =>
      simp only [Run.emit]
      split <;> rfl

theorem state_deliver (run : Run) (sink : Sink) (event : Bytes → Event) (text : Stream)
    (flow : Flow) : (run.deliver sink event text flow).world.state = run.world.state := by
  cases sink with
  | terminal | pipe room => rfl
  | file handle =>
      simp only [Run.deliver]
      split <;> rfl

/-- Wherever a stage writes, only a builtin changes the state. -/
theorem state_setUpStage (ex : Executor) (held : Option FileSystem.Handle) (run : Run)
    (command : Command) (resolution : Resolution) (stdout stderr : Sink) :
    (ex.setUpStage held run command resolution stdout stderr).1.world.state =
      Builtin.afterCalls run.world.state
        (ex.call? run.moment (command, resolution)).toList := by
  cases resolution with
  | builtin b =>
      simp only [setUpStage, doBuiltin]
      split
      · exact state_emit _ _ _ _
      · exact (state_emit _ _ _ _).trans (state_emit _ _ _ _)
  | notFound => exact state_emit _ _ _ _
  | external program =>
      simp only [setUpStage, start]
      split
      · simp only [doFailed]
        split
        · exact state_emit _ _ _ _
        · exact (state_emit _ _ _ _).trans (state_emit _ _ _ _)
      · rfl

theorem state_runStage (run : Run) (stage : Stage) :
    (runStage run stage).world.state = run.world.state := by
  cases stage with
  | done output => rfl
  | started program stdout stderr => exact (state_deliver _ _ _ _ _).trans (state_deliver _ _ _ _ _)

/-- Programs do not change the state. -/
theorem state_foldl_runStage (ready : List Stage) (run : Run) :
    (ready.foldl runStage run).world.state = run.world.state := by
  induction ready generalizing run with
  | nil => rfl
  | cons stage ready ih => exact (ih _).trans (state_runStage run stage)

end State

/-! ## A pipeline whose redirection opens -/

theorem settle_eq (ex : Executor) (held : Option FileSystem.Handle) (start : Run)
    (stages : List (Command × Resolution)) (tries : Nat) (rooms : List Nat) :
    ex.settle held start stages tries rooms =
      ex.runStages held start (ex.settledRooms held start stages tries rooms) stages := by
  induction tries generalizing rooms with
  | zero => rfl
  | succ tries ih =>
      simp only [settle, settledRooms]
      cases Flow.corrected? rooms (ex.runStages held start rooms stages).flows.reverse with
      | none => rfl
      | some corrected => exact ih corrected

section Course

variable {ex : Executor} {w : World} {p : Pipeline} {held : Option FileSystem.Handle}
  {files : FileSystem} {rooms : List Nat}

/-- A redirection opens its target, which is seen from the directory before the line. -/
theorem openRedirect_eq_ok_iff {command : Command} {redirect : Redirect} {target : String}
    (hredirect : command.redirect = some redirect) (htarget : command.target = some target) :
    ex.openRedirect w command = .ok (held, files) ↔ ∃ handle, held = some handle ∧
      w.files.openForWriting ex.here (w.state.cwd.join (utf8 target)) redirect.isAppend =
        .ok (handle, files) := by
  cases hfile : w.files.openForWriting ex.here (w.state.cwd.join (utf8 target))
      redirect.isAppend with
  | error e => simp [openRedirect, hredirect, htarget, hfile]
  | ok opened =>
      obtain ⟨handle, opened⟩ := opened
      simp [openRedirect, hredirect, htarget, hfile, eq_comm]

theorem stagesOf_eq : ex.stagesOf w p =
    ex.resolved w p.front ++ [(p.last, ex.resolve w p.last.name)] := by
  rw [stagesOf, ← List.dropLast_append_getLast p.commands_ne_nil, List.map_append]
  rfl

theorem resolve_of_stagesOf {i : Nat} {command : Command} {resolution : Resolution}
    (hstage : (ex.stagesOf w p)[i]? = some (command, resolution)) :
    p.commands[i]? = some command ∧ ex.resolve w command.name = resolution := by
  rw [stagesOf, List.getElem?_map] at hstage
  obtain ⟨found, hcommand, hfound⟩ := Option.map_eq_some_iff.1 hstage
  obtain ⟨rfl, rfl⟩ := Prod.mk.inj hfound
  exact ⟨hcommand, rfl⟩

theorem length_stagesOf : (ex.stagesOf w p).length = p.commands.length := List.length_map _

variable (ex w) in
theorem exists_stage {i : Nat} (hi : i < p.commands.length) :
    ∃ stage, (ex.stagesOf w p)[i]? = some stage := by
  rw [← length_stagesOf] at hi
  exact ⟨_, List.getElem?_eq_getElem hi⟩

theorem length_front : p.front.length + 1 = p.commands.length := by
  rw [Pipeline.front, List.length_dropLast]
  exact Nat.sub_add_cancel (List.length_pos_iff.2 p.commands_ne_nil)

theorem length_resolved_front : (ex.resolved w p.front).length = p.front.length :=
  List.length_map _

theorem take_stagesOf : (ex.stagesOf w p).take p.front.length = ex.resolved w p.front := by
  have hlength : (ex.resolved w p.front).length = p.front.length := length_resolved_front
  rw [stagesOf_eq, ← hlength, List.take_left]

theorem getElem?_stagesOf_last :
    (ex.stagesOf w p)[p.front.length]? = some (p.last, ex.resolve w p.last.name) := by
  have hlength : (ex.resolved w p.front).length = p.front.length := length_resolved_front
  rw [stagesOf_eq, ← hlength, List.getElem?_concat_length]

theorem preparedUpTo_front : ex.preparedUpTo w p held files rooms p.front.length =
    ex.preparedFront w p held files rooms := by
  rw [preparedUpTo, take_stagesOf, preparedFront]

/-- A stage finds what is there when the log has been told of it. -/
theorem found_of_stage {i : Nat} {stage : Command × Resolution}
    (hstage : (ex.stagesOf w p)[i]? = some stage) :
    ex.found w p held files rooms i =
      ((ex.preparedUpTo w p held files rooms i).1.enter i stage.1 stage.2).moment := by
  simp only [found, hstage]
  rfl

theorem preparedUpTo_succ {i : Nat} {command : Command} {resolution : Resolution}
    (hstage : (ex.stagesOf w p)[i]? = some (command, resolution)) :
    (ex.preparedUpTo w p held files rooms (i + 1)).1 =
      (ex.setUpStage held ((ex.preparedUpTo w p held files rooms i).1.enter i command resolution)
        command resolution (.pipe (rooms.getD i 0)) .terminal).1 := by
  have hlength : ((ex.stagesOf w p).take i).length = i :=
    List.length_take_of_le (Nat.le_of_lt (List.getElem?_eq_some_iff.1 hstage).1)
  have htake : (ex.stagesOf w p).take (i + 1) =
      (ex.stagesOf w p).take i ++ [(command, resolution)] := by
    rw [List.take_add_one, hstage]
    rfl
  rw [preparedUpTo, htake, setUpFront_concat, hlength, Nat.zero_add]
  rfl

/-- What a stage leaves that others follow. -/
theorem moment_preparedUpTo_succ {i : Nat} {stage : Command × Resolution}
    (hstage : (ex.stagesOf w p)[i]? = some stage) :
    (ex.preparedUpTo w p held files rooms (i + 1)).1.moment =
      ex.leave held (rooms.getD i 0) (ex.found w p held files rooms i) stage := by
  rw [preparedUpTo_succ hstage, moment_setUpStage, ← found_of_stage hstage]

variable (ex w p held files rooms) in
theorem location?_preparedUpTo (i : Nat) (hi : i ≤ p.commands.length) :
    (ex.preparedUpTo w p held files rooms i).1.moment.journal.location? = w.journal.location? := by
  induction i with
  | zero => rfl
  | succ i ih =>
      obtain ⟨stage, hstage⟩ := exists_stage ex w hi
      rw [moment_preparedUpTo_succ hstage, location?_leave, found_of_stage hstage]
      exact ih (Nat.le_of_succ_le hi)

theorem ranUpTo_succ {i : Nat} {stage : Stage}
    (hready : (ex.prepared w p held files rooms).2[i]? = some stage) :
    ex.ranUpTo w p held files rooms (i + 1) =
      runStage (ex.ranUpTo w p held files rooms i) stage := by
  rw [ranUpTo, List.take_add_one, hready, List.foldl_append]
  rfl

variable (ex w p held files rooms) in
/-- Each stage is set up on what it finds. -/
theorem getElem?_prepared (i : Nat) : (ex.prepared w p held files rooms).2[i]? =
    (ex.stagesOf w p)[i]?.map fun stage =>
      ex.stageAt held (ex.found w p held files rooms i) stage
        (sinks (i + 1 == p.commands.length) (rooms.getD i 0) stage.1 held) := by
  rw [prepared, getElem?_setUp, length_stagesOf, Nat.zero_add]
  cases hstage : (ex.stagesOf w p)[i]? with
  | none => rfl
  | some stage =>
      rw [Option.map_some, Option.map_some, found_of_stage hstage, moment_enter, preparedUpTo]

theorem quiet_opened (hquiet : w.files.shown = [])
    (hopen : ex.openRedirect (ex.announced w p) p.last = .ok (held, files)) :
    (ex.opened w p files).Quiet :=
  (shown_openRedirect hopen).trans ((shown_stored _ _).trans hquiet)

theorem length_preparedFront :
    (ex.preparedFront w p held files rooms).2.length = p.front.length := by
  rw [preparedFront, length_setUpFront, length_resolved_front]

section Last

variable (ex w p held files rooms)

/-- The turn of the last stage has come. -/
def lastTurn : Run :=
  (ex.preparedFront w p held files rooms).1.enter p.front.length p.last (ex.resolve w p.last.name)

/-- The last stage, set up after the others. -/
def preparedLast : Run × Stage :=
  let out := sinks true 0 p.last held
  ex.setUpStage held (ex.lastTurn w p held files rooms) p.last (ex.resolve w p.last.name) out.1
    out.2

theorem moment_lastTurn : (ex.lastTurn w p held files rooms).moment =
    ex.found w p held files rooms p.front.length := by
  rw [found_of_stage getElem?_stagesOf_last, preparedUpTo_front]
  rfl

end Last

theorem prepared_eq : ex.prepared w p held files rooms =
    ((ex.preparedLast w p held files rooms).1,
      (ex.preparedFront w p held files rooms).2 ++ [(ex.preparedLast w p held files rooms).2]) := by
  rw [prepared, stagesOf_eq, setUp_concat, Nat.zero_add, length_resolved_front]
  rfl

variable (ex w p held files rooms) in
theorem length_prepared : (ex.prepared w p held files rooms).2.length = p.commands.length := by
  rw [prepared_eq, List.length_append, length_preparedFront]
  exact length_front

theorem getElem?_prepared_last :
    (ex.prepared w p held files rooms).2[p.front.length]? =
      some (ex.preparedLast w p held files rooms).2 := by
  rw [prepared_eq, ← length_preparedFront, List.getElem?_concat_length]

variable (ex w p held files rooms) in
theorem runStages_eq_ranUpTo :
    ex.runStages held (ex.opened w p files) rooms (ex.stagesOf w p) =
      ex.ranUpTo w p held files rooms p.commands.length := by
  rw [ranUpTo, ← length_prepared ex w p held files rooms, List.take_length]
  rfl

/-- Running a pipeline is running the stages that are set up, one after another. -/
theorem execute_eq_ranUpTo
    (hopen : ex.openRedirect (ex.announced w p) p.last = .ok (held, files)) :
    ex.execute w p =
      let done := ex.ranUpTo w p held files (ex.rooms w p held files) p.commands.length
      ⟨done.world, done.events, .ok ()⟩ := by
  have hsettle := ex.settle_eq held (ex.opened w p files) (ex.stagesOf w p) Flow.maxTries
    (firstRooms (ex.stagesOf w p))
  simp only [execute, hopen]
  rw [← runStages_eq_ranUpTo]
  exact congrArg (fun run : Run => (⟨run.world, run.events, .ok ()⟩ : Outcome)) hsettle

/-! ### The state from stage to stage -/

theorem callsUpTo_succ {i : Nat} {stage : Command × Resolution}
    (hstage : (ex.stagesOf w p)[i]? = some stage) :
    ex.callsUpTo w p held files rooms (i + 1) = ex.callsUpTo w p held files rooms i ++
      (ex.call? (ex.found w p held files rooms i) stage).toList := by
  rw [callsUpTo, List.range_succ, List.filterMap_append]
  congr 1
  cases hcall : ex.call? (ex.found w p held files rooms i) stage <;> simp [hstage, hcall]

variable (ex w p held files rooms) in
/-- When some stages are set up, the state is what the builtins among them have left. -/
theorem state_preparedUpTo (i : Nat) (hi : i ≤ p.commands.length) :
    (ex.preparedUpTo w p held files rooms i).1.world.state =
      Builtin.afterCalls w.state (ex.callsUpTo w p held files rooms i) := by
  induction i with
  | zero => rfl
  | succ i ih =>
      obtain ⟨⟨command, resolution⟩, hstage⟩ := exists_stage ex w hi
      rw [preparedUpTo_succ hstage, state_setUpStage, ← found_of_stage hstage,
        callsUpTo_succ hstage, Builtin.afterCalls, Builtin.afterCalls, List.foldl_append]
      congr 1
      exact ih (Nat.le_of_succ_le hi)

theorem state_found {i : Nat} {stage : Command × Resolution}
    (hstage : (ex.stagesOf w p)[i]? = some stage) :
    (ex.found w p held files rooms i).state =
      Builtin.afterCalls w.state (ex.callsUpTo w p held files rooms i) := by
  have hlt : i < (ex.stagesOf w p).length := (List.getElem?_eq_some_iff.1 hstage).1
  rw [length_stagesOf] at hlt
  rw [found_of_stage hstage]
  exact ex.state_preparedUpTo w p held files rooms i (Nat.le_of_lt hlt)

variable (ex w p held files rooms) in
/-- When all stages are set up, the state is what the builtins have left, and the programs
that run change nothing of it. -/
theorem state_ranUpTo (count : Nat) : (ex.ranUpTo w p held files rooms count).world.state =
    Builtin.afterCalls w.state (ex.calls w p held files rooms) := by
  have hlast : (ex.stagesOf w p)[p.front.length]? = some (p.last, ex.resolve w p.last.name) :=
    getElem?_stagesOf_last
  have hfront : p.front.length ≤ p.commands.length := by
    rw [← length_front]
    exact Nat.le_succ _
  rw [calls, ← length_front, callsUpTo_succ hlast, ← moment_lastTurn]
  calc
    (ex.ranUpTo w p held files rooms count).world.state
        = (ex.preparedLast w p held files rooms).1.world.state := by
      rw [ranUpTo, state_foldl_runStage, prepared_eq]
    _ = Builtin.afterCalls (ex.preparedFront w p held files rooms).1.world.state
        (ex.call? (ex.lastTurn w p held files rooms).moment
          (p.last, ex.resolve w p.last.name)).toList :=
      state_setUpStage _ _ _ _ _ _ _
    _ = _ := by
      rw [← preparedUpTo_front, ex.state_preparedUpTo w p held files rooms _ hfront,
        Builtin.afterCalls, Builtin.afterCalls, Builtin.afterCalls, List.foldl_append]

/-- The state after a pipeline whose redirection opens. -/
theorem state_execute (hopen : ex.openRedirect (ex.announced w p) p.last = .ok (held, files)) :
    (ex.execute w p).world.state =
      Builtin.afterCalls w.state (ex.calls w p held files (ex.rooms w p held files)) := by
  rw [execute_eq_ranUpTo hopen]
  exact ex.state_ranUpTo w p held files _ _

theorem map_callsUpTo (count : Nat) (hcount : count ≤ p.commands.length) :
    (ex.callsUpTo w p held files rooms count).map (fun call => (call.builtin, call.args)) =
      builtinCalls ((ex.stagesOf w p).take count) := by
  induction count with
  | zero => rfl
  | succ i ih =>
      obtain ⟨⟨command, resolution⟩, hstage⟩ := exists_stage ex w hcount
      rw [callsUpTo_succ hstage, List.map_append, ih (Nat.le_of_succ_le hcount), List.take_add_one,
        hstage, builtinCalls, builtinCalls, List.filterMap_append]
      congr 1
      cases resolution <;> rfl

end Course

end Executor

end PipelineShell
