import PipelineShell.Launching
import PipelineShell.Proofs.LineEffects
import PipelineShell.Proofs.StoredFile

/-!
# Which file a stage executes

A name is resolved before the stages are set up, and the path that is found is
followed from the directory of the process.  The program is started later, and then
its path is followed from the working directory of the shell.  Nothing that is done
in between takes a path to another file, so that an absolute path leads to the same
file both times.  A relative path does so only if both directories are the same one,
and such a path is found through a relative directory of the search path.
-/

namespace PipelineShell

/-- A regular file that somebody may execute. -/
def Node.IsExecutable (node : Node) : Prop :=
  (∃ content mode, node = .file content mode ∧ mode &&& 0o111 ≠ 0) ∨ ∃ name, node = .program name

/-! ## Paths that do not depend on a directory -/

namespace Path

theorem isAbsolute_join {base : Path} (hbase : base.isAbsolute = true) (rel : Path) :
    (base.join rel).isAbsolute = true := by
  rw [join]
  split
  · assumption
  · cases base with
    | nil => nomatch hbase
    | cons b bytes =>
        split
        · exact hbase
        · exact hbase

theorem isAbsolute_locationPath (loc : Location) : (Location.path loc).isAbsolute = true := by
  rw [Location.path]
  split
  · rfl
  · rename_i hloc
    obtain ⟨name, names, hcons⟩ := List.exists_cons_of_ne_nil (List.reverse_ne_nil_iff.2 hloc)
    rw [hcons]
    rfl

end Path

namespace FileSystem

variable {fs : FileSystem} {here : Place} {p : Path}

theorem locate_of_isAbsolute (hp : p.isAbsolute = true) (here there : Place) :
    fs.locate here p = fs.locate there p := by
  simp only [locate, Place.start, if_pos hp]

theorem isAbsolute_of_canonical {answer : Path} (hcanonical : fs.canonical here p = .ok answer) :
    answer.isAbsolute = true := by
  simp only [canonical] at hcanonical
  repeat' split at hcanonical
  all_goals cases hcanonical
  exact Path.isAbsolute_locationPath _

theorem isExecutable_iff :
    fs.isExecutable here p = true ↔ ∃ node, fs.find here p = .ok node ∧ node.IsExecutable := by
  rw [isExecutable]
  constructor
  · intro hexecutable
    split at hexecutable
    · rename_i content mode hfind
      exact ⟨_, hfind, .inl ⟨content, mode, rfl, by simpa using hexecutable⟩⟩
    · rename_i name hfind
      exact ⟨_, hfind, .inr ⟨name, rfl⟩⟩
    · cases hexecutable
  · rintro ⟨node, hfind, ⟨content, mode, rfl, hmode⟩ | ⟨name, rfl⟩⟩
    · rw [hfind]
      simpa using hmode
    · rw [hfind]

theorem locate_of_isExecutable (hexecutable : fs.isExecutable here p = true) :
    ∃ loc node, fs.locate here p = .ok ⟨loc, false⟩ ∧ fs.get? loc = some node ∧
      node.IsExecutable := by
  obtain ⟨node, hfind, hnode⟩ := isExecutable_iff.1 hexecutable
  obtain ⟨⟨loc, detached⟩, hlocate, hget⟩ := find_eq_ok_iff.1 hfind
  cases detached with
  | true =>
      obtain rfl : node = .directory := hget
      rcases hnode with ⟨content, mode, hsame, -⟩ | ⟨name, hsame⟩ <;> nomatch hsame
  | false => exact ⟨loc, node, hlocate, hget, hnode⟩

end FileSystem

/-! ## The file that a launch executes -/

/-- What the system makes of a file that it executes in a directory. -/
abbrev Execution :=
  FileSystem → (entered : Place) → (file : Location) → Launch → Started → Prop

/-- A program that has started: its directory was entered, its path leads from there to
a file, and what runs is what the system makes of that file. -/
structure Execution.Starts (execution : Execution) (here : Place) (files : FileSystem)
    (launch : Launch) (entered : Place) (loc : Location) (started : Started) : Prop where
  enters : files.locateDirectory here launch.directory = .ok entered
  leads : files.locate entered launch.program = .ok ⟨loc, false⟩
  runs : execution files entered loc launch started

/-- A launcher for which the directory of a program is entered before its path is followed. -/
def Launcher.EntersFirst (launcher : Launcher) (here : Place) (execution : Execution) : Prop :=
  ∀ files launch started, launcher files launch = .ok started →
    ∃ entered loc, execution.Starts here files launch entered loc started

theorem Program.locate_of_executable {fs : FileSystem} {here : Place} {written : List Location}
    {path : Path} {node : Node} (hexecutable : executable fs here written path = .ok node) :
    ∃ loc, fs.locate here path = .ok ⟨loc, false⟩ ∧ fs.get? loc = some node ∧
      node.IsExecutable := by
  rw [executable] at hexecutable
  split at hexecutable
  · nomatch hexecutable
  split at hexecutable
  · nomatch hexecutable
  rename_i place hlocate
  obtain ⟨loc, detached⟩ := place
  cases detached with
  | true => nomatch hexecutable
  | false =>
      refine ⟨loc, hlocate, ?_⟩
      simp only [Bool.false_eq_true, if_false] at hexecutable
      split at hexecutable
      · rename_i content mode hget
        split at hexecutable
        · nomatch hexecutable
        rename_i hmode
        split at hexecutable
        · nomatch hexecutable
        obtain rfl := Except.ok.inj hexecutable
        exact ⟨hget, .inl ⟨content, mode, rfl, hmode⟩⟩
      · rename_i name hget
        obtain rfl := Except.ok.inj hexecutable
        exact ⟨hget, .inr ⟨name, rfl⟩⟩
      · nomatch hexecutable

namespace Launch

/-- What the programs of the system make of a file: it is executable, and what runs is what
it starts. -/
def execution (env : Environment) : Execution := fun files entered loc launch started =>
  ∃ node image, files.get? loc = some node ∧ node.IsExecutable ∧
    Program.follow files entered launch.heldLocations Program.maxDepth node launch.program
      (utf8 launch.name) (launch.args.map utf8) = .ok image ∧
    started = fun setting => finish setting
      ((Script.Run.runImage (Script.Run.evaluate Script.Run.maxDepth) image).run.run
        (launch.process env entered setting)).2

end Launch

/-- The programs of the system are started so. -/
theorem entersFirst_launcherFor (env : Environment) (here : Place) :
    (launcherFor env here).EntersFirst here (Launch.execution env) := by
  intro files launch started hstart
  rw [launcherFor, Launch.start] at hstart
  split at hstart
  · nomatch hstart
  split at hstart
  · nomatch hstart
  rename_i entered henter
  simp only at hstart
  split at hstart
  · nomatch hstart
  rename_i image himage
  rw [Program.image] at himage
  split at himage
  · nomatch himage
  split at himage
  · nomatch himage
  rename_i node hexecutable
  split at himage
  · obtain ⟨loc, hlocate, hget, hnode⟩ := Program.locate_of_executable hexecutable
    exact ⟨entered, loc, henter, hlocate, node, image, hget, hnode, himage,
      (Except.ok.inj hstart).symm⟩
  · nomatch himage

/-! ## What is done in between -/

theorem Moment.keeps_record (m : Moment) (records : List LogRecord) :
    m.files.Keeps (m.record records).files := (Journal.sameBut_stored _ _).keeps

namespace Builtin

theorem keeps_withFile (flag : HistoryFlag) (p : Path) (state : ShellState)
    (around : Surroundings) : around.files.Keeps (withFile flag p state around).2.1 := by
  cases flag with
  | read => exact around.files.keeps_refl
  | write => exact History.keeps_store _ _ _ _ _
  | append =>
      rcases state.history.appendTo_cases around.files around.here p with
        ⟨written, hstore, happend⟩ | ⟨e, happend⟩
      · simp only [withFile, happend]
        exact (History.gains_of_store hstore).1
      · simp only [withFile, happend]
        exact around.files.keeps_refl

theorem keeps_runHistory (args : List String) (state : ShellState) (around : Surroundings) :
    around.files.Keeps (runHistory args state around).files := by
  have hsame := around.files.keeps_refl
  rw [runHistory.eq_def]
  split
  · exact hsame
  split
  · exact hsame
  · rename_i flag file _ _
    have hkeeps := keeps_withFile flag (state.cwd.join (utf8 file)) state around
    split <;> rename_i hfile <;> rw [hfile] at hkeeps <;> exact hkeeps
  · split <;> exact hsame

theorem files_runCd (args : List String) (state : ShellState) (around : Surroundings) :
    (runCd args state around).files = around.files := by
  rw [runCd]
  split
  · split <;> rfl
  · rfl

theorem keeps_perform (b : Builtin) (args : List String) (state : ShellState)
    (around : Surroundings) : around.files.Keeps (b.perform args state around).files := by
  cases b with
  | exit | echo | type => exact around.files.keeps_refl
  | pwd =>
      simp only [perform, runPwd]
      split <;> exact around.files.keeps_refl
  | cd =>
      change around.files.Keeps (runCd args state around).files
      rw [files_runCd]
      exact around.files.keeps_refl
  | history => exact keeps_runHistory args state around

theorem cwd_withFile (flag : HistoryFlag) (p : Path) (state : ShellState) (around : Surroundings) :
    (withFile flag p state around).1.cwd = state.cwd := by
  cases flag <;> rfl

/-- A directory that is changed to is an absolute path. -/
theorem isAbsolute_cwd_runCd (args : List String) {state : ShellState} (around : Surroundings)
    (hcwd : state.cwd.isAbsolute = true) :
    (runCd args state around).state.cwd.isAbsolute = true := by
  rw [runCd]
  split
  · rename_i hcanonical
    split
    · exact FileSystem.isAbsolute_of_canonical hcanonical
    · exact hcwd
  · exact hcwd

theorem isAbsolute_cwd_run (b : Builtin) (args : List String) {state : ShellState}
    (around : Surroundings) (hcwd : state.cwd.isAbsolute = true) :
    (b.run args state around).state.cwd.isAbsolute = true := by
  cases b with
  | exit | echo | type => exact hcwd
  | pwd =>
      change (runPwd state around).state.cwd.isAbsolute = true
      rwa [state_runPwd]
  | cd => exact isAbsolute_cwd_runCd args around hcwd
  | history =>
      change (runHistory args state around).state.cwd.isAbsolute = true
      rw [state_runHistory]
      split
      · split
        · rwa [cwd_withFile]
        · exact hcwd
      · exact hcwd

theorem isAbsolute_cwd_afterCalls {state : ShellState} (hcwd : state.cwd.isAbsolute = true)
    (calls : List Call) : (afterCalls state calls).cwd.isAbsolute = true := by
  induction calls generalizing state with
  | nil => exact hcwd
  | cons call calls ih =>
      apply ih
      exact isAbsolute_cwd_run call.builtin call.args call.around hcwd

end Builtin

theorem SearchPath.exists_of_lookup {search : SearchPath} {fs : FileSystem} {here : Place}
    {name : String} {program : Path} (hlookup : search.lookup fs here name = some program) :
    fs.isExecutable here program = true ∧
      ∃ dir ∈ search.directories, program = dir.join (utf8 name) := by
  obtain ⟨dir, hdir, hfind⟩ := List.exists_of_findSome?_eq_some hlookup
  rw [findListed] at hfind
  split at hfind
  · cases hfind
  · obtain ⟨-, hexecutable, rfl⟩ := findAmong_eq_some_iff.1 hfind
    exact ⟨hexecutable, dir, hdir, rfl⟩

namespace Executor

/-- What is resolved to a program is executable, and its path is that of the name or
begins with a directory of the search path. -/
theorem resolve_eq_external {ex : Executor} {w : World} {name : String} {program : Path}
    (hresolve : ex.resolve w name = .external program) :
    w.files.isExecutable ex.here program = true ∧
      (program = w.state.cwd.join (utf8 name) ∨
        '/' ∉ name.toList ∧ ∃ dir ∈ ex.search.directories, program = dir.join (utf8 name)) := by
  rw [resolve] at hresolve
  split at hresolve
  · cases hresolve
  split at hresolve
  · simp only at hresolve
    split at hresolve
    · rename_i hexecutable
      obtain rfl := Resolution.external.inj hresolve
      exact ⟨hexecutable, .inl rfl⟩
    · cases hresolve
  · rename_i hslash
    split at hresolve
    · rename_i found hlookup
      obtain rfl := Resolution.external.inj hresolve
      obtain ⟨hexecutable, hdir⟩ := SearchPath.exists_of_lookup hlookup
      exact ⟨hexecutable, .inr ⟨by simpa using hslash, hdir⟩⟩
    · cases hresolve

section Between

variable (ex : Executor)

theorem keeps_leave (held : Option FileSystem.Handle) (room : Nat) (m : Moment)
    (stage : Command × Resolution) : m.files.Keeps (ex.leave held room m stage).files := by
  obtain ⟨command, resolution⟩ := stage
  cases resolution with
  | builtin b =>
      have hperform := b.keeps_perform command.args m.state ⟨m.files, ex.here, ex.search⟩
      have hlogged := Moment.keeps_record
        { m with
          state := (b.perform command.args m.state ⟨m.files, ex.here, ex.search⟩).state
          files := (b.perform command.args m.state ⟨m.files, ex.here, ex.search⟩).files }
        (b.perform command.args m.state ⟨m.files, ex.here, ex.search⟩).records
      exact hperform.trans hlogged
  | notFound => exact m.files.keeps_refl
  | external path =>
      simp only [leave]
      split
      · exact m.files.keeps_refl
      · exact m.keeps_record _

variable {ex}

theorem keeps_openRedirect {w : World} {command : Command} {held : Option FileSystem.Handle}
    {files : FileSystem} (hopen : ex.openRedirect w command = .ok (held, files)) :
    w.files.Keeps files := by
  rw [openRedirect] at hopen
  split at hopen
  · obtain ⟨-, rfl⟩ := Prod.mk.inj (Except.ok.inj hopen)
    exact w.files.keeps_refl
  · cases hopen
  · split at hopen
    · rename_i hwriting
      obtain ⟨-, rfl⟩ := Prod.mk.inj (Except.ok.inj hopen)
      exact History.keeps_openForWriting hwriting
    · cases hopen

/-- What there was before a pipeline is there still when its redirection is open. -/
theorem keeps_opened {w : World} {p : Pipeline} {held : Option FileSystem.Handle}
    {files : FileSystem} (hopen : ex.openRedirect (ex.announced w p) p.last = .ok (held, files)) :
    w.files.Keeps files :=
  (ex.sameBut_announced w p).keeps.trans (keeps_openRedirect hopen)

variable (ex) in
/-- What there was when the redirection was opened is there still when it is a stage's turn. -/
theorem keeps_found (w : World) (p : Pipeline) (held : Option FileSystem.Handle)
    (files : FileSystem) (rooms : List Nat) {i : Nat} {stage : Command × Resolution}
    (hstage : (ex.stagesOf w p)[i]? = some stage) :
    files.Keeps (ex.found w p held files rooms i).files := by
  have hbefore : ∀ count, count ≤ i →
      files.Keeps (ex.preparedUpTo w p held files rooms count).1.moment.files := by
    intro count hcount
    induction count with
    | zero => exact files.keeps_refl
    | succ count ih =>
        have hi : i < p.commands.length := by
          rw [← length_stagesOf]
          exact (List.getElem?_eq_some_iff.1 hstage).1
        obtain ⟨earlier, hearlier⟩ := exists_stage ex w
          (Nat.lt_of_lt_of_le hcount (Nat.le_of_lt hi))
        have hfound : files.Keeps (ex.found w p held files rooms count).files := by
          rw [found_of_stage hearlier]
          exact (ih (Nat.le_of_lt hcount)).trans (Moment.keeps_record _ _)
        rw [moment_preparedUpTo_succ hearlier]
        exact hfound.trans (ex.keeps_leave _ _ _ _)
  rw [found_of_stage hstage]
  exact (hbefore i (Nat.le_refl i)).trans (Moment.keeps_record _ _)

theorem isAbsolute_cwd_execute {w : World} (p : Pipeline) (hcwd : w.state.cwd.isAbsolute = true) :
    (ex.execute w p).world.state.cwd.isAbsolute = true := by
  cases hopen : ex.openRedirect (ex.announced w p) p.last with
  | error e =>
      simp only [execute, hopen]
      exact hcwd
  | ok opened =>
      obtain ⟨held, files⟩ := opened
      rw [state_execute hopen]
      exact Builtin.isAbsolute_cwd_afterCalls hcwd _

variable (ex) in
/-- The world after some pipelines, one after another. -/
def after (w : World) (pipelines : List Pipeline) : World :=
  pipelines.foldl (fun w p => (ex.execute w p).world) w

/-- Whatever lines are run, the working directory stays an absolute path. -/
theorem isAbsolute_cwd_after {w : World} (pipelines : List Pipeline)
    (hcwd : w.state.cwd.isAbsolute = true) :
    (ex.after w pipelines).state.cwd.isAbsolute = true := by
  induction pipelines generalizing w with
  | nil => exact hcwd
  | cons p pipelines ih => exact ih (isAbsolute_cwd_execute p hcwd)

/-! ## The stages that start -/

/-- A stage that starts is launched when it is its turn. -/
theorem started_prepared {w : World} {p : Pipeline} {held : Option FileSystem.Handle}
    {files : FileSystem} {rooms : List Nat} {i : Nat} {program : Started} {stdout stderr : Sink}
    (hstarted : (ex.prepared w p held files rooms).2[i]? =
      some (.started program stdout stderr)) :
    ∃ command path, (ex.stagesOf w p)[i]? = some (command, .external path) ∧
      let m := ex.found w p held files rooms i
      ex.launch m.files (launchAt m held command path stdout stderr) = .ok program := by
  rw [getElem?_prepared] at hstarted
  obtain ⟨⟨command, resolution⟩, hstage, hready⟩ := Option.map_eq_some_iff.1 hstarted
  obtain ⟨-, path, rfl, hlaunch⟩ := started_of_stageAt hready
  exact ⟨command, path, hstage, hlaunch⟩

end Between

/-- What a command executes that was resolved in a world and is launched at a moment: the
file that the resolution examined, unless its path is relative and the program is
started in another directory. -/
structure Finds (ex : Executor) (w : World) (m : Moment) (command : Command) (path : Path)
    (entered : Place) (examined executed : Location) : Prop where
  accepted : w.files.isExecutable ex.here path = true
  examines : w.files.locate ex.here path = .ok ⟨examined, false⟩
  /-- the file is there still, and from the same directory the path still leads to it -/
  stays : m.files.locate ex.here path = .ok ⟨examined, false⟩
  keeps : ∃ old new, w.files.get? examined = some old ∧ old.IsExecutable ∧
    m.files.get? examined = some new ∧ (new = old ∨ old.IsFile ∧ new.IsFile)
  same : path.isAbsolute = true ∨ entered = ex.here → executed = examined
  /-- only a relative directory of the search path gives a relative path -/
  relative : path.isAbsolute = false → '/' ∉ command.name.toList ∧
    ∃ dir ∈ ex.search.directories, dir.isAbsolute = false ∧ path = dir.join (utf8 command.name)

theorem finds_of_resolve {ex : Executor} {w : World} {m : Moment} {command : Command} {path : Path}
    {entered : Place} {executed : Location} (hcwd : w.state.cwd.isAbsolute = true)
    (hresolve : ex.resolve w command.name = .external path) (hkeeps : w.files.Keeps m.files)
    (hleads : m.files.locate entered path = .ok ⟨executed, false⟩) :
    ∃ examined, ex.Finds w m command path entered examined executed := by
  obtain ⟨haccepted, hpath⟩ := resolve_eq_external hresolve
  obtain ⟨examined, old, hexamined, hold, hexecutable⟩ :=
    FileSystem.locate_of_isExecutable haccepted
  have hstays := FileSystem.locate_of_keeps hkeeps hexamined
  obtain ⟨new, hnew, hkept⟩ := hkeeps examined old hold
  refine ⟨examined, haccepted, hexamined, hstays, ⟨old, new, hold, hexecutable, hnew, hkept⟩,
    fun hsame => ?_, fun hrelative => ?_⟩
  · have hthere : m.files.locate entered path = m.files.locate ex.here path := by
      rcases hsame with habsolute | rfl
      · exact FileSystem.locate_of_isAbsolute habsolute _ _
      · rfl
    exact congrArg Place.location
      (Except.ok.inj (hleads.symm.trans (hthere.trans hstays)))
  · rcases hpath with rfl | ⟨hslash, dir, hdir, rfl⟩
    · rw [Path.isAbsolute_join hcwd] at hrelative
      nomatch hrelative
    · refine ⟨hslash, dir, hdir, ?_, rfl⟩
      by_contra hdirAbsolute
      rw [Path.isAbsolute_join (by simpa using hdirAbsolute)] at hrelative
      nomatch hrelative

/-- An executor that starts programs with an environment. -/
def starting (env : Environment) (here : Place) (search : SearchPath) : Executor :=
  ⟨here, search, launcherFor env here⟩

/-- Whatever pipelines were run before, each stage of a pipeline that starts executes the
file that its resolution examined, unless the path is relative, as a relative directory
of the search path gives it, and the program is started in another directory than that
of the process. -/
theorem started_executes {ex : Executor} {execution : Execution}
    (hlaunch : ex.launch.EntersFirst ex.here execution) {start : World}
    (hcwd : start.state.cwd.isAbsolute = true) (earlier : List Pipeline) {p : Pipeline}
    {held : Option FileSystem.Handle} {files : FileSystem}
    (hopen : ex.openRedirect (ex.announced (ex.after start earlier) p) p.last =
      .ok (held, files)) :
    let w := ex.after start earlier
    let rooms := ex.rooms w p held files
    let done := ex.ranUpTo w p held files rooms p.commands.length
    ex.execute w p = ⟨done.world, done.events, .ok ()⟩ ∧
      ∀ i program stdout stderr, (ex.prepared w p held files rooms).2[i]? =
          some (.started program stdout stderr) →
        ∃ command path entered examined executed,
          (ex.stagesOf w p)[i]? = some (command, .external path) ∧
          let m := ex.found w p held files rooms i
          execution.Starts ex.here m.files (launchAt m held command path stdout stderr) entered
            executed program ∧
          ex.Finds w m command path entered examined executed := by
  intro w rooms done
  refine ⟨execute_eq_ranUpTo hopen, fun i program stdout stderr hstarted => ?_⟩
  obtain ⟨command, path, hstage, hstarts⟩ := started_prepared hstarted
  obtain ⟨entered, executed, hexecutes⟩ := hlaunch _ _ _ hstarts
  have hkeeps : w.files.Keeps (ex.found w p held files rooms i).files :=
    (keeps_opened hopen).trans (ex.keeps_found w p held files rooms hstage)
  obtain ⟨examined, hfinds⟩ := finds_of_resolve (isAbsolute_cwd_after earlier hcwd)
    (resolve_of_stagesOf hstage).2 hkeeps hexecutes.leads
  exact ⟨command, path, entered, examined, executed, hstage, hexecutes, hfinds⟩

/-- A shell at the root, where there are two programs of one name. -/
def twoTools : World where
  state := ⟨[Path.slash], none, History.empty, false⟩
  files := FileSystem.attachInput
    { nodes := [([utf8 "tool", utf8 "bin", utf8 "sub"], .program "cat"),
        ([utf8 "bin", utf8 "sub"], .directory), ([utf8 "sub"], .directory),
        ([utf8 "tool", utf8 "bin"], .program "pwd"), ([utf8 "bin"], .directory)] }
    (utf8 "typed")
  input := utf8 "typed"

def enterSub : Pipeline := ⟨[⟨"cd", ["sub"], none, none, none⟩], by decide⟩

def runTool : Pipeline := ⟨[⟨"tool", [], none, none, none⟩], by decide⟩

theorem started_executes_sample :
    let ex := starting ⟨[]⟩ Place.root (.ofPath (utf8 "/bin"))
    let w := ex.after twoTools [enterSub]
    ex.launch.EntersFirst ex.here (Launch.execution ⟨[]⟩) ∧
      twoTools.state.cwd.isAbsolute = true ∧
      ex.openRedirect (ex.announced w runTool) runTool.last = .ok (none, w.files) ∧
      w.state.cwd = utf8 "/sub" ∧ ex.resolve w "tool" = .external (utf8 "/bin/tool") ∧
      (let rooms := ex.rooms w runTool none w.files
       ∀ i program stdout stderr, (ex.prepared w runTool none w.files rooms).2[i]? =
          some (.started program stdout stderr) →
        ∃ command path entered examined executed,
          (ex.stagesOf w runTool)[i]? = some (command, .external path) ∧
          let m := ex.found w runTool none w.files rooms i
          (Launch.execution ⟨[]⟩).Starts ex.here m.files
            (launchAt m none command path stdout stderr) entered executed program ∧
          ex.Finds w m command path entered examined executed) ∧
      seenOn .output (ex.execute w runTool).events = utf8 "/sub\n" := by
  intro ex w
  have hlaunch : ex.launch.EntersFirst ex.here (Launch.execution ⟨[]⟩) :=
    entersFirst_launcherFor _ _
  have hcwd : twoTools.state.cwd.isAbsolute = true := by decide
  have hopen : ex.openRedirect (ex.announced w runTool) runTool.last = .ok (none, w.files) := rfl
  obtain ⟨-, hstages⟩ := started_executes hlaunch hcwd [enterSub] hopen
  exact ⟨hlaunch, hcwd, hopen, by decide +kernel, by decide +kernel, hstages, by decide +kernel⟩

/-- Through a relative directory of the search path one file is examined and another one
executed. -/
theorem executes_another :
    let ex := starting ⟨[]⟩ Place.root (.ofPath (utf8 "bin"))
    let w := ex.after twoTools [enterSub]
    let examined := [utf8 "tool", utf8 "bin"]
    let executed := [utf8 "tool", utf8 "bin", utf8 "sub"]
    ex.resolve w "tool" = .external (utf8 "bin/tool") ∧
      w.files.isExecutable ex.here (utf8 "bin/tool") = true ∧
      w.files.locate ex.here (utf8 "bin/tool") = .ok ⟨examined, false⟩ ∧
      w.files.locateDirectory ex.here w.state.cwd = .ok ⟨[utf8 "sub"], false⟩ ∧
      w.files.locate ⟨[utf8 "sub"], false⟩ (utf8 "bin/tool") = .ok ⟨executed, false⟩ ∧
      w.files.get? examined = some (.program "pwd") ∧
      w.files.get? executed = some (.program "cat") ∧
      seenOn .output (ex.execute w runTool).events = utf8 "typed" := by
  decide +kernel

end Executor

end PipelineShell
