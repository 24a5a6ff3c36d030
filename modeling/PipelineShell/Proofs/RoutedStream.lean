import PipelineShell.Proofs.ExecutedFile
import PipelineShell.Proofs.OpenedFile

/-!
# Where the streams of the last stage go

The file of the redirection is opened before the first stage acts.  One stream of the last
stage is written behind what the file has kept, the other one goes to the terminal, be the
stage a builtin, a name that stands for nothing, a program that does not start or one that
runs.  Nothing else that a pipeline does comes near the file unless it follows a path to
it.
-/

namespace PipelineShell

/-! ## What the stages do -/

/-- A program that writes a text to its output and one to its errors.  What it writes to a
file it stores while it runs or hands on when it has ended; at last the file of the
redirection is as if both texts were stored. -/
structure Started.Sends (program : Started) (setting : Setting) (here : Place) (p : Path)
    (stdout stderr : Sink) (output errors : Bytes) : Prop where
  prints : stdout = .terminal → (program setting).output.first = output
  complains : stderr = .terminal → (program setting).errors = errors
  stores : FileSystem.SameAt here p (stderr.store (stdout.store setting.files output) errors)
    (stderr.store (stdout.store (program setting).files (program setting).output.first)
      (program setting).errors)

namespace Redirect

/-- Where a stage writes whose redirection has opened a file. -/
def sinks (redirect : Redirect) (handle : FileSystem.Handle) : Sink × Sink :=
  if redirect.isStderr then (.terminal, .file handle) else (.file handle, .terminal)

/-- The stream of a stage that goes to the file. -/
def stored (redirect : Redirect) (output errors : Bytes) : Bytes :=
  if redirect.isStderr then errors else output

/-- What the other stream puts on a stream of the terminal. -/
def shown (redirect : Redirect) (outlet : Outlet) (output errors : Bytes) : Bytes :=
  if redirect.isStderr then Sink.terminal.reaches .output outlet output
  else Sink.terminal.reaches .errors outlet errors

end Redirect

/-- Of the streams that a program hands on, the one that is shown is the one it sends. -/
theorem Started.Sends.shown_eq {program : Started} {setting : Setting} {here : Place} {p : Path}
    {redirect : Redirect} {handle : FileSystem.Handle} {output errors : Bytes}
    (hsends : program.Sends setting here p (redirect.sinks handle).1 (redirect.sinks handle).2
      output errors) (outlet : Outlet) :
    redirect.shown outlet (program setting).output.first (program setting).errors =
      redirect.shown outlet output errors := by
  cases hstderr : redirect.isStderr with
  | true =>
      have hprints := hsends.prints (by simp [Redirect.sinks, hstderr])
      simp only [Redirect.shown, hstderr, hprints, if_true]
  | false =>
      have hcomplains := hsends.complains (by simp [Redirect.sinks, hstderr])
      simp only [Redirect.shown, hstderr, hcomplains, Bool.false_eq_true, if_false]

namespace Executor

/-! ## Where the streams go -/

theorem sinks_of_redirect {command : Command} {redirect : Redirect}
    (hredirect : command.redirect = some redirect) (handle : FileSystem.Handle) :
    sinks true 0 command (some handle) = redirect.sinks handle := by
  simp only [sinks, hredirect, Bool.not_true, Bool.false_eq_true, if_false]
  rfl

/-- A file that is open shows nothing on the terminal. -/
theorem reaches_openedHandle (append : Bool) (loc : Location) (own outlet : Outlet)
    (text : Bytes) :
    (Sink.file (FileSystem.openedHandle append loc)).reaches own outlet text = [] := by
  cases append <;> rfl

section Routing

variable {here : Place} {path : Path} {loc : Location} {content : Bytes} {mode : Nat}
  {append : Bool}

/-- Of two texts that a stage writes one comes behind what the file has kept, and the other
one is seen. -/
theorem leadsTo_writeBoth {v : View} (hleads : v.files.LeadsTo here path loc content mode)
    (hkept : append = false → content = []) (redirect : Redirect) (output : Bytes)
    (errors : Option Bytes) :
    let out := redirect.sinks (FileSystem.openedHandle append loc)
    let written := v.writeBoth out.1 out.2 output errors
    written.files.LeadsTo here path loc (content ++ redirect.stored output (errors.getD [])) mode ∧
      ∀ outlet, written.seen outlet =
        v.seen outlet ++ redirect.shown outlet output (errors.getD []) := by
  intro out written
  cases hstderr : redirect.isStderr with
  | true =>
      have hout : out = (.terminal, .file (FileSystem.openedHandle append loc)) := by
        simp only [out, Redirect.sinks, hstderr, if_true]
      simp only [written, hout, writeBoth_view, Redirect.stored, Redirect.shown, hstderr, if_true]
      cases errors with
      | none => simpa [Sink.store] using hleads
      | some text =>
          constructor
          · exact hleads.store hkept text
          · intro outlet
            simp [reaches_openedHandle]
  | false =>
      have hout : out = (.file (FileSystem.openedHandle append loc), .terminal) := by
        simp only [out, Redirect.sinks, hstderr, Bool.false_eq_true, if_false]
      simp only [written, hout, writeBoth_view, Redirect.stored, Redirect.shown, hstderr,
        Bool.false_eq_true, if_false, reaches_openedHandle]
      constructor
      · cases errors with
        | none | some text => exact hleads.store hkept output
      · intro outlet
        cases errors with
        | none => simp [Sink.reaches]
        | some text => simp

/-- A file that is open takes every text. -/
theorem write_openedHandle (files : FileSystem) (append : Bool) (loc : Location) (text : Bytes) :
    ∃ moved written, files.write (FileSystem.openedHandle append loc) text = .ok (moved, written) ∧
      written.shown = files.shown := by
  cases append with
  | true =>
      change ∃ moved written, files.write (.atEnd loc) text = _ ∧ _
      rw [FileSystem.write]
      split <;> exact ⟨_, _, rfl, rfl⟩
  | false =>
      change ∃ moved written, files.write (.atOffset loc 0) text = _ ∧ _
      rw [FileSystem.write]
      split <;> exact ⟨_, _, rfl, rfl⟩

/-- What a program hands on to its file comes after what it has shown. -/
theorem view_deliver_file (run : Run) (append : Bool) (loc : Location) (event : Bytes → Event)
    (text : Stream) (flow : Flow) :
    let sink := Sink.file (FileSystem.openedHandle append loc)
    (run.deliver sink event text flow).Quiet ∧
      (run.deliver sink event text flow).view =
        { run.view with
          files := sink.store run.world.files text.first
          seen := fun outlet =>
            run.view.seen outlet ++ shownOn outlet run.world.files.shown.reverse } := by
  intro sink
  obtain ⟨moved, written, hwrite, hshown⟩ :=
    write_openedHandle run.world.files append loc text.first
  have hdeliver : run.deliver sink event text flow =
      (Run.surface { run with world := { run.world with files := written } }) := by
    simp only [Run.deliver, sink, hwrite]
  have hstore : sink.store run.world.files text.first = { written with shown := [] } := by
    simp only [Sink.store, sink, hwrite]
  rw [hdeliver, hstore, view_surface]
  refine ⟨rfl, ?_⟩
  simp only [Run.view, hshown]

/-- Of what a program hands on one stream goes to its file and the other one to the terminal,
and what it has shown by other ways is seen before or after. -/
theorem view_handOn (run : Run) (redirect : Redirect) (append : Bool) (loc : Location)
    (output : Stream) (errors : Bytes) (flow : Flow) :
    let out := redirect.sinks (FileSystem.openedHandle append loc)
    let done := ((run.deliver out.1 .output output flow).deliver out.2 .errors
      (.ofBytes errors) flow).surface
    done.world.files = out.2.store (out.1.store run.world.files output.first) errors ∧
      ∃ early late, early ++ late = run.world.files.shown.reverse ∧ ∀ outlet,
        seenOn outlet done.events = seenOn outlet run.events ++ (shownOn outlet early ++
          redirect.shown outlet output.first errors ++ shownOn outlet late) := by
  intro out done
  cases hstderr : redirect.isStderr with
  | true =>
      have hout : out = (.terminal, .file (FileSystem.openedHandle append loc)) := by
        simp only [out, Redirect.sinks, hstderr, if_true]
      let printed := run.deliver .terminal .output output flow
      have hdone : done = (printed.deliver (.file (FileSystem.openedHandle append loc)) .errors
          (.ofBytes errors) flow).surface := by
        simp only [done, hout, printed]
      obtain ⟨hquiet, hview⟩ := view_deliver_file printed append loc .errors (.ofBytes errors) flow
      have hsurface := (congrArg Run.view hdone).trans ((view_surface_of_quiet hquiet).trans hview)
      constructor
      · rw [hout]
        exact congrArg View.files hsurface
      · -- what was shown by other ways is seen when the file is written, after the output
        refine ⟨[], run.world.files.shown.reverse, rfl, ?_⟩
        intro outlet
        apply (congrArg (fun v : View => v.seen outlet) hsurface).trans
        simp only [Run.view, printed, Run.deliver, seenOn_append, Redirect.shown, hstderr, if_true]
        rw [← seenOn_shownEvent]
        simp [shownOn, Run.shownEvent]
  | false =>
      have hout : out = (.file (FileSystem.openedHandle append loc), .terminal) := by
        simp only [out, Redirect.sinks, hstderr, Bool.false_eq_true, if_false]
      let stored := run.deliver (.file (FileSystem.openedHandle append loc)) .output output flow
      have hdone : done =
          (stored.deliver .terminal .errors (.ofBytes errors) flow).surface := by
        simp only [done, hout, stored]
      obtain ⟨hquiet, hview⟩ := view_deliver_file run append loc .output output flow
      have hcomplained := (view_deliver hquiet .terminal .errors (.ofBytes errors) flow).trans
        (congrArg (fun v : View => v.write .terminal .errors errors) hview)
      have hsurfaced := view_surface_of_quiet
        (quiet_deliver hquiet .terminal .errors (.ofBytes errors) flow)
      have hsurface := (congrArg Run.view hdone).trans (hsurfaced.trans hcomplained)
      constructor
      · rw [hout]
        exact congrArg View.files hsurface
      · refine ⟨run.world.files.shown.reverse, [], List.append_nil _, ?_⟩
        intro outlet
        apply (congrArg (fun v : View => v.seen outlet) hsurface).trans
        simp only [View.write, Run.view, Redirect.shown, hstderr, Bool.false_eq_true, if_false]
        simp [shownOn]

/-- A program that runs leaves its files, and hands on its streams when it has ended. -/
theorem runProgram_eq (run : Run) (program : Started) (stdout stderr : Sink) :
    let finished := program run.setting
    ∃ (left : Run) (flow : Flow), left.world.files = finished.files ∧ left.events = run.events ∧
      runProgram run program stdout stderr = ((left.deliver stdout .output finished.output
        flow).deliver stderr .errors (.ofBytes finished.errors) flow).surface := by
  intro finished
  let input := if run.piped.isNone then run.world.input.drop finished.consumed
    else run.world.input
  let world : World := { run.world with files := finished.files, input }
  exact ⟨Run.take { run with world } finished.consumed, flowOf finished run, rfl, rfl, rfl⟩

end Routing

/-! ## The file while the stages act -/

/-- Whatever a pipeline does besides the redirection, a path leads to the same file. -/
structure LeavesAlone (ex : Executor) (w : World) (p : Pipeline)
    (held : Option FileSystem.Handle) (files : FileSystem) (rooms : List Nat) (path : Path) :
    Prop where
  /-- the log is written to another file -/
  log : ∀ place, files.locate ex.here path = .ok place → w.journal.location? ≠ some place.location
  builtins : ∀ i command b, (ex.stagesOf w p)[i]? = some (command, .builtin b) →
    let m := ex.found w p held files rooms i
    FileSystem.SameAt ex.here path m.files
      (b.run command.args m.state ⟨m.files, ex.here, ex.search⟩).files
  /-- the programs before the last stage -/
  programs : ∀ i program stdout stderr, i < p.front.length →
    (ex.prepared w p held files rooms).2[i]? = some (.started program stdout stderr) →
    let run := ex.ranUpTo w p held files rooms i
    FileSystem.SameAt ex.here path run.world.files (program run.setting).files

section Course

variable {ex : Executor} {w : World} {p : Pipeline} {held : Option FileSystem.Handle}
  {files : FileSystem} {rooms : List Nat} {path : Path} {loc : Location} {content : Bytes}
  {mode : Nat}

/-- The builtins before a stage leave the file alone, and so does the log. -/
theorem leadsTo_preparedUpTo (halone : ex.LeavesAlone w p held files rooms path)
    (hleads : files.LeadsTo ex.here path loc content mode) (count : Nat)
    (hcount : count ≤ p.commands.length) :
    (ex.preparedUpTo w p held files rooms count).1.moment.files.LeadsTo ex.here path loc content
      mode := by
  induction count with
  | zero => exact hleads
  | succ i ih =>
      obtain ⟨stage, hstage⟩ := exists_stage ex w hcount
      have hi := Nat.le_of_succ_le hcount
      have hbefore := (location?_preparedUpTo ex w p held files rooms i hi).trans_ne
        (halone.log _ hleads.locate)
      have hfound : (ex.found w p held files rooms i).files.LeadsTo ex.here path loc content
          mode := by
        rw [found_of_stage hstage]
        exact Moment.leadsTo_record (ih hi) hbefore _
      have hother : (ex.found w p held files rooms i).journal.location? ≠ some loc := by
        rw [found_of_stage hstage]
        exact hbefore
      rw [moment_preparedUpTo_succ hstage]
      obtain ⟨command, resolution⟩ := stage
      cases resolution with
      | builtin b =>
          exact Moment.leadsTo_finish (hfound.of_same (halone.builtins i command b hstage)) hother
      | notFound => exact hfound
      | external program =>
          simp only [leave]
          split
          · exact hfound
          · exact Moment.leadsTo_record hfound hother _

/-- The path leads to the file when the turn of the last stage comes. -/
theorem leadsTo_lastTurn (halone : ex.LeavesAlone w p held files rooms path)
    (hleads : files.LeadsTo ex.here path loc content mode) :
    (ex.lastTurn w p held files rooms).moment.files.LeadsTo ex.here path loc content mode ∧
      (ex.lastTurn w p held files rooms).moment.journal.location? ≠ some loc := by
  have hfront : p.front.length ≤ p.commands.length := by
    rw [← length_front]
    exact Nat.le_succ _
  have hlocation := location?_preparedUpTo ex w p held files rooms p.front.length hfront
  have hbefore := leadsTo_preparedUpTo halone hleads p.front.length hfront
  rw [preparedUpTo_front] at hlocation hbefore
  have hother := hlocation.trans_ne (halone.log _ hleads.locate)
  exact ⟨Moment.leadsTo_record hbefore hother _, hother⟩

/-- The programs before the last stage leave the file alone. -/
theorem leadsTo_ranUpTo (halone : ex.LeavesAlone w p held files rooms path)
    (hleads : (ex.prepared w p held files rooms).1.world.files.LeadsTo ex.here path loc content
      mode)
    (count : Nat) (hcount : count ≤ p.front.length) :
    (ex.ranUpTo w p held files rooms count).world.files.LeadsTo ex.here path loc content mode := by
  induction count with
  | zero => exact hleads
  | succ i ih =>
      have hbefore : i < p.front.length := hcount
      have hfile := ih (Nat.le_of_lt hbefore)
      have hlength : i < (ex.prepared w p held files rooms).2.length := by
        rw [length_prepared, ← length_front]
        exact Nat.lt_succ_of_lt hbefore
      have hready := List.getElem?_eq_getElem hlength
      rw [ranUpTo_succ hready]
      generalize (ex.prepared w p held files rooms).2[i] = stage at hready
      cases stage with
      | done output => exact hfile
      | started program stdout stderr =>
          have hpipe : (stdout, stderr) =
              (.pipe (rooms.getD i 0), .terminal) := by
            have hnotLast : (i + 1 == p.commands.length) = false := by
              rw [← length_front]
              simpa using Nat.ne_of_lt hbefore
            rw [getElem?_prepared, hnotLast] at hready
            obtain ⟨⟨command, resolution⟩, -, hstage⟩ := Option.map_eq_some_iff.1 hready
            exact (started_of_stageAt hstage).1
          obtain ⟨rfl, rfl⟩ := Prod.mk.inj hpipe
          exact (hfile.of_same (halone.programs i program _ _ hbefore hready)).hide

end Course

/-! ## The last stage -/

section Streams

variable (ex : Executor) (w : World) (p : Pipeline) (handle : FileSystem.Handle)
  (files : FileSystem) (rooms : List Nat) (redirect : Redirect)

/-- How a program is started as the last stage. -/
def launchLast (program : Path) : Except OsError Started :=
  let m := ex.found w p (some handle) files rooms p.front.length
  let out := redirect.sinks handle
  ex.launch m.files (launchAt m (some handle) p.last program out.1 out.2)

/-- What the last stage finds if it is a program. -/
def lastSetting : Setting := (ex.ranUpTo w p (some handle) files rooms p.front.length).setting

/-- What the last stage sends to its output and to its errors, and what it has written to
outlets by their names as files. -/
inductive LastSends (path : Path) :
    (output errors : Bytes) → (shown : List (Outlet × Bytes)) → Prop where
  | builtin {b : Builtin} {outcome : BuiltinOutcome} : ex.resolve w p.last.name = .builtin b →
      (let m := ex.found w p (some handle) files rooms p.front.length
       b.run p.last.args m.state ⟨m.files, ex.here, ex.search⟩ = outcome) →
      LastSends path (utf8 outcome.output) ((outcome.error.map utf8).getD [])
        outcome.files.shown.reverse
  | missing : ex.resolve w p.last.name = .notFound →
      LastSends path (notFoundLine p.last.name) [] []
  /-- the program has gone since its name was resolved -/
  | gone {program : Path} : ex.resolve w p.last.name = .external program →
      ex.launchLast w p handle files rooms redirect program = .error .notFound →
      LastSends path (notFoundLine p.last.name) [] []
  | failed {program : Path} {e : OsError} : ex.resolve w p.last.name = .external program →
      ex.launchLast w p handle files rooms redirect program = .error e → e ≠ .notFound →
      LastSends path [] (utf8 (p.last.name ++ ": " ++ e.message ++ "\n")) []
  | program {program : Path} {started : Started} {output errors : Bytes} :
      ex.resolve w p.last.name = .external program →
      ex.launchLast w p handle files rooms redirect program = .ok started →
      (let out := redirect.sinks handle
       started.Sends (ex.lastSetting w p handle files rooms) ex.here path out.1 out.2 output
         errors) →
      LastSends path output errors
        (started (ex.lastSetting w p handle files rooms)).files.shown.reverse

/-- What a stream of the terminal receives while the last stage is set up and while it
runs. -/
def LastShows (outlet : Outlet) (text : Bytes) : Prop :=
  ∃ atSetUp atRun,
    seenOn outlet (ex.prepared w p (some handle) files rooms).1.events =
      seenOn outlet (ex.preparedFront w p (some handle) files rooms).1.events ++ atSetUp ∧
    seenOn outlet (ex.ranUpTo w p (some handle) files rooms p.commands.length).events =
      seenOn outlet (ex.ranUpTo w p (some handle) files rooms p.front.length).events ++ atRun ∧
    atSetUp ++ atRun = text

/-- What the last stage has left when the line has been run: one of its streams stands behind
what the file has kept, and the other one has been shown. -/
structure LastLeaves (path : Path) (loc : Location) (content : Bytes) (mode : Nat)
    (output errors : Bytes) (shown : List (Outlet × Bytes)) : Prop where
  file : (ex.ranUpTo w p (some handle) files rooms p.commands.length).world.files.LeadsTo ex.here
    path loc (content ++ redirect.stored output errors) mode
  shows : ∃ early late, early ++ late = shown ∧ ∀ outlet, ex.LastShows w p handle files rooms outlet
    (shownOn outlet early ++ redirect.shown outlet output errors ++ shownOn outlet late)

/-- Where the streams of the last stage have gone when the pipes have had their room. -/
structure Routes (path : Path) (output errors : Bytes) (shown : List (Outlet × Bytes)) :
    Prop where
  runs : ex.execute w p =
    let done := ex.ranUpTo w p (some handle) files rooms p.commands.length
    ⟨done.world, done.events, .ok ()⟩
  /-- the file is there, with the mode that it had if it was there before -/
  stored : ∃ mode, (ex.execute w p).world.files.find ex.here path =
      .ok (.file (w.files.keptContent ex.here path redirect.isAppend ++
        redirect.stored output errors) mode) ∧
    ∀ old oldMode, w.files.find ex.here path = .ok (.file old oldMode) → mode = oldMode
  shows : ∃ early late, early ++ late = shown ∧ ∀ outlet, ex.LastShows w p handle files rooms outlet
    (shownOn outlet early ++ redirect.shown outlet output errors ++ shownOn outlet late)

end Streams

section Last

variable {ex : Executor} {w : World} {p : Pipeline} {handle : FileSystem.Handle}
  {files : FileSystem} {rooms : List Nat} {redirect : Redirect} {path : Path} {loc : Location}
  {content : Bytes} {mode : Nat} {append : Bool}

/-- The turn of the last stage has come: the file is open, and nothing else touches it. -/
structure Awaits (ex : Executor) (w : World) (p : Pipeline) (handle : FileSystem.Handle)
    (files : FileSystem) (rooms : List Nat) (redirect : Redirect) (path : Path) (loc : Location)
    (content : Bytes) (mode : Nat) (append : Bool) : Prop where
  redirected : p.last.redirect = some redirect
  opened : handle = FileSystem.openedHandle append loc
  kept : append = false → content = []
  alone : ex.LeavesAlone w p (some handle) files rooms path
  reached : (ex.lastTurn w p (some handle) files rooms).moment.files.LeadsTo ex.here path loc
    content mode
  /-- the log is written to another file -/
  apart : (ex.lastTurn w p (some handle) files rooms).moment.journal.location? ≠ some loc
  quiet : (ex.lastTurn w p (some handle) files rooms).Quiet

variable (ex w p handle files rooms) in
/-- What the log is told is not seen. -/
theorem seenOn_lastTurn (outlet : Outlet) :
    seenOn outlet (ex.lastTurn w p (some handle) files rooms).events =
      seenOn outlet (ex.preparedFront w p (some handle) files rooms).1.events :=
  congrArg (fun v : View => v.seen outlet) (view_enter _ _ _ _)

/-- A last stage that the shell has done: it has written when it was set up. -/
theorem leaves_of_done
    (hawaits : ex.Awaits w p handle files rooms redirect path loc content mode append)
    {v : View} {text output : Bytes} {errors : Option Bytes} {shown : List (Outlet × Bytes)}
    (hready : (ex.preparedLast w p (some handle) files rooms).2 = .done text)
    (hview : let out := redirect.sinks handle
      (ex.preparedLast w p (some handle) files rooms).1.view =
        v.writeBoth out.1 out.2 output errors)
    (hleads : v.files.LeadsTo ex.here path loc content mode)
    (hseen : ∀ outlet, v.seen outlet =
      seenOn outlet (ex.preparedFront w p (some handle) files rooms).1.events ++
        shownOn outlet shown) :
    ex.LastLeaves w p handle files rooms redirect path loc content mode output (errors.getD [])
      shown := by
  obtain ⟨hfile, hseenLast⟩ := leadsTo_writeBoth hleads hawaits.kept redirect output errors
  rw [← hawaits.opened, ← hview] at hfile
  rw [← hawaits.opened, ← hview] at hseenLast
  have hset : (ex.prepared w p (some handle) files rooms).1 =
      (ex.preparedLast w p (some handle) files rooms).1 := by
    rw [prepared_eq]
  have hrun : ex.ranUpTo w p (some handle) files rooms p.commands.length =
      (ex.ranUpTo w p (some handle) files rooms p.front.length).pass (.ofBytes text)
        Run.ownFlow := by
    rw [← length_front, ranUpTo_succ getElem?_prepared_last, hready]
    rfl
  constructor
  · rw [hrun]
    exact leadsTo_ranUpTo hawaits.alone (hset ▸ hfile) p.front.length (Nat.le_refl _)
  · refine ⟨shown, [], List.append_nil _, ?_⟩
    intro outlet
    refine ⟨shownOn outlet shown ++ redirect.shown outlet output (errors.getD []), [], ?_, ?_, ?_⟩
    · rw [hset, ← List.append_assoc, ← hseen]
      exact hseenLast outlet
    · rw [hrun, List.append_nil]
      rfl
    · simp [shownOn]

/-- A last stage that is a program: it writes when it runs. -/
theorem leaves_of_started
    (hawaits : ex.Awaits w p handle files rooms redirect path loc content mode append)
    {started : Started} {output errors : Bytes}
    (hready : let out := redirect.sinks handle
      (ex.preparedLast w p (some handle) files rooms).2 = .started started out.1 out.2)
    (hsends : let out := redirect.sinks handle
      started.Sends (ex.lastSetting w p handle files rooms) ex.here path out.1 out.2 output errors)
    (hset : (ex.preparedLast w p (some handle) files rooms).1 =
      ex.lastTurn w p (some handle) files rooms) :
    ex.LastLeaves w p handle files rooms redirect path loc content mode output errors
      (started (ex.lastSetting w p handle files rooms)).files.shown.reverse := by
  have hlast : (ex.prepared w p (some handle) files rooms).1 =
      (ex.preparedLast w p (some handle) files rooms).1 := by
    rw [prepared_eq]
  have hprepared : (ex.prepared w p (some handle) files rooms).1.world.files.LeadsTo ex.here path
      loc content mode := by
    rw [hlast, hset]
    exact hawaits.reached
  have hfront := leadsTo_ranUpTo hawaits.alone hprepared p.front.length (Nat.le_refl _)
  generalize hbefore : ex.ranUpTo w p (some handle) files rooms p.front.length = before at hfront
  have hsetting : ex.lastSetting w p handle files rooms = before.setting := by
    rw [lastSetting, hbefore]
  have hrun : ex.ranUpTo w p (some handle) files rooms p.commands.length =
      runProgram before started (redirect.sinks handle).1 (redirect.sinks handle).2 := by
    rw [← length_front, ranUpTo_succ getElem?_prepared_last, hready, hbefore]
    rfl
  obtain ⟨left, flow, hleft, hevents, hend⟩ := runProgram_eq before started
    (redirect.sinks handle).1 (redirect.sinks handle).2
  rw [hend] at hrun
  have hview := view_handOn left redirect append loc (started before.setting).output
    (started before.setting).errors flow
  rw [← hawaits.opened, hleft, hevents] at hview
  obtain ⟨hfiles, early, late, hshown, hseen⟩ := hview
  have hheld : before.view.files.LeadsTo ex.here path loc content mode := hfront
  have hwritten := (leadsTo_writeBoth hheld hawaits.kept redirect output (some errors)).1
  rw [← hawaits.opened] at hwritten
  rw [hsetting] at hsends
  rw [hsetting]
  constructor
  · rw [hrun, hfiles]
    exact FileSystem.LeadsTo.of_same hwritten hsends.stores
  · refine ⟨early, late, hshown, ?_⟩
    intro outlet
    refine ⟨[], _, ?_, ?_, List.nil_append _⟩
    · rw [hlast, hset, List.append_nil]
      exact seenOn_lastTurn ex w p handle files rooms outlet
    · rw [hrun, hbefore, ← hsends.shown_eq outlet]
      exact hseen outlet

theorem Awaits.preparedLast_eq
    (hawaits : ex.Awaits w p handle files rooms redirect path loc content mode append)
    {resolution : Resolution} (hresolve : ex.resolve w p.last.name = resolution) :
    ex.preparedLast w p (some handle) files rooms =
      ex.setUpStage (some handle) (ex.lastTurn w p (some handle) files rooms) p.last resolution
        (redirect.sinks handle).1 (redirect.sinks handle).2 := by
  rw [preparedLast, sinks_of_redirect hawaits.redirected, hresolve]

theorem leaves_of_builtin
    (hawaits : ex.Awaits w p handle files rooms redirect path loc content mode append)
    {b : Builtin} {outcome : BuiltinOutcome} (hresolve : ex.resolve w p.last.name = .builtin b)
    (houtcome : let m := ex.found w p (some handle) files rooms p.front.length
      b.run p.last.args m.state ⟨m.files, ex.here, ex.search⟩ = outcome) :
    ex.LastLeaves w p handle files rooms redirect path loc content mode (utf8 outcome.output)
      ((outcome.error.map utf8).getD []) outcome.files.shown.reverse := by
  have hset := hawaits.preparedLast_eq hresolve
  have hmoment := moment_lastTurn ex w p (some handle) files rooms
  have hstage : (ex.stagesOf w p)[p.front.length]? = some (p.last, .builtin b) := by
    rw [getElem?_stagesOf_last, hresolve]
  have hsame := hawaits.alone.builtins _ _ _ hstage
  simp only [← hmoment] at houtcome hsame
  subst houtcome
  let reached := (ex.lastTurn w p (some handle) files rooms).moment
  have hleads : (reached.finish (b.perform p.last.args reached.state
      ⟨reached.files, ex.here, ex.search⟩)).files.LeadsTo ex.here path loc content mode :=
    Moment.leadsTo_finish (hawaits.reached.of_same hsame) hawaits.apart
  have hview := view_doBuiltin (redirect.sinks handle).1 (redirect.sinks handle).2 ex
    (ex.lastTurn w p (some handle) files rooms) b p.last.args
  have hdone : ex.preparedLast w p (some handle) files rooms =
      ex.doBuiltin (ex.lastTurn w p (some handle) files rooms) b p.last.args
        (redirect.sinks handle).1 (redirect.sinks handle).2 := hset
  rw [← hdone] at hview
  have hready : (ex.preparedLast w p (some handle) files rooms).2 = .done (utf8
      (b.run p.last.args reached.state ⟨reached.files, ex.here, ex.search⟩).output) := by
    rw [hdone]
    rfl
  apply leaves_of_done hawaits hready hview hleads
  intro outlet
  rw [← seenOn_lastTurn]
  rfl

/-- A stage that the shell does without a builtin shows nothing by the names of outlets. -/
theorem leaves_of_output
    (hawaits : ex.Awaits w p handle files rooms redirect path loc content mode append)
    {text output : Bytes} {errors : Option Bytes} {reached : FileSystem}
    (hready : (ex.preparedLast w p (some handle) files rooms).2 = .done text)
    (hview : let out := redirect.sinks handle
      (ex.preparedLast w p (some handle) files rooms).1.view =
        View.writeBoth { (ex.lastTurn w p (some handle) files rooms).view with files := reached }
          out.1 out.2 output errors)
    (hleads : reached.LeadsTo ex.here path loc content mode) :
    ex.LastLeaves w p handle files rooms redirect path loc content mode output (errors.getD [])
      [] := by
  apply leaves_of_done hawaits hready hview hleads
  intro outlet
  exact (seenOn_lastTurn ex w p handle files rooms outlet).trans (List.append_nil _).symm

theorem leaves_of_missing
    (hawaits : ex.Awaits w p handle files rooms redirect path loc content mode append)
    (hresolve : ex.resolve w p.last.name = .notFound) :
    ex.LastLeaves w p handle files rooms redirect path loc content mode
      (notFoundLine p.last.name) [] [] := by
  have hset := hawaits.preparedLast_eq hresolve
  have hview := view_doMissing (redirect.sinks handle).1 (redirect.sinks handle).2 hawaits.quiet
    p.last.name
  have hdone : ex.preparedLast w p (some handle) files rooms =
      doMissing (ex.lastTurn w p (some handle) files rooms) p.last.name
        (redirect.sinks handle).1 := hset
  have hready : (ex.preparedLast w p (some handle) files rooms).2 =
      .done (notFoundLine p.last.name) := by
    rw [hdone]
    rfl
  rw [← hdone] at hview
  exact leaves_of_output hawaits hready hview hawaits.reached

theorem leaves_of_failed
    (hawaits : ex.Awaits w p handle files rooms redirect path loc content mode append)
    {program : Path} {e : OsError} (hresolve : ex.resolve w p.last.name = .external program)
    (hlaunch : ex.launchLast w p handle files rooms redirect program = .error e) :
    ex.LastLeaves w p handle files rooms redirect path loc content mode
      (if e = .notFound then notFoundLine p.last.name else [])
      (if e = .notFound then [] else utf8 (p.last.name ++ ": " ++ e.message ++ "\n")) [] := by
  have hset := hawaits.preparedLast_eq hresolve
  rw [launchLast, ← moment_lastTurn] at hlaunch
  rw [setUpStage_of_launch_error _ hlaunch] at hset
  have hview := view_doFailed (redirect.sinks handle).1 (redirect.sinks handle).2 hawaits.quiet
    program p.last.name e
  have hleads := Moment.leadsTo_record hawaits.reached hawaits.apart [failedRecord program e]
  rw [← hset] at hview
  by_cases he : e = .notFound
  · simp only [if_pos he] at hview ⊢
    have hready : (ex.preparedLast w p (some handle) files rooms).2 =
        .done (notFoundLine p.last.name) := by
      rw [hset, doFailed, if_pos he]
    exact leaves_of_output hawaits hready hview hleads
  · simp only [if_neg he] at hview ⊢
    have hready : (ex.preparedLast w p (some handle) files rooms).2 = .done [] := by
      rw [hset, doFailed, if_neg he]
    exact leaves_of_output hawaits hready hview hleads

theorem leaves_of_program
    (hawaits : ex.Awaits w p handle files rooms redirect path loc content mode append)
    {program : Path} {started : Started} {output errors : Bytes}
    (hresolve : ex.resolve w p.last.name = .external program)
    (hlaunch : ex.launchLast w p handle files rooms redirect program = .ok started)
    (hsends : let out := redirect.sinks handle
      started.Sends (ex.lastSetting w p handle files rooms) ex.here path out.1 out.2 output
        errors) :
    ex.LastLeaves w p handle files rooms redirect path loc content mode output errors
      (started (ex.lastSetting w p handle files rooms)).files.shown.reverse := by
  have hset := hawaits.preparedLast_eq hresolve
  rw [launchLast, ← moment_lastTurn] at hlaunch
  rw [setUpStage_of_launch_ok _ hlaunch] at hset
  apply leaves_of_started hawaits _ hsends
  · rw [hset]
  · rw [hset]

theorem LastSends.leaves
    (hawaits : ex.Awaits w p handle files rooms redirect path loc content mode append)
    {output errors : Bytes} {shown : List (Outlet × Bytes)}
    (hsends : ex.LastSends w p handle files rooms redirect path output errors shown) :
    ex.LastLeaves w p handle files rooms redirect path loc content mode output errors shown := by
  cases hsends with
  | builtin hresolve houtcome => exact leaves_of_builtin hawaits hresolve houtcome
  | missing hresolve => exact leaves_of_missing hawaits hresolve
  | gone hresolve hlaunch =>
      have hleaves := leaves_of_failed hawaits hresolve hlaunch
      rwa [if_pos rfl, if_pos rfl] at hleaves
  | failed hresolve hlaunch he =>
      have hleaves := leaves_of_failed hawaits hresolve hlaunch
      rwa [if_neg he, if_neg he] at hleaves
  | program hresolve hlaunch hprogram =>
      exact leaves_of_program hawaits hresolve hlaunch hprogram

/-- Whatever the last stage is, a redirection whose path leads to a regular file or to nothing,
and which nothing else touches, stores one stream of the stage behind what the file keeps,
and leaves the other one to the terminal. -/
theorem routes_of_open {target : String} (hquiet : w.files.shown = [])
    (hredirect : p.last.redirect = some redirect) (htarget : p.last.target = some target)
    (hpath : w.state.cwd.join (utf8 target) = path)
    (hkind : ∀ node, w.files.find ex.here path = .ok node → node.IsFile)
    (hopen : ex.openRedirect (ex.announced w p) p.last = .ok (some handle, files))
    (halone : ex.LeavesAlone w p (some handle) files (ex.rooms w p (some handle) files) path)
    {output errors : Bytes} {shown : List (Outlet × Bytes)}
    (hsends : ex.LastSends w p handle files (ex.rooms w p (some handle) files) redirect path
      output errors shown) :
    ex.Routes w p handle files (ex.rooms w p (some handle) files) redirect path output errors
      shown := by
  obtain ⟨opened, hheld, hfile⟩ := (openRedirect_eq_ok_iff hredirect htarget).1 hopen
  obtain rfl := Option.some.inj hheld
  change (ex.announced w p).files.openForWriting ex.here (w.state.cwd.join (utf8 target)) _ = _
    at hfile
  rw [hpath] at hfile
  -- the log is told of the line before the file is opened, and writes to another one
  have hsame := ex.sameBut_announced w p
  have hother : ∀ place, w.files.locate ex.here path = .ok place →
      w.journal.location? ≠ some place.location := by
    intro place hplace
    exact halone.log place
      (FileSystem.locate_of_keeps (hsame.keeps.trans (keeps_openRedirect hopen)) hplace)
  have hfind : (ex.announced w p).files.find ex.here path = w.files.find ex.here path :=
    hsame.find hother
  have hcontent : (ex.announced w p).files.keptContent ex.here path redirect.isAppend =
      w.files.keptContent ex.here path redirect.isAppend := by
    rw [FileSystem.keptContent, hsame.readFile hother]
    rfl
  obtain ⟨loc, mode, hhandle, hleads, hmode⟩ :=
    FileSystem.leadsTo_of_openForWriting hfile fun node hnode => hkind node (hfind ▸ hnode)
  rw [hcontent] at hleads
  have hkept : redirect.isAppend = false →
      w.files.keptContent ex.here path redirect.isAppend = [] := by
    intro happend
    rw [FileSystem.keptContent, happend]
    rfl
  obtain ⟨hreached, hapart⟩ := leadsTo_lastTurn halone hleads
  have hawaits : ex.Awaits w p handle files (ex.rooms w p (some handle) files) redirect path loc
      (w.files.keptContent ex.here path redirect.isAppend) mode redirect.isAppend :=
    ⟨hredirect, hhandle, hkept, halone, hreached, hapart,
      quiet_enter (quiet_setUpFront _ _ (quiet_opened hquiet hopen) _) _ _ _⟩
  have hleaves := hsends.leaves hawaits
  have hruns := execute_eq_ranUpTo hopen
  refine ⟨hruns, ⟨mode, ?_, fun old oldMode hold => hmode old oldMode (hfind.trans hold)⟩,
    hleaves.shows⟩
  rw [hruns]
  exact hleaves.file.find

end Last

/-- A shell at the root, where there are a file, a program and a log that takes all records. -/
def shelf : World where
  state := ⟨[Path.slash], none, History.empty, false⟩
  files := FileSystem.attachInput
    { nodes := [([utf8 "out"], .file (utf8 "old\n") 0o600), ([utf8 "tool"], .program "cat"),
        ([utf8 "log"], .file [] FileSystem.newFileMode)] } []
  input := []
  journal := { setup := ⟨.file (.atEnd [utf8 "log"]), .debug⟩, stamp := ⟨1, "", ""⟩ }

/-- Programs are named by their paths. -/
def unsearched : Executor := starting ⟨[]⟩ Place.root (.ofPath [])

/-- A program that copies what it reads behind a file. -/
def copyBehind : Pipeline :=
  ⟨[⟨"echo", ["new"], none, none, none⟩,
    ⟨"/tool", [], some .stdoutAppend, some ">>", some "out"⟩], by decide⟩

/-- The files when the one of the shelf has been opened at its end. -/
def openedShelf : FileSystem :=
  (unsearched.announced shelf copyBehind).files.insert [utf8 "out"] (.file (utf8 "old\n") 0o600)

theorem stagesOf_copyBehind : unsearched.stagesOf shelf copyBehind =
    [(⟨"echo", ["new"], none, none, none⟩, .builtin .echo),
      (copyBehind.last, .external (utf8 "/tool"))] := by
  decide +kernel

theorem leavesAlone_copyBehind (rooms : List Nat) : unsearched.LeavesAlone shelf copyBehind
    (some (.atEnd [utf8 "out"])) openedShelf rooms (utf8 "/out") := by
  constructor
  · have hlocate : openedShelf.locate unsearched.here (utf8 "/out") =
        .ok ⟨[utf8 "out"], false⟩ := by
      decide +kernel
    intro place hplace
    obtain rfl := Except.ok.inj (hlocate.symm.trans hplace)
    decide +kernel
  · intro i command b hstage
    have hmember := List.mem_of_getElem? hstage
    rw [stagesOf_copyBehind] at hmember
    obtain ⟨rfl, rfl⟩ : _ ∧ b = .echo := by simpa using hmember
    exact ⟨rfl, rfl⟩
  · intro i program stdout stderr hi hready
    obtain rfl : i = 0 := Nat.lt_one_iff.1 hi
    rw [getElem?_prepared, stagesOf_copyBehind] at hready
    simp [stageAt] at hready

/-- The copy is stored while the program runs. -/
theorem lastSends_copyBehind :
    let handle := FileSystem.Handle.atEnd [utf8 "out"]
    unsearched.LastSends shelf copyBehind handle openedShelf
      (unsearched.rooms shelf copyBehind (some handle) openedShelf) .stdoutAppend (utf8 "/out")
      (utf8 "new\n") [] [] := by
  intro handle
  let rooms := unsearched.rooms shelf copyBehind (some handle) openedShelf
  let setting := unsearched.lastSetting shelf copyBehind handle openedShelf rooms
  let out := Redirect.stdoutAppend.sinks handle
  let left := fun finished : Finished =>
    out.2.store (out.1.store finished.files finished.output.first) finished.errors
  let stored := out.2.store (out.1.store setting.files (utf8 "new\n")) []
  let launched := unsearched.launchLast shelf copyBehind handle openedShelf rooms .stdoutAppend
    (utf8 "/tool")
  have hresolve : unsearched.resolve shelf copyBehind.last.name = .external (utf8 "/tool") := by
    decide +kernel
  have hstreams : launched.map (fun started =>
      ((started setting).errors, (started setting).files.shown)) = .ok ([], []) := by
    decide +kernel
  have hstored : launched.map (fun started =>
      ((left (started setting)).locate unsearched.here (utf8 "/out"),
        (left (started setting)).find unsearched.here (utf8 "/out"))) =
      .ok (stored.locate unsearched.here (utf8 "/out"),
        stored.find unsearched.here (utf8 "/out")) := by
    decide +kernel
  cases hlaunch : launched with
  | error e =>
      rw [hlaunch] at hstreams
      cases hstreams
  | ok started =>
      rw [hlaunch] at hstreams hstored
      obtain ⟨herrors, hshown⟩ := Prod.mk.inj (Except.ok.inj hstreams)
      obtain ⟨hlocate, hnode⟩ := Prod.mk.inj (Except.ok.inj hstored)
      have hfile : out.1 ≠ .terminal := by simp [out, Redirect.sinks, Redirect.isStderr]
      have hprogram : started.Sends setting unsearched.here (utf8 "/out") out.1 out.2
          (utf8 "new\n") [] :=
        ⟨fun hterminal => absurd hterminal hfile, fun _ => herrors, hlocate, hnode⟩
      have hsends := LastSends.program hresolve hlaunch hprogram
      rwa [show (started setting).files.shown = [] from hshown] at hsends

theorem routes_of_open_copied :
    let handle := FileSystem.Handle.atEnd [utf8 "out"]
    let rooms := unsearched.rooms shelf copyBehind (some handle) openedShelf
    unsearched.openRedirect (unsearched.announced shelf copyBehind) copyBehind.last =
        .ok (some handle, openedShelf) ∧
      unsearched.LeavesAlone shelf copyBehind (some handle) openedShelf rooms (utf8 "/out") ∧
      unsearched.LastSends shelf copyBehind handle openedShelf rooms .stdoutAppend (utf8 "/out")
        (utf8 "new\n") [] [] ∧
      unsearched.Routes shelf copyBehind handle openedShelf rooms .stdoutAppend (utf8 "/out")
        (utf8 "new\n") [] [] ∧
      (unsearched.execute shelf copyBehind).world.files.find Place.root (utf8 "/out") =
        .ok (.file (utf8 "old\nnew\n") 0o600) := by
  intro handle rooms
  have hfind : shelf.files.find Place.root (utf8 "/out") = .ok (.file (utf8 "old\n") 0o600) := by
    decide +kernel
  have hkind : ∀ node, shelf.files.find Place.root (utf8 "/out") = .ok node → node.IsFile := by
    intro node hnode
    exact ⟨_, _, (Except.ok.inj (hfind.symm.trans hnode)).symm⟩
  have hfile : (unsearched.announced shelf copyBehind).files.openForWriting Place.root
      (utf8 "/out") true = .ok (handle, openedShelf) :=
    FileSystem.openForWriting_of_locate (by decide +kernel) (by decide +kernel)
      (.inl (by decide +kernel))
  have hredirect : copyBehind.last.redirect = some .stdoutAppend := rfl
  have htarget : copyBehind.last.target = some "out" := rfl
  have hopen : unsearched.openRedirect (unsearched.announced shelf copyBehind) copyBehind.last =
      .ok (some handle, openedShelf) :=
    (openRedirect_eq_ok_iff hredirect htarget).2 ⟨_, rfl, hfile⟩
  have hroutes := routes_of_open rfl hredirect htarget rfl hkind hopen
    (leavesAlone_copyBehind rooms) lastSends_copyBehind
  exact ⟨hopen, leavesAlone_copyBehind rooms, lastSends_copyBehind, hroutes, by decide +kernel⟩

/-- A builtin that stores the history where the terminal is, and its errors in a file. -/
def writeToTerminal : Pipeline :=
  ⟨[⟨"history", ["-w", "/dev/stdout"], some .stderrTruncate, some "2>", some "err"⟩], by decide⟩

/-- The files when the one for the errors has been made. -/
def openedDesk : FileSystem := desk.files.insert [utf8 "err"] (.file [] FileSystem.newFileMode)

theorem leavesAlone_writeToTerminal (rooms : List Nat) : reversing.LeavesAlone desk writeToTerminal
    (some (.atOffset [utf8 "err"] 0)) openedDesk rooms (utf8 "/err") := by
  have hstages : reversing.stagesOf desk writeToTerminal =
      [(writeToTerminal.last, .builtin .history)] := by
    decide +kernel
  constructor
  · exact fun _ _ => nofun
  · intro i command b hstage
    rw [hstages] at hstage
    cases i with
    | zero =>
        obtain ⟨rfl, rfl⟩ : _ ∧ Builtin.history = b := by simpa using hstage
        -- no pipe comes before the first stage
        have hfirst : reversing.found desk writeToTerminal (some (.atOffset [utf8 "err"] 0))
            openedDesk rooms 0 = ⟨desk.state, openedDesk, .apart⟩ := rfl
        rw [hfirst]
        exact ⟨by decide +kernel, by decide +kernel⟩
    | succ i => simp at hstage
  · intro i program stdout stderr hi
    exact absurd hi (Nat.not_lt_zero i)

/-- The terminal can receive more of the last stage than the stream that is not redirected. -/
theorem not_lastShows_other :
    ¬ ∀ (ex : Executor) (w : World) (p : Pipeline) (handle : FileSystem.Handle)
      (files : FileSystem) (redirect : Redirect) (target : String) (path : Path)
      (output errors : Bytes) (shown : List (Outlet × Bytes)), w.files.shown = [] →
      p.last.redirect = some redirect → p.last.target = some target →
      w.state.cwd.join (utf8 target) = path →
      (∀ node, w.files.find ex.here path = .ok node → node.IsFile) →
      ex.openRedirect (ex.announced w p) p.last = .ok (some handle, files) →
      ex.LeavesAlone w p (some handle) files (ex.rooms w p (some handle) files) path →
      ex.LastSends w p handle files (ex.rooms w p (some handle) files) redirect path output errors
        shown →
      ∀ outlet, ex.LastShows w p handle files (ex.rooms w p (some handle) files) outlet
        (redirect.shown outlet output errors) := by
  intro hclaim
  let handle := FileSystem.Handle.atOffset [utf8 "err"] 0
  have hredirect : writeToTerminal.last.redirect = some .stderrTruncate := rfl
  have htarget : writeToTerminal.last.target = some "err" := rfl
  have hkind : ∀ node, desk.files.find Place.root (utf8 "/err") = .ok node → node.IsFile := by
    have hmissing : desk.files.find Place.root (utf8 "/err") = .error .notFound := by
      decide +kernel
    intro node hnode
    rw [hmissing] at hnode
    cases hnode
  have hfile : desk.files.openForWriting Place.root (utf8 "/err") false =
      .ok (handle, openedDesk) :=
    FileSystem.openForWriting_of_locate (by decide +kernel) (by decide +kernel)
      (.inr ⟨rfl, rfl, rfl⟩)
  have hopen : reversing.openRedirect (reversing.announced desk writeToTerminal)
      writeToTerminal.last = .ok (some handle, openedDesk) :=
    (openRedirect_eq_ok_iff hredirect htarget).2 ⟨_, rfl, hfile⟩
  let outcome := Builtin.history.run ["-w", "/dev/stdout"] desk.state
    ⟨openedDesk, reversing.here, reversing.search⟩
  let rooms := reversing.rooms desk writeToTerminal (some handle) openedDesk
  have hsends : reversing.LastSends desk writeToTerminal handle openedDesk rooms .stderrTruncate
      (utf8 "/err") (utf8 outcome.output) ((outcome.error.map utf8).getD [])
      outcome.files.shown.reverse := .builtin rfl rfl
  obtain ⟨atSetUp, atRun, hsetUp, -, htext⟩ := hclaim reversing desk writeToTerminal handle
    openedDesk .stderrTruncate "err" (utf8 "/err") _ _ _ rfl hredirect htarget rfl hkind hopen
    (leavesAlone_writeToTerminal rooms) hsends .output
  have hother : Redirect.stderrTruncate.shown .output (utf8 outcome.output)
      ((outcome.error.map utf8).getD []) = [] := by
    decide +kernel
  have hbefore : seenOn .output (reversing.preparedFront desk writeToTerminal
      (some handle) openedDesk rooms).1.events = [] := by
    decide +kernel
  have hafter : seenOn .output (reversing.prepared desk writeToTerminal
      (some handle) openedDesk rooms).1.events = utf8 "one\n" := by
    decide +kernel
  rw [hother] at htext
  rw [hafter, hbefore, (List.append_eq_nil_iff.1 htext).1] at hsetUp
  exact absurd hsetUp (by decide +kernel)

end Executor

end PipelineShell
