import PipelineShell.Session
import PipelineShell.Proofs.StageRuns
import PipelineShell.Proofs.UnreadFile

/-!
# What a line changes

Only builtins change the state that lasts from line to line.  They act in the
order of the stages, each at the moment that those before it have left, and what
they do to the history and to the wish to leave can be read off the line: entries
are only ever added, by `history -r`, and only `exit` asks to leave.  A line that
fails is recorded and reported, and does nothing else.
-/

namespace PipelineShell

/-! ## Builtins -/

namespace History

/-- The entries that a file adds to a history. -/
def recalled (fs : FileSystem) (here : Place) (p : Path) : List String :=
  match fs.readFile here p with
  | .error _ => []
  | .ok content =>
    (decodeLines (contentLines content)).1.filter (fun line => !Text.isBlankLine line)

theorem entries_readFrom (h : History) (fs : FileSystem) (here : Place) (p : Path) :
    (h.readFrom fs here p).1.entries = h.entries ++ recalled fs here p := by
  rw [readFrom, recalled]
  cases fs.readFile here p with
  | error e => exact (List.append_nil _).symm
  | ok content => rfl

theorem entries_appendTo (h : History) (fs : FileSystem) (here : Place) (p : Path) :
    (h.appendTo fs here p).1.1.entries = h.entries := by
  rw [appendTo]
  split <;> rfl

end History

namespace Builtin

/-- The entries that a builtin adds to the history: those of the file of
`history -r`. -/
def recalled (b : Builtin) (args : List String) (state : ShellState) (around : Surroundings) :
    List String :=
  match b, args with
  | .history, first :: file :: _ =>
    if HistoryFlag.ofWord? first = some .read then
      History.recalled around.files around.here (state.cwd.join (utf8 file))
    else []
  | _, _ => []

theorem entries_withFile (flag : HistoryFlag) (p : Path) (state : ShellState)
    (around : Surroundings) :
    (withFile flag p state around).1.history.entries = state.history.entries ++
      if flag = .read then History.recalled around.files around.here p else [] := by
  cases flag with
  | read => exact History.entries_readFrom _ _ _ _
  | write => exact (List.append_nil _).symm
  | append => exact (History.entries_appendTo _ _ _ _).trans (List.append_nil _).symm

theorem exitRequested_withFile (flag : HistoryFlag) (p : Path) (state : ShellState)
    (around : Surroundings) :
    (withFile flag p state around).1.exitRequested = state.exitRequested := by
  cases flag <;> rfl

/-- Only a file that is named changes the state. -/
theorem state_runHistory (args : List String) (state : ShellState) (around : Surroundings) :
    (runHistory args state around).state = match args with
      | first :: file :: _ => match HistoryFlag.ofWord? first with
        | some flag => (withFile flag (state.cwd.join (utf8 file)) state around).1
        | none => state
      | _ => state := by
  cases args with
  | nil => rfl
  | cons first rest =>
      cases rest with
      | nil =>
          simp only [runHistory.eq_def]
          cases HistoryFlag.ofWord? first with
          | some flag => rfl
          | none => simp only; split <;> rfl
      | cons file rest =>
          simp only [runHistory.eq_def]
          cases HistoryFlag.ofWord? first with
          | some flag =>
              simp only
              split <;> rename_i hfile <;> rw [hfile]
          | none => simp only; split <;> rfl

theorem entries_runHistory (args : List String) (state : ShellState) (around : Surroundings) :
    (runHistory args state around).state.history.entries =
      state.history.entries ++ recalled .history args state around := by
  rw [state_runHistory]
  match args with
  | [] => exact (List.append_nil _).symm
  | [first] => exact (List.append_nil _).symm
  | first :: file :: rest =>
      simp only [recalled]
      cases HistoryFlag.ofWord? first with
      | none => simp
      | some flag => simp [entries_withFile]

theorem exitRequested_runHistory (args : List String) (state : ShellState) (around : Surroundings) :
    (runHistory args state around).state.exitRequested = state.exitRequested := by
  rw [state_runHistory]
  split
  · split
    · exact exitRequested_withFile _ _ _ _
    · rfl
  · rfl

theorem state_runPwd (state : ShellState) (around : Surroundings) :
    (runPwd state around).state = state := by
  rw [runPwd]
  split <;> rfl

/-- A change of directory leaves the rest of the state. -/
theorem state_runCd (args : List String) (state : ShellState) (around : Surroundings) :
    ∃ cwd, (runCd args state around).state = { state with cwd } := by
  rw [runCd]
  split
  · split <;> exact ⟨_, rfl⟩
  · exact ⟨_, rfl⟩

/-- Builtins only add entries. -/
theorem entries_run (b : Builtin) (args : List String) (state : ShellState)
    (around : Surroundings) :
    (b.run args state around).state.history.entries =
      state.history.entries ++ b.recalled args state around := by
  cases b with
  | history => exact entries_runHistory args state around
  | pwd =>
      change (runPwd state around).state.history.entries = _
      rw [state_runPwd]
      exact (List.append_nil _).symm
  | cd =>
      obtain ⟨cwd, hstate⟩ := state_runCd args state around
      change (runCd args state around).state.history.entries = _
      rw [hstate]
      exact (List.append_nil _).symm
  | exit | echo | type => exact (List.append_nil _).symm

/-- Only `exit` asks to leave. -/
theorem exitRequested_run (b : Builtin) (args : List String) (state : ShellState)
    (around : Surroundings) :
    (b.run args state around).state.exitRequested = (state.exitRequested || b == .exit) := by
  cases b with
  | history => exact (exitRequested_runHistory args state around).trans (Bool.or_false _).symm
  | pwd =>
      change (runPwd state around).state.exitRequested = _
      rw [state_runPwd]
      exact (Bool.or_false _).symm
  | cd =>
      obtain ⟨cwd, hstate⟩ := state_runCd args state around
      change (runCd args state around).state.exitRequested = _
      rw [hstate]
      exact (Bool.or_false _).symm
  | echo | type => exact (Bool.or_false _).symm
  | exit => exact (Bool.or_true _).symm

theorem ofName?_eq_exit (name : String) : ofName? name = some .exit ↔ name = Builtin.exit.name := by
  constructor
  · intro hname
    have hfound := List.find?_some hname
    exact (beq_iff_eq.1 hfound).symm
  · rintro rfl
    rfl

/-! ### Builtins, one after another -/

/-- The entries that calls add to the history, each in the state that it finds. -/
def recalledBy : ShellState → List Call → List String
  | _, [] => []
  | state, call :: calls =>
    call.builtin.recalled call.args state call.around ++ recalledBy (call.leave state) calls

theorem entries_afterCalls (state : ShellState) (calls : List Call) :
    (afterCalls state calls).history.entries =
      state.history.entries ++ recalledBy state calls := by
  induction calls generalizing state with
  | nil => exact (List.append_nil _).symm
  | cons call calls ih =>
      rw [afterCalls, List.foldl_cons]
      refine (ih _).trans ?_
      rw [recalledBy, ← List.append_assoc, Call.leave, entries_run]

/-- The calls ask to leave if one of them is `exit`. -/
theorem exitRequested_afterCalls (state : ShellState) (calls : List Call) :
    (afterCalls state calls).exitRequested =
      (state.exitRequested || calls.any (·.builtin == .exit)) := by
  induction calls generalizing state with
  | nil => exact (Bool.or_false _).symm
  | cons call calls ih =>
      rw [afterCalls, List.foldl_cons, List.any_cons, ← Bool.or_assoc]
      refine (ih _).trans ?_
      rw [Call.leave, exitRequested_run]

end Builtin

/-! ## Stages -/

namespace Executor

section Files

variable {ex : Executor} {w w' : World} {command : Command}

/-- What a redirection opens, whatever the file of the log holds. -/
theorem openRedirect_sameBut {hidden : Option Location} (hstate : w'.state = w.state)
    (hfiles : FileSystem.SameBut hidden w.files w'.files) :
    SameAnswer (fun opened opened' => opened'.1 = opened.1 ∧
        FileSystem.SameBut hidden opened.2 opened'.2)
      (ex.openRedirect w command) (ex.openRedirect w' command) := by
  rw [openRedirect.eq_def, openRedirect.eq_def, hstate]
  split
  · exact .ok ⟨rfl, hfiles⟩
  · exact .error _
  · rename_i redirect target _ _
    rcases (hfiles.openForWriting ex.here (w.state.cwd.join (utf8 target))
      redirect.isAppend).error_or_ok with
        ⟨e, hopen, hopen'⟩ | ⟨opened, opened', hopen, hopen', hhandle, hopened⟩
    · simp only [hopen, hopen']
      exact .error _
    · simp only [hopen, hopen']
      exact .ok ⟨congrArg some hhandle, hopened⟩

variable (ex w) in
/-- What the log is told of a line is hidden with the file of the log. -/
theorem sameBut_announced (p : Pipeline) :
    FileSystem.SameBut w.journal.location? w.files (ex.announced w p).files :=
  Journal.sameBut_stored _ _

variable (ex w) in
/-- A redirection opens before the log has written exactly if it does so afterwards. -/
theorem openRedirect_announced (p : Pipeline) :
    SameAnswer (fun opened opened' => opened'.1 = opened.1 ∧
        FileSystem.SameBut w.journal.location? opened.2 opened'.2)
      (ex.openRedirect w p.last) (ex.openRedirect (ex.announced w p) p.last) :=
  openRedirect_sameBut rfl (ex.sameBut_announced w p)

theorem openRedirect_announced_error_iff {p : Pipeline} {e : LineError} :
    ex.openRedirect (ex.announced w p) p.last = .error e ↔ ex.openRedirect w p.last = .error e := by
  rcases (ex.openRedirect_announced w p).error_or_ok with
    ⟨cause, hopen, hopen'⟩ | ⟨opened, opened', hopen, hopen', -⟩
  · rw [hopen, hopen']
  · simp only [hopen, hopen', reduceCtorEq]

theorem isOk_openRedirect_announced {p : Pipeline} :
    (∃ opened, ex.openRedirect (ex.announced w p) p.last = .ok opened) ↔
      ∃ opened, ex.openRedirect w p.last = .ok opened := by
  rcases (ex.openRedirect_announced w p).error_or_ok with
    ⟨cause, hopen, hopen'⟩ | ⟨opened, opened', hopen, hopen', -⟩
  · simp [hopen, hopen']
  · simp [hopen, hopen']

end Files

theorem resolve_eq_exit (ex : Executor) (w : World) (name : String) :
    ex.resolve w name = .builtin .exit ↔ name = Builtin.exit.name := by
  rw [← Builtin.ofName?_eq_exit, resolve]
  cases Builtin.ofName? name with
  | some b => simp
  | none =>
      simp only [reduceCtorEq, iff_false]
      split <;> split <;> nofun

/-- One of the stages is `exit` if one of the commands is named so. -/
theorem any_stagesOf_exit (ex : Executor) (w : World) (p : Pipeline) :
    (ex.stagesOf w p).any (·.2 == .builtin .exit) = true ↔
      ∃ command ∈ p.commands, command.name = Builtin.exit.name := by
  simp [stagesOf, resolve_eq_exit]

theorem any_builtinCalls_exit (stages : List (Command × Resolution)) :
    (builtinCalls stages).any (·.1 == .exit) = stages.any (·.2 == .builtin .exit) := by
  induction stages with
  | nil => rfl
  | cons stage rest ih =>
      obtain ⟨command, resolution⟩ := stage
      rw [List.any_cons, ← ih]
      cases resolution with
      | builtin b => cases b <;> rfl
      | external program | notFound => rfl

/-- A pipeline calls `exit` if one of its commands is named so. -/
theorem any_calls_exit (ex : Executor) (w : World) (p : Pipeline)
    (held : Option FileSystem.Handle) (files : FileSystem) (rooms : List Nat) :
    (ex.calls w p held files rooms).any (·.builtin == .exit) = true ↔
      ∃ command ∈ p.commands, command.name = Builtin.exit.name := by
  have hcalls : (ex.calls w p held files rooms).map (fun call => (call.builtin, call.args)) =
      builtinCalls (ex.stagesOf w p) := by
    rw [calls, map_callsUpTo _ (Nat.le_refl _), ← length_stagesOf, List.take_length]
  have hany : (ex.calls w p held files rooms).any (·.builtin == .exit) =
      ((ex.calls w p held files rooms).map fun call => (call.builtin, call.args)).any
        (·.1 == .exit) := by
    rw [List.any_map]
    rfl
  rw [hany, hcalls, any_builtinCalls_exit, any_stagesOf_exit]

end Executor

/-! ## Lines -/

namespace Text

/-- What is left of a text that is not blank is not blank. -/
theorem isBlankLine_trim {s : String} (hs : (trim s).isEmpty = false) :
    isBlankLine (trim s) = false := by
  have hlast : ∀ cs : List Char, (trimEndChars cs).all isBlank = true → trimEndChars cs = [] := by
    intro cs hblank
    cases hcs : cs.reverse.dropWhile isBlank with
    | nil => simp [trimEndChars, hcs]
    | cons c rest =>
        have hc : isBlank c = true := by
          simp only [trimEndChars, hcs, List.all_reverse, List.all_cons, Bool.and_eq_true] at hblank
          exact hblank.1
        have hhead := List.head?_dropWhile_not isBlank cs.reverse
        simp [hcs, hc] at hhead
  cases hblank : isBlankLine (trim s) with
  | false => rfl
  | true =>
      have hnil := hlast _ (by simpa [isBlankLine, trim, trimChars] using hblank)
      simp [trim, trimChars, hnil] at hs

end Text

namespace Session

/-- Why a line does not run: it cannot be read, or the file of its redirection
cannot be opened. -/
def Fails (ex : Executor) (w : World) (line : String) (e : LineError) : Prop :=
  parse line = .error e ∨
    ∃ p, parse line = .ok (some p) ∧ ex.openRedirect w p.last = .error e

/-- A line that runs has a stage that is named `exit`. -/
def AsksToLeave (ex : Executor) (w : World) (line : String) : Prop :=
  ∃ p opened, parse line = .ok (some p) ∧ ex.openRedirect w p.last = .ok opened ∧
    ∃ command ∈ p.commands, command.name = Builtin.exit.name

/-- The entries that a line adds while it runs: those that its builtins recall, each from the
files that it finds. -/
def recalled (ex : Executor) (w : World) (line : String) : List String :=
  match parse line with
  | .ok (some p) =>
    match ex.openRedirect (ex.announced w p) p.last with
    | .ok (held, files) =>
      Builtin.recalledBy w.state (ex.calls w p held files (ex.rooms w p held files))
    | .error _ => []
  | _ => []

/-- The world in which a line is run: the line is recorded. -/
def record (w : World) (line : String) : World :=
  { w with state := { w.state with history := w.state.history.push line } }

/-- The entries that a line adds to the history: itself, unless it is blank, and
those that it recalls. -/
def recorded (ex : Executor) (w : World) (typed : String) : List String :=
  let line := Text.trim typed
  if line.isEmpty then []
  else line :: recalled ex ((record w line).log [commandRecord line]) line

/-- What the user is told of a line that fails. -/
def failureLine (theme : Theme) (e : LineError) : String :=
  theme.error programName ++ ": " ++ e.message

/-- What a line does to the world, and what is seen of it. -/
structure Effect (settings : Settings) (w : World) (typed : String) (after : World)
    (events : List Event) : Prop where
  /-- a blank line does nothing -/
  blank : (Text.trim typed).isEmpty = true → after = w ∧ events = []
  entries : after.state.history.entries =
    w.state.history.entries ++ recorded settings.executor w typed
  /-- a line that fails is recorded and reported, and does nothing else -/
  fails : ∀ e, Fails settings.executor w (Text.trim typed) e →
    after.state = (record w (Text.trim typed)).state ∧ after.files = w.files ∧
      after.input = w.input ∧ seenOn .output events = [] ∧
      seenOn .errors events = utf8 (failureLine settings.theme e ++ "\n")
  leaves : after.state.exitRequested = true ↔
    w.state.exitRequested = true ∨ AsksToLeave settings.executor w (Text.trim typed)

theorem parse_empty : parse "" = .ok none := rfl

/-- A line is nothing to run, fails, or runs. -/
theorem line_cases (ex : Executor) (w : World) (line : String) :
    parse line = .ok none ∨ (∃ e, Fails ex w line e) ∨
      ∃ p held files, parse line = .ok (some p) ∧
        ex.openRedirect (ex.announced w p) p.last = .ok (held, files) := by
  cases hparse : parse line with
  | error e => exact .inr (.inl ⟨e, .inl hparse⟩)
  | ok parsed =>
      cases parsed with
      | none => exact .inl rfl
      | some p =>
          cases hopen : ex.openRedirect (ex.announced w p) p.last with
          | error e =>
              have hfails := Executor.openRedirect_announced_error_iff.1 hopen
              exact .inr (.inl ⟨e, .inr ⟨p, hparse, hfails⟩⟩)
          | ok opened => exact .inr (.inr ⟨p, opened.1, opened.2, rfl, hopen⟩)

/-- A line that fails is reported and nothing else. -/
theorem runLine_of_fails (settings : Settings) {w : World} {line : String} {e : LineError}
    (hfails : Fails settings.executor w line e) :
    (runLine settings w line).1.state = w.state ∧ (runLine settings w line).1.files = w.files ∧
      (runLine settings w line).1.input = w.input ∧
      ∃ records : List LogRecord, (runLine settings w line).2 =
        records.map Event.record ++ failureEvents settings.theme line e := by
  rcases hfails with hparse | ⟨p, hparse, hopen⟩
  · simp only [runLine, hparse]
    exact ⟨rfl, rfl, rfl, [], rfl⟩
  · have hannounced := Executor.openRedirect_announced_error_iff.2 hopen
    simp only [runLine, hparse, Executor.execute, hannounced]
    exact ⟨rfl, rfl, rfl, _, rfl⟩

theorem state_runLine (settings : Settings) {w : World} {line : String} {p : Pipeline}
    {held : Option FileSystem.Handle} {files : FileSystem} (hparse : parse line = .ok (some p))
    (hopen : settings.executor.openRedirect (settings.executor.announced w p) p.last =
      .ok (held, files)) :
    (runLine settings w line).1.state = Builtin.afterCalls w.state
      (settings.executor.calls w p held files (settings.executor.rooms w p held files)) := by
  have hresult : (settings.executor.execute w p).result = .ok () := by
    simp only [Executor.execute, hopen]
  simp only [runLine, hparse, hresult]
  exact Executor.state_execute hopen

/-- Running a line adds what it recalls. -/
theorem entries_runLine (settings : Settings) (w : World) (line : String) :
    (runLine settings w line).1.state.history.entries =
      w.state.history.entries ++ recalled settings.executor w line := by
  rcases line_cases settings.executor w line with
    hnone | ⟨e, hfails⟩ | ⟨p, held, files, hparse, hopen⟩
  · simp only [runLine, recalled, hnone, List.append_nil]
  · rw [(runLine_of_fails settings hfails).1]
    rcases hfails with hparse | ⟨p, hparse, hopen⟩
    · simp only [recalled, hparse, List.append_nil]
    · simp only [recalled, hparse, Executor.openRedirect_announced_error_iff.2 hopen,
        List.append_nil]
  · rw [state_runLine settings hparse hopen, Builtin.entries_afterCalls]
    simp only [recalled, hparse, hopen]

/-- Running a line asks to leave if the line runs and names `exit`. -/
theorem exitRequested_runLine (settings : Settings) (w : World) (line : String) :
    (runLine settings w line).1.state.exitRequested = true ↔
      w.state.exitRequested = true ∨ AsksToLeave settings.executor w line := by
  rcases line_cases settings.executor w line with
    hnone | ⟨e, hfails⟩ | ⟨p, held, files, hparse, hopen⟩
  · simp [runLine, AsksToLeave, hnone]
  · rw [(runLine_of_fails settings hfails).1]
    rcases hfails with hparse | ⟨p, hparse, hopen⟩
    · simp [AsksToLeave, hparse]
    · simp [AsksToLeave, hparse, hopen]
  · obtain ⟨⟨handle, opened⟩, hopens⟩ := Executor.isOk_openRedirect_announced.1 ⟨_, hopen⟩
    rw [state_runLine settings hparse hopen, Builtin.exitRequested_afterCalls, Bool.or_eq_true,
      Executor.any_calls_exit]
    simp [AsksToLeave, hparse, hopens]

theorem seenOn_failureEvents (outlet : Outlet) (records : List LogRecord) (theme : Theme)
    (line : String) (e : LineError) :
    seenOn outlet (records.map Event.record ++ failureEvents theme line e) =
      if outlet = .errors then utf8 (failureLine theme e ++ "\n") else [] := by
  rw [Executor.seenOn_append, Executor.seenOn_records]
  cases outlet <;> simp [seenOn, failureEvents, failureLine, Event.textOn]

/-- A line is run in the world in which it is recorded, with a record in the log. -/
theorem handleCommand_eq (settings : Settings) (w : World) (line : String) :
    handleCommand settings w line =
      ((runLine settings ((record w line).log [commandRecord line]) line).1,
        .record (commandRecord line) ::
          (runLine settings ((record w line).log [commandRecord line]) line).2) := rfl

theorem entries_record (w : World) {line : String} (hline : Text.isBlankLine line = false) :
    (record w line).state.history.entries = w.state.history.entries ++ [line] := by
  simp [record, History.push, History.record, hline]

theorem fails_log_record (ex : Executor) (w : World) (records : List LogRecord) (line : String)
    (e : LineError) : Fails ex ((record w line).log records) line e ↔ Fails ex w line e := Iff.rfl

theorem asksToLeave_log_record (ex : Executor) (w : World) (records : List LogRecord)
    (line : String) : AsksToLeave ex ((record w line).log records) line ↔ AsksToLeave ex w line :=
  Iff.rfl

theorem entries_handleCommand (settings : Settings) (w : World) {line : String}
    (hline : Text.isBlankLine line = false) :
    (handleCommand settings w line).1.state.history.entries =
      w.state.history.entries ++
        line :: recalled settings.executor ((record w line).log [commandRecord line]) line := by
  rw [handleCommand_eq, entries_runLine, List.append_cons, ← entries_record w hline]
  rfl

theorem handleCommand_of_fails (settings : Settings) {w : World} {line : String} {e : LineError}
    (hfails : Fails settings.executor w line e) :
    (handleCommand settings w line).1.state = (record w line).state ∧
      (handleCommand settings w line).1.files = w.files ∧
      (handleCommand settings w line).1.input = w.input ∧
      ∀ outlet, seenOn outlet (handleCommand settings w line).2 =
        if outlet = .errors then utf8 (failureLine settings.theme e ++ "\n") else [] := by
  rw [handleCommand_eq]
  obtain ⟨hstate, hfiles, hinput, records, hevents⟩ := runLine_of_fails settings
    ((fails_log_record settings.executor w [commandRecord line] line e).2 hfails)
  refine ⟨hstate, hfiles, hinput, fun outlet => ?_⟩
  rw [hevents]
  exact seenOn_failureEvents outlet (commandRecord line :: records) _ _ e

theorem effect_handleLine (settings : Settings) (w : World) (typed : String) :
    Effect settings w typed (handleLine settings w typed).1 (handleLine settings w typed).2 := by
  by_cases hblank : (Text.trim typed).isEmpty = true
  · have hempty : Text.trim typed = "" := by simpa using hblank
    have hhandle : handleLine settings w typed = (w, []) := by rw [handleLine, if_pos hblank]
    rw [hhandle]
    refine ⟨fun _ => ⟨rfl, rfl⟩, by simp [recorded, hblank], fun e hfails => ?_, ?_⟩
    · simp [Fails, hempty, parse_empty] at hfails
    · simp [AsksToLeave, hempty, parse_empty]
  · have hhandle : handleLine settings w typed = handleCommand settings w (Text.trim typed) := by
      rw [handleLine, if_neg hblank]
    have hline : Text.isBlankLine (Text.trim typed) = false :=
      Text.isBlankLine_trim (by simpa using hblank)
    rw [hhandle]
    refine ⟨fun h => absurd h hblank, ?_, fun e hfails => ?_, ?_⟩
    · rw [entries_handleCommand settings w hline, recorded, if_neg hblank]
    · obtain ⟨hstate, hfiles, hinput, hseen⟩ := handleCommand_of_fails settings hfails
      exact ⟨hstate, hfiles, hinput, hseen .output, hseen .errors⟩
    · rw [handleCommand_eq, exitRequested_runLine, asksToLeave_log_record]
      rfl

end Session

end PipelineShell
