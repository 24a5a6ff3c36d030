import PipelineShell.Executor
import PipelineShell.FileSystem.Descriptor
import PipelineShell.LineReader
import PipelineShell.Config
import PipelineShell.Theme

/-!
# Sessions

A session reads lines until one of them asks to leave or the input ends.  Each
line that is not blank is recorded in the history and then run.  At the end the
history is saved.
-/

namespace PipelineShell

/-- How a session ends. -/
inductive Ending where
  | exit
  | endOfInput
  /-- a line was not UTF-8; the history is not saved -/
  | unreadable
  deriving DecidableEq, Repr

/-- A session under way. -/
structure Session where
  world : World
  /-- input that has been read and not yet taken as a line -/
  buffered : Bytes
  /-- what happened line by line, latest first -/
  past : List (List Event)

namespace Session

/-- What stays the same from line to line. -/
structure Settings where
  executor : Executor
  theme : Theme
  /-- the prompt is shown before each line -/
  prompts : Bool

/-- What a failed line tells the log. -/
def failureRecord (line : String) (e : LineError) : LogRecord :=
  .warn ("命令失败: " ++ line ++ ": " ++ e.message)

/-- What a failed line tells the log and the user. -/
def failureEvents (theme : Theme) (line : String) (e : LineError) : List Event :=
  [.record (failureRecord line e),
    .errors (utf8 (theme.error programName ++ ": " ++ e.message ++ "\n"))]

/-- Run a line that has been recorded. -/
def runLine (settings : Settings) (w : World) (line : String) : World × List Event :=
  match parse line with
  | .error e => (w.log [failureRecord line e], failureEvents settings.theme line e)
  | .ok none => (w, [])
  | .ok (some p) =>
    let outcome := settings.executor.execute w p
    match outcome.result with
    | .ok () => (outcome.world, outcome.events)
    | .error e =>
      (outcome.world.log [failureRecord line e],
        outcome.events ++ failureEvents settings.theme line e)

/-- What a line that is run tells the log. -/
def commandRecord (line : String) : LogRecord := .debug ("执行命令: " ++ line)

/-- Record a line and run it. -/
def handleCommand (settings : Settings) (w : World) (line : String) : World × List Event :=
  let state := { w.state with history := w.state.history.push line }
  let ran := runLine settings ({ w with state }.log [commandRecord line]) line
  (ran.1, .record (commandRecord line) :: ran.2)

/-- Record a line and run it, unless it is blank. -/
def handleLine (settings : Settings) (w : World) (typed : String) : World × List Event :=
  let line := Text.trim typed
  if line.isEmpty then (w, []) else handleCommand settings w line

theorem input_runLine_le (settings : Settings) (w : World) (line : String) :
    (runLine settings w line).1.input.length ≤ w.input.length := by
  unfold runLine
  split
  · exact Nat.le_refl _
  · exact Nat.le_refl _
  · simp only
    split <;> exact Executor.input_execute_le _ _ _

theorem input_handleCommand_le (settings : Settings) (w : World) (line : String) :
    (handleCommand settings w line).1.input.length ≤ w.input.length :=
  input_runLine_le settings
    (World.log { w with state := { w.state with history := w.state.history.push line } }
      [commandRecord line]) line

theorem input_handleLine_le (settings : Settings) (w : World) (typed : String) :
    (handleLine settings w typed).1.input.length ≤ w.input.length := by
  by_cases h : (Text.trim typed).isEmpty
  · simp [handleLine, h]
  · simpa [handleLine, h] using input_handleCommand_le settings w (Text.trim typed)

def note (s : Session) (events : List Event) : Session :=
  { s with past := events :: s.past }

/-- Tell the log something about the session. -/
def log (s : Session) (records : List LogRecord) : Session :=
  { s with world := s.world.log records }.note (records.map Event.record)

/-- What is shown before a line is read. -/
def promptEvents (settings : Settings) : List Event :=
  if settings.prompts then [.output (utf8 settings.theme.prompt)] else []

/-- Read and run lines to the end of the session. -/
def run (settings : Settings) (s : Session) : Session × Ending :=
  if s.world.state.exitRequested then (s, .exit)
  else
    let prompted := s.note (promptEvents settings)
    match _h : LineReader.takeLine s.buffered s.world.input with
    | none => (prompted.log [.info "接收到 EOF 信号，退出..."], .endOfInput)
    | some (raw, buffered, rest) =>
      match LineReader.line? raw with
      | none =>
        (prompted.log [.error ("读取输入失败: " ++ OsError.invalidText.message)], .unreadable)
      | some typed =>
        let handled := handleLine settings { s.world with input := rest } typed
        run settings ⟨handled.1, buffered, handled.2 :: prompted.past⟩
termination_by s.buffered.length + s.world.input.length
decreasing_by
  have hlt := LineReader.takeLine_length_lt _h
  have hle := input_handleLine_le settings { s.world with input := rest } typed
  simp only at hle ⊢
  omega

/-- All that happened, in order. -/
def events (s : Session) : List Event := s.past.reverse.flatten

/-- The terminals that cannot edit a line: the prompt is written for them even
where the input is no terminal. -/
def plainTerminals : List String := ["DUMB", "CONS25", "EMACS"]

def showsPrompt (env : Environment) : Bool :=
  match env.text? "TERM" with
  | some name => plainTerminals.contains (LogLevel.upperAscii name)
  | none => false

/-- The shell's process: its variables, its files, its directory and its input. -/
structure Process where
  env : Environment
  files : FileSystem
  here : Place
  input : Bytes

/-- The directory in which a session starts. -/
def startDirectory (here : Place) : Path :=
  if here.detached then [Path.slash] else Location.path here.location

/-- The history at the start of a session, with what is said about it. -/
def startHistory (config : Config) (files : FileSystem) (here : Place) :
    History × List LogRecord :=
  let loaded := History.load files here config.historyFile
  let history := loaded.toOption.getD History.empty
  let size := toString history.entries.length
  let record : LogRecord := match loaded with
    | .ok _ => .debug ("历史记录加载成功: " ++ size ++ " 条")
    | .error e => .warn ("无法加载历史记录: " ++ config.historyFile.display ++ " " ++ e.message)
  (history, History.loadRecords files here config.historyFile ++
    [record, .debug ("已载入 " ++ size ++ " 条历史记录到编辑器")])

/-- Save the history at the end of a session. -/
def saveHistory (config : Config) (theme : Theme) (here : Place) (w : World) :
    World × List Event :=
  let w := w.flush
  match w.state.history.save w.files here config.historyFile with
  | (files, .ok ()) =>
    let saved : LogRecord := .debug "历史记录保存成功"
    ({ w with files }.log [saved], [.record saved])
  | (files, .error e) =>
    let lost : LogRecord := .error ("保存历史记录失败: " ++ e.message)
    ({ w with files }.log [lost],
      [.record lost,
        .errors (utf8 (theme.warning (programName ++ ": cannot save history to " ++
          config.historyFile.display ++ ": " ++ e.message) ++ "\n"))])

/-- A whole session with a log: what is left of the world, what happened, and how it
ended. -/
def perform (launcher : Environment → Place → Launcher) (config : Config) (colour : Bool)
    (process : Process) (journal : Journal := .apart) : World × List Event × Ending :=
  let (history, loading) := startHistory config process.files process.here
  let value := process.env.get? (utf8 "PATH")
  let theme := Theme.ofName colour config.theme
  let settings : Settings :=
    ⟨⟨process.here, SearchPath.ofVariable value, launcher process.env process.here⟩, theme,
      showsPrompt process.env⟩
  let state : ShellState := ⟨startDirectory process.here, config.home, history, false⟩
  let opening := loading ++ SearchPath.variableRecords value ++
    [.debug ("初始化 " ++ programName ++ "...")]
  let world : World :=
    { state, files := process.files.attachInput process.input, input := process.input, journal }
  let (session, ending) := run settings ((⟨world, [], []⟩ : Session).log opening)
  match ending with
  | .unreadable => (session.world, session.events, ending)
  | _ =>
    let (world, saving) := saveHistory config theme process.here session.world
    let leaving : LogRecord := .debug ("退出 " ++ programName ++ "...")
    (world.log [leaving], session.events ++ saving ++ [.record leaving], ending)

end Session

end PipelineShell
