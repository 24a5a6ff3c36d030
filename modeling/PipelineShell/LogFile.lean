import PipelineShell.Config
import PipelineShell.Executor

/-!
# Opening the log

Records are written to a file named for the day.  If it cannot be opened, they
go to the error output, and only warnings and errors.
-/

namespace PipelineShell.LogSetup

/-- The file of a day. -/
def filePath (config : Config) (date : String) : Path :=
  config.logDirectory.join (utf8 (programName ++ "_" ++ date ++ ".log"))

/-- Open the file of a day, making its directory. -/
def openFile (config : Config) (fs : FileSystem) (here : Place) (date : String) :
    FileSystem × Except OsError FileSystem.Handle :=
  match fs.makeDirectories here config.logDirectory with
  | (fs, .error e) => (fs, .error e)
  | (fs, .ok ()) =>
    match fs.openForWriting here (filePath config date) true with
    | .error e => (fs, .error e)
    | .ok (handle, fs) => (fs, .ok handle)

/-- Set up the log of a session, with what the user is told. -/
def start (config : Config) (fs : FileSystem) (here : Place) (date : String) :
    FileSystem × LogSetup × List Event :=
  let level := LogLevel.ofName config.logLevel
  match openFile config fs here date with
  | (fs, .ok handle) => (fs, ⟨.file handle, level⟩, [])
  | (fs, .error e) =>
    (fs, ⟨.errors, level.stricter .warn⟩,
      [.errors (utf8 (programName ++ ": cannot open log file in " ++
        config.logDirectory.display ++ ": " ++ e.message ++ "\n"))])

/-- The text of an event on an outlet.  Records are shown there if the log has no file. -/
def textOn (log : LogSetup) (stamp : Stamp) (outlet : Outlet) : Event → Bytes
  | .output text => if outlet = .output then text else []
  | .errors text => if outlet = .errors then text else []
  | .record r =>
    if log.target.outlet? = some outlet ∧ log.admits r then stamp.format r else []

end PipelineShell.LogSetup
