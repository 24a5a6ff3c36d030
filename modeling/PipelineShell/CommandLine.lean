import PipelineShell.Session
import PipelineShell.LogFile

/-!
# The program as a whole

The program reads its settings, opens its log, runs a session, and ends with an
exit code.
-/

namespace PipelineShell.CommandLine

/-- What the program leaves behind. -/
structure Report where
  code : Nat
  output : Bytes
  errors : Bytes
  files : FileSystem

/-- What the system shows of a program that ends by a reading failure. -/
def readFailure : Bytes :=
  utf8 ("Error: Io(Error \x7b kind: InvalidData, message: " ++
    Text.quoted OsError.invalidText.message ++ " \x7d)\n")

/-- Run the program; `terminal` tells whether its output is a terminal. -/
def run (launcher : Environment → Place → Launcher) (terminal : Bool) (process : Session.Process)
    (stamp : Stamp) : Report :=
  let env := EnvFile.load process.env process.files process.here
  let config := Config.ofEnvironment env
  let (files, log, opening) := LogSetup.start config process.files process.here stamp.date
  let (files, ensuring) := config.ensureHistoryDirectory files process.here
  let records := LogRecord.debug ("日志级别设置为: " ++ log.level.name) :: ensuring ++
    [.debug ("配置加载成功 " ++ config.directory.display)]
  let files := log.store stamp files records
  let (world, events, ending) := Session.perform launcher config (usesColour env terminal)
    { process with env, files } { setup := log, stamp }
  let all := opening ++ records.map Event.record ++ events
  let failed := ending = .unreadable
  { code := if failed then 1 else 0
    output := all.flatMap (log.textOn stamp .output)
    errors := all.flatMap (log.textOn stamp .errors) ++ if failed then readFailure else []
    files := world.flush.files }

end PipelineShell.CommandLine
