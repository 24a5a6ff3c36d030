import PipelineShell.CommandLine
import PipelineShell.Launching
import Std.Time.Format

/-!
# The command line

The shell runs over the standard input.  It works on a file system of its own,
which begins with the programs of the system, the files of the working
directory and the files of the settings.  When a session has ended, what it has
changed in these files and what it has created is written to the machine; other
files of the machine stay as they are.
-/

namespace PipelineShell.CommandLine

/-- The variables that decide how a session runs. -/
def variableNames : List String :=
  ["HOME", "PATH", "TERM", "PWD", "LANG", "LC_ALL", "PIPESH_THEME", "PIPESH_EDITOR",
    "PIPESH_HISTORY", "HISTFILE", "PIPESH_LOG_LEVEL", "PIPESH_LOG_DIR", "CLICOLOR",
    "CLICOLOR_FORCE", "NO_COLOR"]

def readEnvironment : IO Environment := do
  let found ← variableNames.mapM fun name => do
    return (← IO.getEnv name).map fun value => (utf8 name, utf8 value)
  return ⟨found.filterMap id⟩

/-- The location of a path without links and dots. -/
def locationOf (p : Path) : Location := (p.parts.filter (fun part => !part.isEmpty)).reverse

/-- A place with the directories above it. -/
def addDirectory (files : FileSystem) (p : Path) : FileSystem :=
  (files.makeDirectories Place.root p).1

/-- Take a file over from the machine, if it is there. -/
def importFile (files : FileSystem) (p : Path) : IO FileSystem := do
  try
    let content ← IO.FS.readBinFile p.display
    let files := addDirectory files (p.parent?.getD [])
    return files.insert (locationOf p) (.file content.toList FileSystem.newFileMode)
  catch _ => return files

/-- The system as it is before the session. -/
def standardSystem : FileSystem :=
  let files := ["/usr/bin", "/dev", "/tmp"].foldl (fun files p => addDirectory files (utf8 p))
    FileSystem.empty
  let files := files.insert [utf8 "bin"] (.link (utf8 "usr/bin"))
  Program.install files

/-- The files that a session keeps. -/
def keptFiles (env : Environment) (directory : Path) (date : String) : List Path :=
  let config := Config.ofEnvironment env
  [config.historyFile, LogSetup.filePath config date].map (Path.join directory)

/-- Whether a file can be read on the machine. -/
def onMachine (name : String) : IO Bool := do
  try
    discard (IO.FS.readBinFile name)
    return true
  catch _ => return false

/-- Write to the machine what has changed, except over files that were not
taken over from it. -/
def exportChanges (before after : FileSystem) : IO Unit := do
  for (location, node) in after.nodes.reverse do
    let old := before.get? location
    if old != some node && (FileSystem.descriptorAt? location).isNone then
      let name := (Location.path location).display
      match node with
      | .directory => IO.FS.createDirAll name
      | .file content _ =>
        if old.isSome || !(← onMachine name) then IO.FS.writeBinFile name ⟨content.toArray⟩
      | _ => pure ()

partial def readAll (stdin : IO.FS.Stream) (taken : ByteArray) : IO ByteArray := do
  let block ← stdin.read 65536
  if block.isEmpty then return taken else readAll stdin (taken ++ block)

def readStamp : IO Stamp := do
  let now ← Std.Time.PlainDateTime.now
  let status ← try IO.FS.readFile "/proc/self/stat" catch _ => pure ""
  let process := ((status.splitOn " ").headD "").toNat?.getD 0
  return ⟨process, now.format "uuuu-MM-dd", now.format "HH:mm:ss"⟩

def perform : IO UInt32 := do
  let env ← readEnvironment
  let current ← IO.currentDir
  let directory := utf8 current.toString
  let entries ← try current.readDir catch _ => pure #[]
  let own := entries.toList.map fun entry => utf8 entry.path.toString
  let settings := (Path.ancestors directory).map fun above => Path.join above EnvFile.fileName
  let files ← (own ++ settings).foldlM importFile (addDirectory standardSystem directory)
  let here : Place := ⟨locationOf directory, false⟩
  let stamp ← readStamp
  let kept := keptFiles (EnvFile.load env files here) directory stamp.date
  let files ← kept.foldlM importFile files
  let stdout ← IO.getStdout
  let stderr ← IO.getStderr
  let input ← readAll (← IO.getStdin) .empty
  let process : Session.Process := ⟨env, files, here, input.toList⟩
  let report := run launcherFor (← stdout.isTty) process stamp
  stdout.write ⟨report.output.toArray⟩
  stderr.write ⟨report.errors.toArray⟩
  exportChanges files report.files
  return UInt32.ofNat report.code

end PipelineShell.CommandLine

def main : IO UInt32 := PipelineShell.CommandLine.perform
