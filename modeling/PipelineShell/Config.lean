import PipelineShell.EnvFile
import PipelineShell.Text.Quoted

/-!
# Settings

The settings come from environment variables, which a file near the working
directory may add to.  A variable that is not UTF-8 counts as unset, except for
the home directory itself.
-/

namespace PipelineShell

/-- The name under which the shell speaks to the user. -/
def programName : String := "pipesh"

structure Config where
  theme : String
  directory : Path
  historyFile : Path
  editorMode : String
  logLevel : String
  logDirectory : Path
  home : Option Path
  deriving DecidableEq, Repr

namespace Config

/-- Where the shell keeps its files. -/
def defaultDirectory (env : Environment) : Path :=
  match env.text? "HOME" with
  | some home => Path.join (utf8 home) (utf8 ".config/pipesh")
  | none => utf8 "tmp"

def ofEnvironment (env : Environment) : Config :=
  let directory := defaultDirectory env
  let path? (name : String) : Option Path := (env.text? name).map utf8
  { theme := (env.text? "PIPESH_THEME").getD "default"
    directory
    historyFile := ((path? "PIPESH_HISTORY").or (path? "HISTFILE")).getD
      (directory.join (utf8 ".pipesh_history"))
    editorMode := (env.text? "PIPESH_EDITOR").getD "emacs"
    logLevel := (env.text? "PIPESH_LOG_LEVEL").getD "info"
    logDirectory := (path? "PIPESH_LOG_DIR").getD (directory.join (utf8 "logs"))
    home := env.get? (utf8 "HOME") }

/-- The line editor has two modes.  No character but `V`, `v`, `I` and `i` has
`v` or `i` as its lower case, so that the ASCII case decides. -/
def usesVi (config : Config) : Bool :=
  config.editorMode.toList.map Char.toLower == ['v', 'i']

/-- Make the directory of the history file. -/
def ensureHistoryDirectory (config : Config) (fs : FileSystem) (here : Place) :
    FileSystem × List LogRecord :=
  match config.historyFile.parent? with
  | none => (fs, [])
  | some above =>
    match fs.makeDirectories here above with
    | (fs, .ok ()) => (fs, [])
    | (fs, .error e) =>
      (fs, [.warn ("无法创建历史记录目录 " ++ above.display ++ ": " ++ e.message)])

end Config

end PipelineShell
