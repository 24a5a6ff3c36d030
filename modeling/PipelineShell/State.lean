import PipelineShell.History

/-!
# What commands can change

The state that lasts from line to line: the working directory, the history and
the wish to leave.  The working directory is the shell's own; the directory of
its process never changes.
-/

namespace PipelineShell

structure ShellState where
  cwd : Path
  home : Option Path
  history : History
  exitRequested : Bool := false
  deriving DecidableEq, Repr

end PipelineShell
