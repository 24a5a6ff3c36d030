import PipelineShell.Executor
import PipelineShell.Script.Evaluation

/-!
# Starting programs

A program is started in its directory: first the directory is entered, and then
the path of the program is followed from there.  What it writes to a file goes
there at once; what it writes elsewhere is collected and handed on when it has
ended.
-/

namespace PipelineShell

namespace Launch

def stdinChannel : Nat := 0
def stdoutChannel : Nat := 1
def stderrChannel : Nat := 2

/-- The channel behind a sink. -/
def sinkChannel : Sink → Channel
  | .file handle => .writing handle
  | .pipe room => .newPipe (.leaving room)
  | .terminal => .newPipe .terminal

/-- How long the input of the terminal is. -/
def terminalLength (files : FileSystem) : Nat :=
  match files.get? FileSystem.terminalInput with
  | some (.file content _) => content.length
  | _ => 0

/-- The channel of an input.  The input of the terminal is a file, of which the
rest is what nobody has read. -/
def inputChannel (files : FileSystem) : Input → Channel
  | .piped text => .ofText text
  | .terminal rest =>
    .file (.atOffset FileSystem.terminalInput (terminalLength files - rest.length)) ⟨true, false⟩

/-- The number of the process of a program. -/
def firstNumber : Nat := 2

/-- The files that are open for writing while programs are started. -/
def heldLocations (launch : Launch) : List Location :=
  (launch.held.map Channel.writing).toList.filterMap Channel.writtenLocation?

/-- The process of a program that runs. -/
def process (launch : Launch) (env : Environment) (place : Place) (setting : Setting) :
    Script.State :=
  { number := firstNumber
    root := firstNumber
    name := Octets.ofBytes (utf8 launch.name)
    params := []
    bindings := env.bindings.map fun (name, value) =>
      (Octets.ofBytes name, { value := some (Octets.ofBytes value), exported := true })
    descriptors := [(0, stdinChannel), (1, stdoutChannel), (2, stderrChannel)]
    place
    directory := Location.path place.location
    files := setting.files
    nextNumber := firstNumber + 1
    channels := #[inputChannel setting.files setting.input, sinkChannel launch.stdout,
      sinkChannel launch.stderr]
    held := launch.heldLocations }

/-- How much of its input a program has taken. -/
def takenBy (files : FileSystem) (s : Script.State) : Input → Nat
  | .piped _ => (s.channels[stdinChannel]?).elim 0 Channel.takenFrom
  | .terminal rest =>
    match s.channels[stdinChannel]? with
    | some (.file (.atOffset _ offset) _) => offset - (terminalLength files - rest.length)
    | _ => 0

/-- What is left of a process that has ended. -/
def finish (setting : Setting) (s : Script.State) : Finished :=
  { output := s.collectedText stdoutChannel
    errors := (s.collectedText stderrChannel).first
    isCut := (s.channels[stdoutChannel]?).any Channel.isCut
    files := s.files
    consumed := takenBy setting.files s setting.input }

/-- Start a program in its directory. -/
def start (env : Environment) (here : Place) (files : FileSystem) (launch : Launch) :
    Except OsError Started :=
  let args := launch.args.map utf8
  if launch.directory.contains 0 || args.any (·.contains 0) then .error .zeroInArgument
  else match files.locateDirectory here launch.directory with
    | .error e => .error e
    | .ok place =>
      let bindings := env.bindings.map Environment.entry
      match Program.image files place launch.heldLocations bindings launch.program
          (utf8 launch.name) args with
      | .error e => .error e
      | .ok image =>
        let action := Script.Run.runImage (Script.Run.evaluate Script.Run.maxDepth) image
        .ok fun setting =>
          finish setting (action.run.run (launch.process env place setting)).2

end Launch

/-- Programs started from a place with an environment. -/
def launcherFor (env : Environment) (here : Place) : Launcher := Launch.start env here

end PipelineShell
