import PipelineShell.Program.Tool
import PipelineShell.Script.Builtin.Variables
import PipelineShell.Script.Search
import PipelineShell.Script.Texts

/-!
# Becoming a program

A process becomes a program of the system, or a shell.  A shell knows nothing of
what was before but the variables that are exported, the open files, the
directory and what is deaf to signals.
-/

namespace PipelineShell.Script.Run

open Builtin

/-! ### What a shell begins with -/

/-- Variables that every shell has. -/
def firstVariables : List (String × String) :=
  [("IFS", " \t\n"), ("PATH", Search.standardList), ("PS1", "# "), ("PS2", "> "), ("PS4", "+ "),
    ("OPTIND", "1")]

/-- Variables whose values from outside do not count. -/
def ownVariables : List String := ["IFS", "OPTIND"]

/-- The variables of a shell, from those that it is given. -/
def startingVariables (given : List (Name × List Char)) (parent : Nat) :
    List (Name × Variable) :=
  let given := given.filter fun p => isName p.1
  let fixed := firstVariables ++ [("PPID", toString parent)]
  let others := given.filter fun p => (fixed.lookup (String.ofList p.1)).isNone
  fixed.map (fun (name, value) =>
    let outside := given.lookup (named name)
    let value := if ownVariables.contains name || name = "PPID" then named value
      else outside.getD (named value)
    (named name, { value := some value, exported := outside.isSome })) ++
  others.map fun (name, value) => (name, { value := some value, exported := true })

/-- The path of the directory at the start: the one that is given, if it leads there. -/
def startingDirectory (s : State) : Path :=
  let actual := Location.path s.place.location
  match s.get? (named "PWD") with
  | none => actual
  | some path =>
    let path : Path := Octets.toBytes path
    match if Path.isAbsolute path then s.files.locateDirectory s.place path else .error .notFound with
    | .ok place => if place = s.place then path else actual
    | .error _ => actual

/-- The state of a shell that begins in a process. -/
def startingState (s : State) (name : List Char) : State :=
  let given := s.exportedVariables.map fun (name, value) => (Octets.ofBytes name, Octets.ofBytes value)
  let process : Process :=
    { number := s.number, root := s.number, around := s.around, name, params := []
      bindings := startingVariables given (s.around.headD 1)
      descriptors := s.descriptors, place := s.place, directory := [], line := 0, mask := s.mask
      deaf := s.deaf ++ (s.traps.filter fun t => t.2.isEmpty).map Prod.fst }
  let s := s.withProcess process
  let directory := startingDirectory s
  let pwd : Variable := { value := some (Octets.ofBytes directory), exported := true }
  { s.setVariable (named "PWD") pwd with directory }

section

variable (self : Standing → Command → Run Nat)

/-! ### Shells -/

/-- The end of an input means nothing if the options say so; it is asked for a
few times. -/
def askForExit : Run Unit := do
  if (← get).has "ignoreeof" then
    let text := named "\nUse \"exit\" to leave shell.\n"
    complain (List.replicate 50 text).flatten

def runMain (number : Nat) : Run Unit := do
  discard (runInput self number)
  if (← get).skip = .none then askForExit

/-- Run what the words of a shell name: a text, a file or the input. -/
def runShell (words : Words) : Run Unit := do
  let (start, rest) ← readShellOptions true words
  checkMonitor
  if start.fromWord then
    match rest with
    | [] => failWith "-c requires an argument"
    | text :: rest =>
      modify fun s => { s with name := rest.headD s.name }
      setParams (rest.drop 1)
      let hasInput := (← get).has "stdin"
      discard (runText self { last := !hasInput } text)
      if hasInput then runMain self 0
  else
    let s ← get
    match rest with
    | file :: params =>
      if s.has "stdin" then
        setParams rest
        runMain self 0
      else
        withFile file fun number => do
          modify fun s => { s with name := file }
          setParams params
          runMain self number
    | [] =>
      setOption true "stdin"
      runMain self 0

/-! ### Programs -/

/-- Write what a program writes, up to a text that nobody reads: that text and
what comes after it. -/
def handOn : List Program.Write → Run (List Program.Write)
  | [] => return []
  | .output text :: rest => do
    let (result, s) := (← get).write 1 text
    set s
    match result with
    | .error .brokenPipe => return .output text :: rest
    | _ => handOn rest
  | .errors text :: rest => do
    complain (Octets.ofBytes text)
    handOn rest

/-- Run a program of the system.  If its reader goes away, a signal ends it, or
it tells what it could not write. -/
def runTool (behaviour : Program.Behaviour) (image : Program.Image) : Run Ending := do
  let s ← get
  let call : Program.Call :=
    { name := image.name, args := image.args, descriptors := s.openChannels, files := s.files
      here := s.place }
  let result := behaviour.perform call
  modify fun s => { s with
    files := result.files.getD s.files, traps := s.traps.filter fun t => t.2.isEmpty }
  let lost ← handOn result.writes
  if lost.isEmpty then
    modify fun s => s.take 0 result.taken
    return .exited result.status
  else
    let room := (call.channel? 1).elim 0 Channel.room
    modify fun s => s.take 0 (behaviour.takenBefore call room result)
    receive pipeSignal
    let told := behaviour.unwritable call .brokenPipe { result with writes := lost }
    discard (handOn told.writes)
    return .exited told.status

/-- Let this process be a program up to its end. -/
def runImage (image : Program.Image) : Run Ending :=
  match Program.tools.lookup image.program with
  | some behaviour => runTool behaviour image
  | none => do
    modify fun s => startingState s (Octets.ofBytes image.name)
    toEnd self jobDepth (runShell self (image.args.map Octets.ofBytes))

/-- The path of the shell that reads files of no known format. -/
def shellPath : String := "/bin/sh"

/-- What the first of some paths starts that starts something; files of no known
format are read by a shell. -/
def imageAmong (s : State) (name : List Char) (args : Words) :
    (paths : Words) → OsError → Except OsError Program.Image
  | [], e => .error e
  | path :: rest, e =>
    let written := s.held ++ s.openChannels.filterMap fun (_, c) => c.writtenLocation?
    let bindings := s.exportedVariables.map fun binding => Environment.entry binding
    let image (path : List Char) (name : List Char) (args : Words) : Except OsError Program.Image :=
      Program.image s.files s.place written bindings (Octets.toBytes path) (Octets.toBytes name)
        (args.map Octets.toBytes)
    match image path name args with
    | .ok image => .ok image
    | .error .unknownFormat => image (named shellPath) (named shellPath) (path :: args)
    | .error .notFound | .error .notDirectory => imageAmong s name args rest e
    | .error e => imageAmong s name args rest e

/-- Become the program that the first word names. -/
def become {α : Type} (paths : Words) (words : Words) : Run α := do
  let name := words.headD []
  match imageAmong (← get) name (words.drop 1) paths .notFound with
  | .ok image => throw (.replaced (← runImage self image))
  | .error e =>
    report (name ++ named (": " ++ Search.failure e))
    setStatus (match e with
      | .notFound | .notDirectory | .linkLoop | .nameTooLong => 127
      | _ => 126)
    throw .exit

/-- The process has nothing to do at its end or at signals. -/
def isPlain (s : State) : Bool := s.traps.all fun t => t.2.isEmpty

/-- Run a program, in a process of its own unless nothing comes after it. -/
def runProgram (w : Standing) (standard : Bool) (words : Words) : Run Nat := do
  let name := words.headD []
  match ← Search.find standard name with
  | .error e =>
    report (name ++ named (": " ++ Search.failure e))
    return 127
  | .ok index =>
    let s ← get
    let paths := (Search.paths s standard name).drop index
    if w.last && isPlain s then become self paths words
    else
      let ending ← fork self id (become self paths words)
      afterWaiting ending

end

end PipelineShell.Script.Run
