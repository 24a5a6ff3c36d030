import PipelineShell.Flow
import PipelineShell.Script.Invocation

/-!
# Running commands

A command is run by a step that hands its parts to `self`, the same with less
fuel.  A pipeline is run again until the room in its pipes is right.
-/

namespace PipelineShell.Script.Run

open Builtin

/-- How often a loop can go around. -/
def maxRounds : Nat := 10000000

/-- How deep commands can be nested. -/
def maxDepth : Nat := 20000

/-- The signal for a process whose memory is full. -/
def memorySignal : Nat := 11

section

variable (self : Standing → Command → Run Nat)

/-! ### Loops -/

/-- How a loop goes on after a command in it. -/
inductive After where
  | goOn | again | leave
  | back (chosen : Bool)
  deriving DecidableEq, Repr

/-- What a command says about the loop around it. -/
def afterCommand : Run After := do
  let s ← get
  match s.skip with
  | .none => return .goOn
  | .leave n =>
    set { s with skip := if n ≤ 1 then .none else .leave (n - 1) }
    return .leave
  | .again n =>
    if n ≤ 1 then
      set { s with skip := .none }
      return .again
    else
      set { s with skip := .again (n - 1) }
      return .leave
  | .back chosen => return .back chosen

def runLoop (w : Standing) (endsWhenTrue : Bool) (condition body : Command) :
    (rounds : Nat) → (status : Nat) → Run Nat
  | 0, _ => exhausted
  | rounds + 1, status => do
    let asked ← self .asked condition
    match ← afterCommand with
    | .again => runLoop w endsWhenTrue condition body rounds status
    | .leave => return status
    | .back chosen => return if chosen then asked else status
    | .goOn =>
      if (asked = 0) = endsWhenTrue then return status
      else
        let status ← self w body
        match ← afterCommand with
        | .goOn | .again => runLoop w endsWhenTrue condition body rounds status
        | _ => return status

def runEach (w : Standing) (name : Name) (body : Command) : (status : Nat) → Words → Run Nat
  | status, [] => return status
  | _, value :: rest => do
    assign name value
    let status ← self w body
    match ← afterCommand with
    | .goOn | .again => runEach w name body status rest
    | _ => return status

/-- Run a loop inside those that are running. -/
def looping (action : Run Nat) : Run Nat := do
  modify fun s => { s with loops := s.loops + 1 }
  let status ← action
  modify fun s => { s with loops := s.loops - 1 }
  return status

/-! ### Choices and lists -/

def runChoice (w : Standing) (subject : List Char) : List (List Word × Command) → Run Nat
  | [] => return 0
  | (patterns, body) :: rest => do
    let fits ← patterns.anyM fun p => do
      return (← expandPattern (capture self) p).fits subject
    if fits then
      match body with
      | .nothing => return 0
      | body => self w body
    else runChoice w subject rest

/-- Commands that follow each other. -/
def inOrder : Command → List Command
  | .sequence first second => inOrder first ++ [second]
  | c => [c]

/-- Run commands one after another, as long as nothing is left out. -/
def runAll (w : Standing) : (status : Nat) → List Command → Run Nat
  | status, [] => return status
  | _, c :: rest => do
    if rest.isEmpty then
      let status ← self w c
      setStatus status
      return status
    else
      let status ← self w.inner c
      if (← get).skip != .none then return status else runAll w status rest

/-! ### Processes -/

/-- The name of the program that a stage of a pipeline will need. -/
def foreseenName? : Command → Option Name
  | .simple _ _ (w :: _) _ => (Word.literal? w).filter isName
  | _ => none

/-- From one state to another nothing has changed that others can see but the
channel at an index. -/
def isQuiet (before after : State) (index : Nat) : Bool :=
  let others (s : State) : List Channel :=
    (s.channels.toList.take before.channels.size).eraseIdx index
  before.files.nodes == after.files.nodes && before.files.shown == after.files.shown &&
    others before == others after && before.signals == after.signals

/-- Stages of a pipeline that have run. -/
structure Passage where
  /-- the status of the last stage -/
  status : Nat
  /-- how much the first stage has taken from its pipe -/
  taken : Nat
  /-- what has gone through the pipes between the stages -/
  flows : List Flow

/-- Run the stages of a pipeline that are left, on the output of the stage
before, with so much room in the pipes between them. -/
def runStages (w : Standing) (input : Option Stream) :
    (rooms : List Nat) → List Command → Run Passage
  | _, [] => return ⟨0, 0, []⟩
  | rooms, stage :: rest => do
    if let some name := foreseenName? stage then Search.foresee name
    let before ← get
    let isLast := rest.isEmpty
    let written := before.channels.size
    let read := if isLast then written else written + 1
    let prepare (s : State) : State :=
      let s := if isLast then s else s.openChannel 1 (.newPipe (.leaving (rooms.headD 0)))
      match input with
      | some text => s.openChannel 0 (.ofText text)
      | none => s
    let ending ← fork self prepare (discard (self { w with last := true } stage))
    tellEnding ending
    let after ← get
    let taken := (after.channels[read]?).elim 0 Channel.takenFrom
    modify fun s => { s with channels := s.channels.setIfInBounds read (.newPipe .reader) }
    if isLast then return ⟨ending.status, taken, []⟩
    else
      let output := after.collectedText written
      let isCut := (after.channels[written]?).any Channel.isCut
      modify fun s => { s with channels := s.channels.setIfInBounds written (.newPipe .reader) }
      let later ← runStages w (some output) (rooms.drop 1) rest
      let flow : Flow :=
        { written := output.first.length, endless := output.isEndless, isCut
          isQuiet := isCut && isQuiet before after written, taken := some later.taken }
      return { later with taken, flows := flow :: later.flows }

/-- Run a pipeline until the room in its pipes is right; hands back the status of
the last stage. -/
def settle (w : Standing) (stages : List Command) : (tries : Nat) → (rooms : List Nat) → Run Nat
  | 0, rooms => do return (← runStages self w none rooms stages).status
  | tries + 1, rooms => do
    let before ← get
    let passage ← runStages self w none rooms stages
    match Flow.corrected? rooms passage.flows with
    | none => return passage.status
    | some rooms =>
      set before
      settle w stages tries rooms

def runPipeline (w : Standing) (stages : List Command) : Run Nat := do
  let status ← settle self w stages Flow.maxTries (Flow.firstRooms (stages.length - 1))
  receiveAll
  return status

/-- Run a command in a process of its own, with redirections. -/
def runApart (w : Standing) (line : Nat) (body : Command) (redirections : List Redirection) :
    Run Nat := do
  modify fun s => { s with line }
  let rs ← redirections.mapM (expandRedirection (capture self))
  let action : Run Nat := do
    redirectAll (capture self) rs
    self { w with last := true } body
  if w.last && isPlain (← get) then action
  else
    let ending ← fork self id (discard action)
    afterWaiting ending

/-- Signals that do nothing to processes beside a script. -/
def backgroundDeaf : List Nat := [2, 3]

/-- Start a command beside the script. -/
def runBeside (body : Command) : Run Nat := do
  let number ← newNumber
  let s ← get
  let opened := (child number s).openChannel 0 (.file (.device .null) ⟨true, false⟩)
  set { opened.withProcess s.toProcess with channels := opened.channels }
  addJob number { opened.toProcess with deaf := s.deaf ++ backgroundDeaf } body
  return 0

/-! ### One step -/

/-- Run a command; hands back its status and whether it is one that can end the
script by a failure. -/
def runCommand (w : Standing) : Command → Run Nat
  | .nothing => return 0
  | .simple line assignments words redirections =>
    runSimple self w line assignments words redirections
  | .pipe false stages => runPipeline self w stages
  | .pipe true stages => runBeside (.pipe false stages)
  | .background line body redirections => do
    modify fun s => { s with line }
    runBeside (if redirections.isEmpty then body else .redirected line body redirections)
  | .subshell line body redirections => runApart self w line body redirections
  | .negate body => do
    let status ← self .asked body
    if (← get).skip != .none then return status
    return if status = 0 then 1 else 0
  | .redirected line body redirections => do
    modify fun s => { s with line }
    let rs ← redirections.mapM (expandRedirection (capture self))
    redirected (rs.map (·.number)) false do
      if ← redirectSafely (capture self) rs then self w.inner body else return 2
  | .loop endsWhenTrue condition body =>
    looping (runLoop self w.inner endsWhenTrue condition body maxRounds 0)
  | .forEach line name words body => do
    modify fun s => { s with line }
    let values ← words.mapM (expandFields (capture self))
    looping (runEach self w.inner name body 0 values.flatten)
  | .choose line subject arms => do
    modify fun s => { s with line }
    runChoice self w (← expandText (capture self) subject) arms
  | .define _ name body => do
    modify fun s =>
      { s with functions := (name, body) :: s.functions.filter fun f => f.1 != name }
    return 0
  | c => self w c

/-- A command whose failure can end the script. -/
def endsOnFailure : Command → Bool
  | .simple .. | .subshell .. | .background .. | .pipe .. => true
  | _ => false

/-- One step of running a command. -/
def runStep (w : Standing) (c : Command) : Run Nat := do
  let leave (status : Nat) : Run Nat := do
    heed self
    return status
  let done (status : Nat) : Run Nat := do
    setStatus status
    leave status
  if (← get).has "noexec" then leave 0
  else
    match c with
    | .nothing => leave 0
    | .sequence first second =>
      heed self
      leave (← runAll self w 0 (inOrder (.sequence first second)))
    | .andThen first second =>
      heed self
      let status ← self .asked first
      if status != 0 || (← get).skip != .none then leave status else done (← self w second)
    | .orElse first second =>
      heed self
      let status ← self .asked first
      if status = 0 || (← get).skip != .none then leave status else done (← self w second)
    | .conditional condition thenPart elsePart =>
      heed self
      let status ← self .asked condition
      if (← get).skip != .none then leave status
      else if status = 0 then done (← self w thenPart)
      else match elsePart with
        | some elsePart => done (← self w elsePart)
        | none => done 0
    | c =>
      heed self
      let status ← done (← runCommand self w c)
      if endsOnFailure c && !w.tested && status != 0 && (← get).has "errexit" then throw .exit
      return status

end

/-- Run a command that is nested at most so deep. -/
def evaluate : (depth : Nat) → Standing → Command → Run Nat
  | 0, _, _ => throw (.killed memorySignal)
  | depth + 1, w, c => runStep (evaluate depth) w c

end PipelineShell.Script.Run
