import PipelineShell.Script.Builtin.Jobs
import PipelineShell.Script.Grammar
import PipelineShell.Script.Redirect

/-!
# Running texts and processes

A text is run command by command, so that what a command changes has an effect
on how the next one is read.  A process ends when its last command has been run,
and then also what it has set for its end.
-/

namespace PipelineShell.Script.Run

open Builtin

section

-- `self` runs a command; it is told how the command stands.
variable (self : Standing → Command → Run Nat)

/-! ### Texts -/

/-- What can be fetched from an open file. -/
def inputText (s : State) (number : Nat) : List Char :=
  Octets.ofBytes ((s.input number).toOption.getD .empty).first

/-- Run what is read from a source.  More of it may have to be fetched from an
open file. -/
def runSource (w : Standing) (input : Option Nat) :
    (fuel : Nat) → (status : Nat) → Source → Run Nat
  | 0, _, _ => exhausted
  | fuel + 1, status, source => do
    let s ← get
    let source := { source with
      showsLines := s.has "verbose", shown := []
      beyond := (input.map (inputText s)).getD [], fetched := 0 }
    let (result, r) := Read.nextCommand.run
      { source, aliases := s.aliases, documents := s.documents }
    modify fun s => { s with documents := r.documents, reached := r.source.line }
    if let some number := input then modify fun s => s.take number r.source.fetched
    if !r.source.shown.isEmpty then complain r.source.shown.reverse.flatten
    match result with
    | .error message =>
      modify fun s => { s with line := r.source.line }
      failWith ("Syntax error: " ++ message)
    | .ok none => return status
    | .ok (some c) =>
      let isLast := w.last && r.pushedBack && r.last = .endOfText
      let next ← self { w with last := isLast } c
      let status := match c with
        | .nothing => status
        | _ => next
      if (← get).skip != .none then return status
      else runSource w input fuel status r.source

/-- Run a text of its own. -/
def runText (w : Standing) (text : List Char) : Run Nat := do
  let reached := (← get).reached
  let status ← runSource self w none Source.readingLimit 0 (Source.ofText text)
  modify fun s => { s with reached }
  return status

/-- What leaves a function also leaves a file. -/
def endReturn : Run Unit :=
  modify fun s => match s.skip with
    | .back _ => { s with skip := .none }
    | _ => s

/-- Run the lines of an open file. -/
def runInput (number : Nat) : Run Nat := do
  let reached := (← get).reached
  let status ← runSource self {} (some number) Source.readingLimit 0 {}
  endReturn
  modify fun s => { s with reached }
  return status

/-- A number that commands cannot name. -/
def hiddenNumber (s : State) : Nat := (s.descriptors.map Prod.fst).foldl max 9 + 1

/-- Open a file under a number that commands cannot name, and use it. -/
def withFile {α : Type} (path : List Char) (use : Nat → Run α) : Run α := do
  let number := hiddenNumber (← get)
  keeping [number] do
    openToRead number path
    use number

/-! ### Signals and the end of a process -/

/-- Run the text of a trap. -/
def runTrap (status : Nat) (text : List Char) : Run Unit := do
  discard (runText self {} text)
  if (← get).skip != .back true then setStatus status

/-- Do what has been set for signals that have come. -/
def heed : Run Unit := do
  let s ← get
  if s.signals.any fun p => p.1 = s.number then
    receiveAll
    let s ← get
    let mine := (List.range signalNames.length).filter fun n => s.signals.contains (s.number, n)
    let outer := s.trapStatus
    let status := outer.getD s.status
    modify fun s => { s with trapStatus := some status }
    for signal in mine do
      if (← get).skip = .none then
        modify fun s => { s with signals := s.signals.filter (· != (s.number, signal)) }
        match (← get).traps.lookup signal with
        | some text => runTrap self status text
        | none => pure ()
    modify fun s => { s with trapStatus := outer }

/-- Run what has been set for the end of the process. -/
def runLast : Run Ending := do
  let s ← get
  let text := (s.traps.lookup 0).getD []
  let ended (status : Nat) : Ending := .exited (status % 256)
  if text.isEmpty then return ended s.status
  else
    set { s with skip := .none, loops := 0, tracing := false, trapStatus := some s.status }
    setTrap 0 none
    try
      discard (runText self {} text)
      return ended s.status
    catch
      | .exit | .error => return ended (← get).status
      | .killed signal => return .killed signal
      | .replaced ending => return ending

/-- Run an action as all that a process does.  Jobs that nobody has waited for
are run at the end; so deep can they have jobs of their own. -/
def toEnd : (depth : Nat) → Run Unit → Run Ending
  | 0, _ => return .exited 0
  | depth + 1, action => do
    let ending ← try
        action
        runLast self
      catch
        | .exit | .error => runLast self
        | .killed signal => pure (.killed signal)
        | .replaced ending => pure ending
    let number := (← get).number
    for j in (← get).jobs.reverse do
      if j.owner = number then
        match j.state with
        | .ended _ => pure ()
        | .waiting process body =>
          modify fun s => s.withProcess process
          discard (toEnd depth (discard (self { last := true } body)))
    modify fun s => { s with jobs := s.jobs.filter fun j => j.owner != number }
    return ending

/-- How deep jobs can be nested. -/
def jobDepth : Nat := 20

/-- Run a job to its end. -/
def finishJob (j : Job) : Run Ending := do
  match j.state with
  | .ended ending => return ending
  | .waiting process body =>
    let before ← get
    set (before.withProcess process)
    let ending ← toEnd self jobDepth (discard (self { last := true } body))
    modify fun s => s.withProcess before.toProcess
    changeJob j.number fun j => { j with state := .ended ending }
    return ending

/-- The process that goes on from a state as a part of it. -/
def child (number : Nat) (s : State) : State :=
  { s with
    number, around := s.number :: s.around, printed := []
    traps := s.traps.filter fun t => t.2.isEmpty }

/-- Run an action in a process of its own, up to its end. -/
def fork (prepare : State → State) (action : Run Unit) : Run Ending := do
  let before ← get
  let number ← newNumber
  modify fun s => prepare (child number s)
  let ending ← toEnd self jobDepth action
  modify fun s => s.withProcess before.toProcess
  return ending

/-- A process has been waited for.  Signals may have come in the meantime. -/
def afterWaiting (ending : Ending) : Run Nat := do
  tellEnding ending
  receiveAll
  return ending.status

/-- What a command writes, without the ends of the last lines. -/
def capture (body : Command) : Run (List Char) := do
  match body with
  | .nothing => return []
  | _ =>
    let index := (← get).channels.size
    let ending ← fork self (·.openChannel 1 (.newPipe .reader)) (discard (self { last := true } body))
    let text := Octets.ofBytes ((← get).collectedText index).first
    modify fun s => { s with
      substituted := ending.status, channels := s.channels.setIfInBounds index (.newPipe .reader) }
    discard (afterWaiting ending)
    let kept := (text.filter (· != '\x00')).reverse.dropWhile (· == '\n')
    return kept.reverse

end

end PipelineShell.Script.Run
