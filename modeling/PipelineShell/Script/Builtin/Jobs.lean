import PipelineShell.Script.Builtin.Signals

/-!
# Commands about processes that run beside a script

The list of a process has its latest jobs first.
-/

namespace PipelineShell.Script.Builtin

open Run

/-- The jobs of this process. -/
def ownJobs : Run (List Job) := do
  let s ← get
  return s.jobs.filter fun j => j.owner = s.number

def changeJob (number : Nat) (change : Job → Job) : Run Unit :=
  modify fun s => { s with jobs := s.jobs.map fun j => if j.number = number then change j else j }

def dropJob (number : Nat) : Run Unit :=
  modify fun s => { s with jobs := s.jobs.filter fun j => j.number != number }

/-- The place of a new job: the first one that is free, or whose job is over. -/
def freePlace : Run Nat := do
  let own ← ownJobs
  let isOver (j : Job) : Bool := j.waited && j.state.hasEnded
  let free (place : Nat) : Bool := !own.any fun j => j.place = place && !isOver j
  let place := ((List.range (own.length + 1)).find? fun i => free (i + 1)).getD 0 + 1
  for j in own do if j.place = place then dropJob j.number
  return place

/-- Put a new process beside this one. -/
def addJob (number : Nat) (process : Process) (body : Command) : Run Unit := do
  let place ← freePlace
  modify fun s => { s with
    jobs := { number, owner := s.number, place, state := .waiting process body } :: s.jobs
    lastBackground := some number }

def endingShown : JobState → String
  | .waiting _ _ => "Running"
  | .ended (.exited 0) => "Done"
  | .ended (.exited status) => "Done(" ++ toString status ++ ")"
  | .ended (.killed signal) => endingText signal

/-- Show a job; one that has ended is then forgotten. -/
def showJob (withNumber numberOnly : Bool) (j : Job) : Run Unit := do
  if numberOnly then printLine (named (toString j.number))
  else
    let own ← ownJobs
    let isAt (i : Nat) : Bool := (own[i]?).any fun other => other.number = j.number
    let sign := if isAt 0 then " + " else if isAt 1 then " - " else "   "
    let number := if withNumber then toString j.number ++ " " else ""
    let text := "[" ++ toString j.place ++ "]" ++ sign ++ number ++ endingShown j.state
    printLine (named text ++ List.replicate (33 - text.length) ' ')
  if j.state.hasEnded then dropJob j.number

def showJobs (words : Words) : Run Nat := do
  let o ← options (letters "lp") words
  let tell (j : Job) : Run Unit := showJob (o.has 'l') (o.has 'p') j
  if o.rest.isEmpty then
    for j in ← ownJobs do tell j
  else
    for word in o.rest do tell (← jobNamed word)
  return 0

/-- Jobs cannot be moved without a terminal. -/
def moveJob (words : Words) : Run Nat := do
  let word := (← plainWords words).headD ['%']
  discard (jobNamed word)
  fail (named "job " ++ word ++ named " not created under job control")

section

-- `finish` runs a job to its end.
variable (finish : Job → Run Ending)

/-- Wait for all jobs. -/
def waitForAll : Run Nat := do
  for j in (← ownJobs).reverse do
    discard (finish j)
    changeJob j.number fun j => { j with waited := true }
  return 0

/-- Wait for the jobs that words name; the status is that of the last one. -/
def waitForEach : (status : Nat) → Words → Run Nat
  | status, [] => return status
  | _, word :: rest => do
    let job? ← match word with
      | '%' :: _ => pure (some (← jobNamed word))
      | _ =>
        let n ← number word
        pure ((← ownJobs).find? fun j => j.number = n)
    match job? with
    | none => waitForEach 127 rest
    | some j =>
      let ending ← finish j
      if !j.state.hasEnded || !j.waited then tellEnding ending
      changeJob j.number fun j => { j with waited := true }
      waitForEach ending.status rest

def wait (words : Words) : Run Nat := do
  match ← plainWords words with
  | [] => waitForAll finish
  | words => waitForEach finish 127 words

end

end PipelineShell.Script.Builtin
