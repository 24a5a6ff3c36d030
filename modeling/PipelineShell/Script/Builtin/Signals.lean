import PipelineShell.Script.Builtin.Words

/-!
# Commands about signals

A process can be sent a signal by its number.  What it does then can be set; if
nothing is set, most signals end it.
-/

namespace PipelineShell.Script.Builtin

open Run

/-! ### Names -/

/-- The names of signals by their numbers; zero stands for the end of a process. -/
def signalNames : List String :=
  ["EXIT", "HUP", "INT", "QUIT", "ILL", "TRAP", "ABRT", "BUS", "FPE", "KILL", "USR1", "SEGV",
    "USR2", "PIPE", "ALRM", "TERM", "16", "CHLD", "CONT", "STOP", "TSTP", "TTIN", "TTOU", "URG",
    "XCPU", "XFSZ", "VTALRM", "PROF", "WINCH", "IO", "PWR", "SYS", "32", "33", "RTMIN"] ++
  (List.range 15).map (fun n => "RTMIN+" ++ toString (n + 1)) ++
  (List.range 14).map (fun n => "RTMAX-" ++ toString (14 - n)) ++ ["RTMAX"]

def signalName (signal : Nat) : List Char := named (signalNames.getD signal "")

/-- The signal that a word names, by its number or its name. -/
def signal? (first : Nat) (word : List Char) : Option Nat :=
  if !word.isEmpty && word.all Char.isDigit then
    let n := Octets.decimal word
    if n < signalNames.length then some n else none
  else
    let upper := String.ofList (word.map Char.toUpper)
    (signalNames.zipIdx.find? fun (name, n) => first ≤ n && name == upper).map Prod.snd

/-- How the end by a signal is told. -/
def endingTexts : List (Nat × String) :=
  [(1, "Hangup"), (2, "Interrupt"), (3, "Quit"), (4, "Illegal instruction"),
    (5, "Trace/breakpoint trap"), (6, "Aborted"), (7, "Bus error"), (8, "Floating point exception"),
    (9, "Killed"), (10, "User defined signal 1"), (11, "Segmentation fault"),
    (12, "User defined signal 2"), (13, "Broken pipe"), (14, "Alarm clock"), (15, "Terminated"),
    (16, "Stack fault"), (24, "CPU time limit exceeded"), (25, "File size limit exceeded"),
    (26, "Virtual timer expired"), (27, "Profiling timer expired"), (29, "I/O possible"),
    (30, "Power failure"), (31, "Bad system call")]

def endingText (signal : Nat) : String :=
  (endingTexts.lookup signal).getD (if signal < 34 then "Unknown signal " ++ toString signal
    else "Real-time signal " ++ toString (signal - 34))

/-- A process that has been waited for has ended by a signal. -/
def tellEnding (ending : Ending) : Run Unit :=
  match ending with
  | .killed signal =>
    if signal = 2 ∨ signal = pipeSignal then pure () else complain (named (endingText signal) ++ ['\n'])
  | .exited _ => pure ()

/-! ### Being sent a signal -/

/-- Signals have come from other processes. -/
def receiveAll : Run Unit := do
  let s ← get
  let mine := (s.signals.filter fun p => p.1 = s.number && (s.traps.lookup p.2).isNone).map (·.2)
  if !mine.isEmpty then
    modify fun s => { s with
      signals := s.signals.filter fun p => p.1 != s.number || !mine.contains p.2 }
    for signal in mine do receive signal

/-! ### Sending -/

/-- Send a signal; tells whether there is such a process. -/
def send (target signal : Nat) : Run Bool := do
  let s ← get
  if target = s.number then
    receive signal
    return true
  else if s.around.contains target then
    modify fun s => { s with signals := s.signals ++ [(target, signal)] }
    return true
  else match s.jobs.find? fun j => j.number = target && !j.waited with
    | none => return false
    | some job =>
      match job.state with
      | .waiting process _ =>
        let isDeaf := signal != 9 && (signal = 0 || process.deaf.contains signal ||
          process.traps.lookup signal == some [] || harmless.contains signal)
        if !isDeaf then
          modify fun s => { s with jobs := s.jobs.map fun j =>
            if j.number = target then { j with state := .ended (.killed signal) } else j }
      | .ended _ => pure ()
      return true

def killUsage : String :=
  "Usage: kill [-s sigspec | -signum | -sigspec] [pid | job]... or\nkill -l [exitstatus]"

def listSignals (words : Words) : Run Nat := do
  match words with
  | [] =>
    printLine ['0']
    for name in signalNames.drop 1 do printLine (named name)
  | word :: _ =>
    let n ← number word
    let n := if n > 128 then n - 128 else n
    if n = 0 ∨ signalNames.length ≤ n then
      fail (named "invalid signal number or exit status: " ++ word)
    printLine (signalName n)
  return 0

/-- The job that a word names. -/
def jobNamed (word : List Char) : Run Job := do
  let s ← get
  let own := s.jobs.filter fun j => j.owner = s.number
  let found := match word with
    | ['%'] | ['%', '%'] | ['%', '+'] => (own.head?, "No current job")
    | ['%', '-'] => ((own.drop 1).head?, "No previous job")
    | '%' :: rest => (own.find? fun j => named (toString j.place) = rest, "")
    | _ => (none, "")
  match found with
  | (some job, _) => return job
  | (none, "") => fail (named "No such job: " ++ word)
  | (none, message) => failWith message

def sendAll (signal : Nat) (words : Words) : Run Nat := do
  let mut status := 0
  for word in words do
    let reached ← match word with
      | '%' :: _ =>
        discard (jobNamed word)
        pure false
      | '-' :: digits =>
        discard (number digits)
        pure false
      | _ => send (← number word) signal
    if !reached then
      report (named "No such process\n")
      status := 1
  return status

def kill (words : Words) : Run Nat := do
  let direct := match words with
    | ('-' :: word) :: rest => (signal? 1 word).map fun signal => (signal, rest)
    | _ => none
  let finish (signal : Nat) (words : Words) : Run Nat :=
    if words.isEmpty then failWith killUsage else sendAll signal words
  match direct with
  | some (signal, rest) => finish signal rest
  | none =>
    let o ← if words.head?.any (·.head? == some '-') then options [('l', false), ('s', true)] words
      else pure { rest := words }
    let mut signal := none
    for (letter, word) in o.given do
      if letter = 's' then
        match signal? 1 word with
        | none => fail (named "invalid signal number or name: " ++ word)
        | some n => signal := some n
    if o.has 'l' then
      if signal.isSome && !o.rest.isEmpty then failWith killUsage else listSignals o.rest
    else finish (signal.getD 15) o.rest

/-! ### Setting what is done -/

def setTrap (signal : Nat) (action : Option (List Char)) : Run Unit :=
  modify fun s =>
    let others := s.traps.filter fun t => t.1 != signal
    { s with traps := match action with
        | some text => (signal, text) :: others
        | none => others }

/-- Set what is done at signals, up to a word that names none. -/
def setTraps (action : Option (List Char)) : Words → Run Nat
  | [] => return 0
  | word :: rest => do
    match signal? 0 word with
    | none =>
      complain (named "trap: " ++ word ++ named ": bad trap\n")
      return 1
    | some signal =>
      setTrap signal action
      setTraps action rest

def trap (words : Words) : Run Nat := do
  let isNumber (word : List Char) : Bool :=
    !word.isEmpty && word.all Char.isDigit && (signal? 0 word).isSome
  match ← plainWords words with
  | [] =>
    for (signal, text) in (← get).traps.mergeSort fun a b => a.1 ≤ b.1 do
      printLine (named "trap -- " ++ quoted text ++ ' ' :: signalName signal)
    return 0
  | [word] => setTraps none [word]
  | action :: rest =>
    if isNumber action then setTraps none (action :: rest)
    else setTraps (if action = ['-'] then none else some action) rest

end PipelineShell.Script.Builtin
