import PipelineShell.Channel
import PipelineShell.Environment
import PipelineShell.Program.Naming
import PipelineShell.Script.Arithmetic

/-!
# The state of a running script

A process of a script has variables, arguments, functions and a directory of its
own; a process that it starts gets a copy of them.  Open files are channels.
Several numbers, also of different processes, can mean one channel, and then
share its place in the input.  The files and the channels belong to all.
-/

namespace PipelineShell.Script

/-- A variable without a value can still have a role. -/
structure Variable where
  value : Option (List Char)
  exported : Bool := false
  fixed : Bool := false
  deriving Repr

/-- Commands that are left out up to the end of something. -/
inductive Skip where
  | none
  /-- the rest of so many loops -/
  | leave (loops : Nat)
  /-- the rest of so many loops, the last of which goes on -/
  | again (loops : Nat)
  /-- the rest of a function or of a text that is read for it; its status may have
  been chosen -/
  | back (chosen : Bool)
  deriving DecidableEq, Repr

/-- How a process ends. -/
inductive Ending where
  | exited (status : Nat)
  | killed (signal : Nat)
  deriving DecidableEq, Repr

/-- The status by which an ending is known. -/
def Ending.status : Ending → Nat
  | exited status => status
  | killed signal => 128 + signal

/-- What a function gives back when it ends. -/
inductive Saved where
  | variable (name : Name) (old : Option Variable)
  | options (old : List String)

/-- What a process has for itself. -/
structure Process where
  number : Nat
  /-- the number of the process that has read the script -/
  root : Nat
  /-- the numbers of the processes that this one belongs to -/
  around : List Nat := []
  /-- the name of the script in its messages -/
  name : List Char
  params : List (List Char)
  bindings : List (Name × Variable)
  functions : List (Name × Command) := []
  aliases : List (Name × List Char) := []
  documents : Array Word := #[]
  /-- the options that are on -/
  options : List String := []
  /-- what is given back at the end of each function that runs -/
  saved : List (List Saved) := []
  /-- the channels that numbers mean -/
  descriptors : List (Nat × Nat)
  place : Place
  /-- the path by which the directory was reached -/
  directory : Path
  status : Nat := 0
  /-- the status of the last substitution in a command -/
  substituted : Nat := 0
  /-- what is run at a signal; the end of the process counts as signal zero -/
  traps : List (Nat × List Char) := []
  /-- the status that a running trap gives back -/
  trapStatus : Option Nat := none
  skip : Skip := .none
  /-- how many loops are running, up to the innermost function -/
  loops : Nat := 0
  /-- how many functions are running -/
  calls : Nat := 0
  /-- the line up to which the script has been read -/
  reached : Nat := 1
  /-- the line and the command of messages -/
  line : Nat := 1
  command : Option (List Char) := none
  /-- what a command has written and not yet handed on, latest first -/
  printed : List (List Char) := []
  /-- the last process that was started beside this one -/
  lastBackground : Option Nat := none
  /-- the next argument for options, and how far the letters of the one before it
  have been read -/
  optionIndex : Nat := 1
  optionOffset : Option Nat := none
  /-- permissions that new files do not get -/
  mask : Nat := 0o022
  /-- commands are being run to show another one -/
  tracing : Bool := false
  /-- signals that the process can do nothing about -/
  deaf : List Nat := []
  /-- programs that have been found, in which entry of the search list, and whether
  the directory has changed since then -/
  found : List (Name × Nat × Bool) := []

/-- What is known of a process that was started beside a script. -/
inductive JobState where
  /-- it has not begun -/
  | waiting (process : Process) (body : Command)
  | ended (ending : Ending)

def JobState.hasEnded : JobState → Bool
  | waiting _ _ => false
  | ended _ => true

structure Job where
  number : Nat
  /-- the process that has started it -/
  owner : Nat
  /-- its place in the list of its owner -/
  place : Nat
  state : JobState
  /-- its end has been waited for -/
  waited : Bool := false

structure State extends Process where
  files : FileSystem
  channels : Array Channel
  /-- files that are open for writing in the processes around -/
  held : List Location := []
  jobs : List Job := []
  /-- signals that have been sent to processes -/
  signals : List (Nat × Nat) := []
  nextNumber : Nat := 2

/-- Why a process does not go on with its next command. -/
inductive Stop where
  | exit
  /-- after a failure that a message has told -/
  | error
  | killed (signal : Nat)
  /-- the process has become a program, which has ended -/
  | replaced (ending : Ending)
  deriving DecidableEq, Repr

/-- A part of a run: it changes the state and may stop. -/
abbrev Run := ExceptT Stop (StateM State)

/-- How a command stands among others. -/
structure Standing where
  /-- somebody looks at its status -/
  tested : Bool := false
  /-- the process ends with it -/
  last : Bool := false

/-- A command inside of another one. -/
def Standing.inner (w : Standing) : Standing := { tested := w.tested }

/-- A command whose status decides something. -/
def Standing.asked : Standing := { tested := true }

/-- The name of a variable. -/
def named (name : String) : Name := name.toList

namespace State

/-! ### Variables -/

def binding? (s : State) (name : Name) : Option Variable := s.bindings.lookup name

def get? (s : State) (name : Name) : Option (List Char) := (s.binding? name).bind (·.value)

def getD (s : State) (name default : String) : List Char :=
  (s.get? (named name)).getD default.toList

def setVariable (s : State) (name : Name) (v : Variable) : State :=
  { s with bindings := (name, v) :: s.bindings.filter (fun p => p.1 != name) }

def drop (s : State) (name : Name) : State :=
  { s with bindings := s.bindings.filter (fun p => p.1 != name) }

def has (s : State) (option : String) : Bool := s.options.contains option

def setOption (s : State) (option : String) (on : Bool) : State :=
  let others := s.options.filter (· != option)
  { s with options := if on then option :: others else others }

/-- Give a variable a value; what it was stays. -/
def store (s : State) (name : Name) (value : List Char) : State :=
  let old := (s.binding? name).getD { value := none }
  s.setVariable name
    { old with value := some value, exported := old.exported || s.has "allexport" }

def isFixed (s : State) (name : Name) : Bool := ((s.binding? name).map (·.fixed)).getD false

def defaultSeparators : List Char := [' ', '\t', '\n']

/-- The separators of fields. -/
def separators (s : State) : List Char :=
  (s.get? (named "IFS")).getD defaultSeparators

/-- The variables that programs get which the script starts. -/
def exportedVariables (s : State) : List (Bytes × Bytes) :=
  s.bindings.filterMap fun (name, v) =>
    match v.value with
    | some value =>
      if v.exported then some (Octets.toBytes name, Octets.toBytes value) else none
    | none => none

/-! ### Channels -/

def channel? (s : State) (number : Nat) : Option Channel :=
  (s.descriptors.lookup number).bind fun index => s.channels[index]?

def setChannel (s : State) (number : Nat) (c : Channel) : State :=
  match s.descriptors.lookup number with
  | some index => { s with channels := s.channels.setIfInBounds index c }
  | none => s

/-- Let a number mean a channel; `none` closes it. -/
def connect (s : State) (number : Nat) (index : Option Nat) : State :=
  let others := s.descriptors.filter (fun p => p.1 != number)
  { s with descriptors := match index with
      | some index => (number, index) :: others
      | none => others }

/-- Let a number mean a new channel. -/
def openChannel (s : State) (number : Nat) (c : Channel) : State :=
  ({ s with channels := s.channels.push c }).connect number (some s.channels.size)

/-- What can be read from a number. -/
def input (s : State) (number : Nat) : Except OsError Stream :=
  match s.channel? number with
  | some c => c.text s.files
  | none => .error .badDescriptor

/-- Take bytes from the input of a number. -/
def take (s : State) (number count : Nat) : State :=
  match s.channel? number with
  | some c => s.setChannel number (c.take count)
  | none => s

/-- Write to a number; tells what went wrong. -/
def write (s : State) (number : Nat) (text : Stream) : Except OsError Unit × State :=
  match s.channel? number with
  | none => (if text = .empty then .ok () else .error .badDescriptor, s)
  | some c =>
    let (result, c, files) := c.write s.files text
    (result, ({ s with files }).setChannel number c)

/-- The number that a path names, below the directory of what a process has open. -/
def descriptorOf? (s : State) (path : Path) : Option Nat := s.files.descriptorOf? s.place path

/-- The channels that are open under numbers. -/
def openChannels (s : State) : List (Nat × Channel) :=
  s.descriptors.filterMap fun (number, index) =>
    (s.channels[index]?).map fun channel => (number, channel)

/-- The text that a channel has collected. -/
def collectedText (s : State) (index : Nat) : Stream :=
  match s.channels[index]? with
  | some c => c.collectedText
  | none => .empty

/-- The state with another process in it. -/
def withProcess (s : State) (p : Process) : State := { s with toProcess := p }

end State

namespace Run

def setStatus (status : Nat) : Run Unit := modify fun s => { s with status }

/-- Signals that do nothing to a process that has not asked for them. -/
def harmless : List Nat := [17, 18, 19, 20, 21, 22, 23, 28]

/-- What a signal does to this process; the texts for it are run later. -/
def receive (signal : Nat) : Run Unit := do
  let s ← get
  if (signal = 0 ∨ s.deaf.contains signal) && signal != 9 then pure ()
  else match if signal = 9 then none else s.traps.lookup signal with
    | some [] => pure ()
    | some _ => modify fun s => { s with signals := s.signals ++ [(s.number, signal)] }
    | none => if harmless.contains signal then pure () else throw (.killed signal)

/-- The signal for a process that writes what nobody reads. -/
def pipeSignal : Nat := 13

/-- Write to a number; tells what went wrong. -/
def writeTo (number : Nat) (text : Stream) : Run (Except OsError Unit) := do
  let (result, s) := (← get).write number text
  set s
  if let .error .brokenPipe := result then receive pipeSignal
  return result

/-- Write a text to the error output. -/
def complain (text : List Char) : Run Unit :=
  discard (writeTo 2 (.ofBytes (Octets.toBytes text)))

/-- A message of the script. -/
def report (message : List Char) : Run Unit := do
  let s ← get
  let command := match s.command with
    | some command => command ++ named ": "
    | none => []
  complain (s.name ++ named (": " ++ toString s.line ++ ": ") ++ command ++ message ++ ['\n'])

/-- A message, after which the command or the process ends. -/
def fail {α : Type} (message : List Char) : Run α := do
  report message
  setStatus 2
  throw .error

def failWith {α : Type} (message : String) : Run α := fail message.toList

/-- A computation that has not ended in time. -/
def exhausted {α : Type} : Run α := failWith "out of memory"

/-- Add to what a command writes. -/
def print (text : List Char) : Run Unit :=
  modify fun s => { s with printed := text :: s.printed }

/-- Hand on what a command has written; tells whether that was possible. -/
def flush : Run Bool := do
  let s ← get
  let text := s.printed.reverse.flatten
  set { s with printed := [] }
  return (← writeTo 1 (.ofBytes (Octets.toBytes text))).isOk

/-- Some variables say how the process works: what is read from them again when
they get a value. -/
def notice (name : Name) (value : List Char) : Run Unit := do
  if name = named "OPTIND" then
    match Arithmetic.count? value with
    | none => fail (named "Illegal number: " ++ value)
    | some n => modify fun s => { s with optionIndex := max n 1, optionOffset := none }
  else if name = named "PATH" then modify fun s => { s with found := [] }

/-- Give a variable a value, unless it is fixed. -/
def assign (name : Name) (value : List Char) : Run Unit := do
  if (← get).isFixed name then fail (name ++ named ": is read only")
  notice name value
  modify fun s => s.store name value

/-- Put back a part of the state after an action, however it ends. -/
def restoring {α : Type} (restore : State → State → State) (action : Run α) : Run α := do
  let before ← get
  try
    let a ← action
    modify (restore before)
    return a
  catch stop =>
    modify (restore before)
    throw stop

/-- Do something after which numbers mean the same channels as before. -/
def keeping {α : Type} (numbers : List Nat) (action : Run α) : Run α :=
  restoring (fun before s => numbers.foldl (fun s n => s.connect n (before.descriptors.lookup n)) s)
    action

/-- The next unused number of a process. -/
def newNumber : Run Nat := do
  let s ← get
  set { s with nextNumber := s.nextNumber + 1 }
  return s.nextNumber

end Run

end PipelineShell.Script
