import Mathlib.Logic.Function.Basic
import Mathlib.Logic.Relation
import PipelineShell.Executor

/-!
# Pipes, and who holds their ends

The stages of a pipeline are joined by pipes.  For each stage the shell opens the
pipe after it, gives copies of the ends to the program of the stage, or one end to
a thread that writes a text, and closes its own.  The shell, the programs and the
threads go on side by side, and any of them may take the next step.
-/

namespace PipelineShell.PipeMachine

/-! ## The ends of pipes -/

inductive Side where
  | read
  | write
  deriving DecidableEq

/-- One end of the pipe after a stage. -/
structure PipeEnd where
  side : Side
  stage : Nat
  deriving DecidableEq

/-- The threads of the shell. -/
inductive Task where
  /-- writes a text of the shell into the pipe after a stage -/
  | feeder (stage : Nat)
  /-- waits for the program of a stage -/
  | waiter (stage : Nat)
  deriving DecidableEq

/-- What can hold ends besides the shell itself. -/
inductive Holder where
  | child (stage : Nat)
  | feeder (stage : Nat)
  deriving DecidableEq

/-! ## What the shell does for a stage -/

/-- What comes of a stage while it is set up. -/
inductive Conduct where
  /-- the shell writes a text: a builtin, or a name without a command -/
  | writes (text : Bytes)
  /-- a program starts -/
  | starts
  /-- a program does not start, and the shell writes a text in its place -/
  | fails (text : Bytes)

namespace Conduct

def of : Resolution → Executor.Stage → Conduct
  | _, .started _ _ _ => starts
  | .external _, .done output => fails output
  | _, .done output => writes output

/-- The text that the shell writes itself. -/
def text : Conduct → Bytes
  | writes text => text
  | starts => []
  | fails text => text

end Conduct

/-- What the shell does with the ends of pipes, the programs and the threads. -/
inductive Op where
  /-- open the pipe after a stage -/
  | openPipe (stage : Nat)
  /-- keep a second copy of an end, in case the program does not start -/
  | duplicate (pipeEnd : PipeEnd)
  | close (pipeEnd : PipeEnd)
  /-- start a program with copies of ends -/
  | start (stage : Nat) (ends : List PipeEnd)
  /-- give the end that is written to a thread, to write a text -/
  | feed (stage : Nat) (text : Bytes)
  /-- leave a program to a thread that waits for it -/
  | watch (stage : Nat)
  /-- wait for a program -/
  | await (stage : Nat)
  /-- join all threads in the order of their start -/
  | join

/-- The end from which a stage reads, if that is a pipe. -/
def inputEnds : (stage : Nat) → List PipeEnd
  | 0 => []
  | stage + 1 => [⟨.read, stage⟩]

/-- The end to which a stage writes, if that is a pipe. -/
def outputEnds (isLast : Bool) (stage : Nat) : List PipeEnd :=
  if isLast then [] else [⟨.write, stage⟩]

/-- Write a text of the shell for a stage. -/
def emitOps (isLast : Bool) (stage : Nat) (text : Bytes) : List Op :=
  if isLast then [] else if text.isEmpty then [.close ⟨.write, stage⟩] else [.feed stage text]

/-- What the shell does for a stage. -/
def stageOps (isLast : Bool) (stage : Nat) (conduct : Conduct) : List Op :=
  let opening := if isLast then [] else [.openPipe stage]
  let ends := inputEnds stage ++ outputEnds isLast stage
  let spare := outputEnds isLast stage
  match conduct with
  | .writes text => opening ++ (inputEnds stage).map .close ++ emitOps isLast stage text
  | .starts =>
    opening ++ spare.map .duplicate ++ [.start stage ends] ++ ends.map .close ++
      spare.map .close ++ [if isLast then .await stage else .watch stage]
  | .fails text =>
    opening ++ spare.map .duplicate ++ ends.map .close ++ emitOps isLast stage text

/-- What the shell does for the stages that are left, and when they are done. -/
def ops : (stage : Nat) → List Conduct → List Op
  | _, [] => [.join]
  | stage, conduct :: rest => stageOps rest.isEmpty stage conduct ++ ops (stage + 1) rest

/-! ## The state -/

/-- What a program is about to do. -/
inductive Intent where
  | read
  | write (byte : UInt8)
  | close (side : Side)
  | exit

inductive Child where
  | absent
  | running (intent : Intent)
  | ended
  /-- ended, and waited for -/
  | awaited

inductive Thread where
  | absent
  | running (left : Bytes)
  | ended
  | joined

structure State where
  /-- what the shell has still to do -/
  todo : List Op
  /-- the ends that the shell holds itself -/
  own : List PipeEnd
  /-- the threads that have not been joined, in the order of their start -/
  tasks : List Task
  child : Nat → Child
  thread : Task → Thread
  held : Holder → List PipeEnd
  /-- the sides that the program of a stage has closed since it was started -/
  closed : Nat → List Side
  /-- what is in the pipe after a stage -/
  content : Nat → Bytes
  /-- what has ever been written to the pipe after a stage -/
  sent : Nat → Bytes
  /-- what has ever been read from the pipe after a stage -/
  taken : Nat → Bytes

def initial (conducts : List Conduct) : State where
  todo := ops 0 conducts
  own := []
  tasks := []
  child := fun _ => .absent
  thread := fun _ => .absent
  held := fun _ => []
  closed := fun _ => []
  content := fun _ => []
  sent := fun _ => []
  taken := fun _ => []

namespace State

def IsOpen (s : State) (pipeEnd : PipeEnd) : Prop :=
  pipeEnd ∈ s.own ∨ ∃ holder, pipeEnd ∈ s.held holder

/-- Nobody but a holder has an end. -/
def HeldOnlyBy (s : State) (holder : Holder) (pipeEnd : PipeEnd) : Prop :=
  pipeEnd ∉ s.own ∧ ∀ other, pipeEnd ∈ s.held other → other = holder

/-- Bytes are written to the pipe after a stage. -/
@[simp]
def send (s : State) (stage : Nat) (text : Bytes) : State :=
  { s with
    content := Function.update s.content stage (s.content stage ++ text)
    sent := Function.update s.sent stage (s.sent stage ++ text) }

/-- Bytes are read from the pipe after a stage, and the rest stays. -/
@[simp]
def take (s : State) (stage : Nat) (text rest : Bytes) : State :=
  { s with
    content := Function.update s.content stage rest
    taken := Function.update s.taken stage (s.taken stage ++ text) }

@[simp]
def setChild (s : State) (stage : Nat) (child : Child) : State :=
  { s with child := Function.update s.child stage child }

@[simp]
def setThread (s : State) (task : Task) (thread : Thread) : State :=
  { s with thread := Function.update s.thread task thread }

@[simp]
def setHeld (s : State) (holder : Holder) (ends : List PipeEnd) : State :=
  { s with held := Function.update s.held holder ends }

@[simp]
def setClosed (s : State) (stage : Nat) (sides : List Side) : State :=
  { s with closed := Function.update s.closed stage sides }

end State

/-! ## Steps -/

/-- The ends that the shell holds after doing something. -/
def Op.own (own : List PipeEnd) : Op → List PipeEnd
  | openPipe stage => ⟨.read, stage⟩ :: ⟨.write, stage⟩ :: own
  | duplicate pipeEnd => pipeEnd :: own
  | close pipeEnd => own.erase pipeEnd
  | feed stage _ => own.erase ⟨.write, stage⟩
  | start _ _ | watch _ | await _ | join => own

/-- The shell goes on with its list. -/
@[simp]
def State.advance (s : State) (op : Op) (rest : List Op) : State :=
  { s with todo := rest, own := op.own s.own }

inductive ShellStep : State → State → Prop where
  | openPipe {s : State} {stage : Nat} {rest : List Op} (htodo : s.todo = .openPipe stage :: rest) :
      ShellStep s (s.advance (.openPipe stage) rest)
  | duplicate {s : State} {pipeEnd : PipeEnd} {rest : List Op}
      (htodo : s.todo = .duplicate pipeEnd :: rest) :
      ShellStep s (s.advance (.duplicate pipeEnd) rest)
  | close {s : State} {pipeEnd : PipeEnd} {rest : List Op}
      (htodo : s.todo = .close pipeEnd :: rest) : ShellStep s (s.advance (.close pipeEnd) rest)
  | start {s : State} {stage : Nat} {ends : List PipeEnd} {rest : List Op}
      (htodo : s.todo = .start stage ends :: rest) (intent : Intent) :
      ShellStep s ((((s.advance (.start stage ends) rest).setChild stage
        (.running intent)).setHeld (.child stage) ends).setClosed stage [])
  | feed {s : State} {stage : Nat} {text : Bytes} {rest : List Op}
      (htodo : s.todo = .feed stage text :: rest) :
      ShellStep s { ((s.advance (.feed stage text) rest).setThread (.feeder stage)
        (.running text)).setHeld (.feeder stage) [⟨.write, stage⟩] with
          tasks := s.tasks ++ [.feeder stage] }
  | watch {s : State} {stage : Nat} {rest : List Op} (htodo : s.todo = .watch stage :: rest) :
      ShellStep s { (s.advance (.watch stage) rest).setThread (.waiter stage) (.running []) with
        tasks := s.tasks ++ [.waiter stage] }
  | await {s : State} {stage : Nat} {rest : List Op} (htodo : s.todo = .await stage :: rest)
      (hended : s.child stage = .ended) :
      ShellStep s ((s.advance (.await stage) rest).setChild stage .awaited)
  | join {s : State} {rest : List Op} {task : Task} {tasks : List Task}
      (htodo : s.todo = .join :: rest) (htasks : s.tasks = task :: tasks)
      (hended : s.thread task = .ended) :
      ShellStep s { s.setThread task .joined with tasks := tasks }
  | leave {s : State} {rest : List Op} (htodo : s.todo = .join :: rest) (htasks : s.tasks = []) :
      ShellStep s (s.advance .join rest)

/-- A thread writes as long as there is room, and stops when all is written or
nobody can read any more.  A thread that waits for a program ends with it. -/
inductive ThreadStep (capacity : Nat) : State → State → Prop where
  | write {s : State} {stage : Nat} {byte : UInt8} {left : Bytes}
      (hthread : s.thread (.feeder stage) = .running (byte :: left))
      (hreader : s.IsOpen ⟨.read, stage⟩) (hroom : (s.content stage).length < capacity) :
      ThreadStep capacity s ((s.send stage [byte]).setThread (.feeder stage) (.running left))
  | stop {s : State} {stage : Nat} {left : Bytes}
      (hthread : s.thread (.feeder stage) = .running left)
      (hstop : left = [] ∨ ¬ s.IsOpen ⟨.read, stage⟩) :
      ThreadStep capacity s ((s.setThread (.feeder stage) .ended).setHeld (.feeder stage) [])
  | reap {s : State} {stage : Nat} {left : Bytes}
      (hthread : s.thread (.waiter stage) = .running left) (hended : s.child stage = .ended) :
      ThreadStep capacity s ((s.setThread (.waiter stage) .ended).setChild stage .awaited)

/-- A program does what it is about to do, and then has another intent.  What is
no pipe never keeps it waiting. -/
inductive ChildStep (capacity : Nat) : State → State → Prop where
  | read {s : State} {stage pipe : Nat} {front rest : Bytes}
      (hchild : s.child stage = .running .read) (hheld : ⟨.read, pipe⟩ ∈ s.held (.child stage))
      (hcontent : s.content pipe = front ++ rest) (hfront : front ≠ []) (next : Intent) :
      ChildStep capacity s ((s.take pipe front rest).setChild stage (.running next))
  | readEnd {s : State} {stage : Nat} (hchild : s.child stage = .running .read)
      (hend : ∀ pipe, ⟨.read, pipe⟩ ∈ s.held (.child stage) →
        s.content pipe = [] ∧ ¬ s.IsOpen ⟨.write, pipe⟩) (next : Intent) :
      ChildStep capacity s (s.setChild stage (.running next))
  | write {s : State} {stage pipe : Nat} {byte : UInt8}
      (hchild : s.child stage = .running (.write byte))
      (hheld : ⟨.write, pipe⟩ ∈ s.held (.child stage)) (hreader : s.IsOpen ⟨.read, pipe⟩)
      (hroom : (s.content pipe).length < capacity) (next : Intent) :
      ChildStep capacity s ((s.send pipe [byte]).setChild stage (.running next))
  | writeElsewhere {s : State} {stage : Nat} {byte : UInt8}
      (hchild : s.child stage = .running (.write byte))
      (hheld : ∀ pipe, ⟨.write, pipe⟩ ∉ s.held (.child stage)) (next : Intent) :
      ChildStep capacity s (s.setChild stage (.running next))
  | stopped {s : State} {stage pipe : Nat} {byte : UInt8}
      (hchild : s.child stage = .running (.write byte))
      (hheld : ⟨.write, pipe⟩ ∈ s.held (.child stage)) (hreader : ¬ s.IsOpen ⟨.read, pipe⟩) :
      ChildStep capacity s ((s.setChild stage .ended).setHeld (.child stage) [])
  | close {s : State} {stage : Nat} {side : Side}
      (hchild : s.child stage = .running (.close side)) (next : Intent) :
      ChildStep capacity s (((s.setChild stage (.running next)).setHeld (.child stage)
        ((s.held (.child stage)).filter fun pipeEnd => pipeEnd.side ≠ side)).setClosed stage
          (side :: s.closed stage))
  | exit {s : State} {stage : Nat} (hchild : s.child stage = .running .exit) :
      ChildStep capacity s ((s.setChild stage .ended).setHeld (.child stage) [])

/-- The shell, a thread or a program takes a step. -/
inductive Step (capacity : Nat) (s t : State) : Prop where
  | shell (h : ShellStep s t)
  | thread (h : ThreadStep capacity s t)
  | child (h : ChildStep capacity s t)

/-- A state that running the stages can come to. -/
def Reachable (capacity : Nat) (conducts : List Conduct) (s : State) : Prop :=
  Relation.ReflTransGen (Step capacity) (initial conducts) s

end PipelineShell.PipeMachine

namespace PipelineShell.Executor

/-- What comes of the stages when an executor sets them up. -/
def conducts (ex : Executor) (held : Option FileSystem.Handle) (run : Run) (rooms : List Nat)
    (stages : List (Command × Resolution)) : List PipeMachine.Conduct :=
  List.zipWith (fun stage ready => .of stage.2 ready) stages
    (ex.setUp held 0 run rooms stages).2

end PipelineShell.Executor
