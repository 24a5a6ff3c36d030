import PipelineShell.Channel
import PipelineShell.Program.Naming

/-!
# How a program is called

A program of the system gets words, open files and a directory.  It answers with
what it writes to its output and its errors, in the order of writing, with its
status, with how much of its input it has taken, and with the files as it leaves
them.  Its messages begin with the word by which it was called.
-/

namespace PipelineShell.Program

structure Call where
  /-- the word by which the program was called -/
  name : Bytes
  args : List Bytes
  /-- what is open under which number -/
  descriptors : List (Nat × Channel)
  files : FileSystem
  here : Place

/-- One writing of a program. -/
inductive Write where
  | output (text : Stream)
  | errors (text : Bytes)
  deriving Repr

structure Result where
  writes : List Write := []
  status : Nat := 0
  /-- how much of the input has been used up -/
  taken : Nat := 0
  /-- the files, where the program has changed them -/
  files : Option FileSystem := none

/-- A program as the system knows it. -/
structure Behaviour where
  /-- what it does -/
  run : Call → Result
  /-- what it makes of its result, or of the rest of it, that cannot be written -/
  unwritable : Call → OsError → Result → Result
  /-- how much it reads at once; `none` if it reads everything before it writes -/
  portion : Option Nat := none

namespace Call

def channel? (call : Call) (number : Nat) : Option Channel := call.descriptors.lookup number

/-- What can be read from the input. -/
def stdin (call : Call) : Except OsError Stream :=
  match call.channel? 0 with
  | none => .error .badDescriptor
  | some c => c.text call.files

/-- The program can go back in its input to what it has used. -/
def isSeekable (call : Call) : Bool := (call.channel? 0).any Channel.isSeekable

/-- What goes wrong with all output. -/
def outputFailure? (call : Call) : Option OsError :=
  match call.channel? 1 with
  | none => some .badDescriptor
  | some c => c.writeFailure?

/-- What a program finds behind a name. -/
inductive Opened where
  /-- a file, which is read from its start -/
  | content (location : Option Location) (text : Except OsError Stream)
  /-- the input, which others read as well -/
  | input

/-- Open a file to read it.  What the program has open can be named too. -/
def openToRead (call : Call) (name : Bytes) : Except OsError Opened :=
  match call.files.descriptorOf? call.here name with
  | none =>
    match call.files.locate call.here name with
    | .error e => .error e
    | .ok place =>
      if place.detached then .ok (.content none (.error .isDirectory))
      else match call.files.get? place.location with
        | none => .error .notFound
        | some node => .ok (.content (some place.location) (FileSystem.nodeText node))
  | some number =>
    match call.channel? number with
    | none => .error .notFound
    | some (.source rest _) => .ok (if number = 0 then .input else .content none (.ok rest))
    | some (.collected _ _ _) => .ok (.content none (.ok .empty))
    | some (.file handle _) =>
      match handle with
      | .device d => .ok (.content none (FileSystem.nodeText (.device d)))
      | .atOffset loc _ | .atEnd loc =>
        match call.files.get? loc with
        | none => .error .notFound
        | some node => .ok (.content (some loc) (FileSystem.nodeText node))

/-- A message of the program. -/
def message (call : Call) (text : Bytes) : Bytes :=
  call.name ++ utf8 ": " ++ text ++ [10]

/-- The end of a call with nothing but a message. -/
def failure (call : Call) (text : Bytes) (status : Nat) : Result :=
  { writes := [.errors (call.message text)], status }

/-- The end of a call with wrong words. -/
def misuse (call : Call) (text : Bytes) (status : Nat) : Result :=
  { writes := [.errors (call.message text ++
      utf8 "Try '" ++ call.name ++ utf8 " --help' for more information.\n")]
    status }

end Call

def Write.isOutput : Write → Bool
  | .output text => text != .empty
  | .errors _ => false

/-- The messages of a result. -/
def Result.messages (result : Result) : List Write := result.writes.filter (!·.isOutput)

/-- A result that ends with a message in place of its output. -/
def Result.failing (result : Result) (call : Call) (text : Bytes) (status : Nat) : Result :=
  { result with writes := result.messages ++ [.errors (call.message text)], status }

/-- The end of a program that finds at its end that its output is lost.  The
cause is forgotten if a message has come after some output. -/
def lostAtEnd (call : Call) (e : OsError) (result : Result) : Result :=
  let after := (result.writes.dropWhile (!·.isOutput)).any (!·.isOutput)
  let reason := if after && e = .noSpace then "" else ": " ++ failureText e
  result.failing call (utf8 ("write error" ++ reason)) 1

/-- How much a result writes to the output, as far as it ends. -/
def Result.outputSize (result : Result) : Nat :=
  (result.writes.map fun
    | .output text => text.first.length
    | .errors _ => 0).foldl (· + ·) 0

/-- Whether a result writes so much to the output and more. -/
def Result.overflows (result : Result) (room : Nat) : Bool :=
  room < result.outputSize || result.writes.any fun
    | .output text => text.isEndless
    | .errors _ => false

/-- A call that finds only the beginning of its input. -/
def Call.upTo (call : Call) (length : Nat) : Call :=
  match call.channel? 0 with
  | some (.source rest taken) =>
    let beginning := Channel.source (.ofBytes (rest.take length).1) taken
    { call with descriptors := (0, beginning) :: call.descriptors }
  | _ => call

/-- How much of its input a program has read, in portions, before it writes more
than there is room for. -/
def Behaviour.readBefore (behaviour : Behaviour) (call : Call) (room portion : Nat) :
    (tries : Nat) → (length : Nat) → Nat
  | 0, length => length
  | tries + 1, length =>
    if (behaviour.run (call.upTo length)).overflows room then length
    else behaviour.readBefore call room portion tries (length + max portion (length / 8))

/-- How much of its input a program has taken when its output is cut. -/
def Behaviour.takenBefore (behaviour : Behaviour) (call : Call) (room : Nat) (result : Result) :
    Nat :=
  match behaviour.portion with
  | none => result.taken
  | some portion =>
    match call.channel? 0 with
    | some (.source rest _) =>
      let read := behaviour.readBefore call room portion 100 portion
      if rest.isEndless then read else min read result.taken
    | _ => result.taken

/-- Run a program. -/
def Behaviour.perform (behaviour : Behaviour) (call : Call) : Result :=
  let result := behaviour.run call
  match call.outputFailure? with
  | none => result
  | some e =>
    if result.writes.any Write.isOutput then behaviour.unwritable call e result else result

/-! ### Output that is gathered before it is written -/

/-- Output that waits, latest piece first, behind what has been written. -/
structure Printer where
  done : List Write := []
  waiting : List Bytes := []
  endless : Bool := false

namespace Printer

/-- So much output is gathered before it is written. -/
def bufferSize : Nat := 4096

def put (p : Printer) (text : Bytes) : Printer :=
  if p.endless then p else { p with waiting := text :: p.waiting }

/-- Write all that waits. -/
def flush (p : Printer) : Printer :=
  let text := p.waiting.reverse.flatten
  { p with
    waiting := [], done := if text.isEmpty then p.done else .output (.ofBytes text) :: p.done }

/-- Put a stream; nothing can follow what has no end. -/
def putStream (p : Printer) (s : Stream) : Printer :=
  if p.endless then p
  else if s.isEndless then
    let p := (p.put s.first).flush
    { p with done := .output ⟨[], s.cycle⟩ :: p.done, endless := true }
  else p.put s.first

/-- Write a message after all output. -/
def report (p : Printer) (message : Bytes) : Printer :=
  let p := p.flush
  { p with done := .errors message :: p.done }

/-- Write a message at once.  Only output that fills the buffer comes before it. -/
def complain (p : Printer) (message : Bytes) : Printer :=
  let text := p.waiting.reverse.flatten
  let full := text.length / bufferSize * bufferSize
  let before := if full = 0 then [] else [Write.output (.ofBytes (text.take full))]
  { p with waiting := [text.drop full], done := .errors message :: before ++ p.done }

/-- All that has been written in the end. -/
def writes (p : Printer) : List Write := p.flush.done.reverse

end Printer

end PipelineShell.Program
