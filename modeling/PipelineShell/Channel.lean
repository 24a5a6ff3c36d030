import PipelineShell.FileSystem.Descriptor

/-!
# Channels

A channel is what a process reads from or writes to: an end of a pipe, or an
open file.  The place in an open file moves with what is read and written, for
all who use the channel.  The reader of a pipe may go away; then a part of what
is written is lost.
-/

namespace PipelineShell

/-- What an open file may be used for. -/
structure Access where
  reads : Bool
  writes : Bool
  deriving DecidableEq, Repr

/-- Where what is written to a channel goes. -/
inductive Drain where
  /-- the user -/
  | terminal
  /-- a reader that takes everything -/
  | reader
  /-- a reader that goes away when so many more bytes have been written -/
  | leaving (room : Nat)
  /-- a reader that has gone, so that something was lost -/
  | gone
  deriving DecidableEq, Repr

inductive Channel where
  /-- the end of a pipe that is read: what is left, and how much has been taken -/
  | source (rest : Stream) (taken : Nat)
  /-- collects what is written: pieces of text, latest first, and a text that is
  then repeated without end -/
  | collected (pieces : List Bytes) (cycle : Bytes) (drain : Drain)
  | file (handle : FileSystem.Handle) (access : Access)
  deriving DecidableEq, Repr

namespace Channel

/-- A pipe that nothing has been written to. -/
def newPipe (drain : Drain) : Channel := collected [] [] drain

/-- A pipe from which a text can be read. -/
def ofText (text : Stream) : Channel := source text 0

/-- A file that is open for reading. -/
def reading (loc : Location) : Channel := file (.atOffset loc 0) ⟨true, false⟩

/-- A file that is open for writing. -/
def writing (handle : FileSystem.Handle) : Channel := file handle ⟨false, true⟩

/-- The node behind an open file. -/
def handleNode (files : FileSystem) : FileSystem.Handle → Option Node
  | .atOffset loc _ | .atEnd loc => files.get? loc
  | .device d => some (.device d)

/-- The place in an open file. -/
def handleOffset (files : FileSystem) : FileSystem.Handle → Nat
  | .atOffset _ offset => offset
  | .atEnd loc =>
    match files.get? loc with
    | some (.file content _) => content.length
    | _ => 0
  | .device _ => 0

/-- What can be read from a channel. -/
def text (files : FileSystem) : Channel → Except OsError Stream
  | source rest _ => .ok rest
  | collected _ _ _ => .error .badDescriptor
  | file handle access =>
    if !access.reads then .error .badDescriptor
    else match handleNode files handle with
      | none => .ok .empty
      | some node =>
        (FileSystem.nodeText node).map fun s => ⟨s.first.drop (handleOffset files handle), s.cycle⟩

/-- Move on in what can be read. -/
def take (count : Nat) : Channel → Channel
  | source rest taken => source (rest.take count).2 (taken + count)
  | file (.atOffset loc offset) access => file (.atOffset loc (offset + count)) access
  | c => c

/-- A place in the channel can be found again. -/
def isSeekable : Channel → Bool
  | file (.atOffset _ _) _ | file (.atEnd _) _ => true
  | _ => false

/-- Collect a text. -/
def collect (pieces : List Bytes) (text : Bytes) : List Bytes :=
  if text.isEmpty then pieces else text :: pieces

/-- Write to a channel: what went wrong, and the channel and the files afterwards. -/
def write (files : FileSystem) (text : Stream) (c : Channel) :
    Except OsError Unit × Channel × FileSystem :=
  match c with
  | source _ _ => (if text = .empty then .ok () else .error .badDescriptor, c, files)
  | collected pieces cycle drain =>
    let whole := collected (collect pieces text.first) text.cycle
    match drain with
    | .terminal | .reader => (.ok (), if cycle.isEmpty then whole drain else c, files)
    | .leaving room =>
      if text.first.length ≤ room then
        if text.isEndless then (.error .brokenPipe, whole .gone, files)
        else (.ok (), whole (.leaving (room - text.first.length)), files)
      else
        (.error .brokenPipe, collected (collect pieces (text.first.take room)) [] .gone, files)
    | .gone => (if text = .empty then .ok () else .error .brokenPipe, c, files)
  | file handle access =>
    if !access.writes then
      (if text = .empty then .ok () else .error .badDescriptor, c, files)
    else if text.isEndless && handle = .device .full then (.error .noSpace, c, files)
    else match files.write handle text.first with
      | .ok (handle, files) => (.ok (), file handle access, files)
      | .error e => (.error e, c, files)

/-- The text that a channel has collected. -/
def collectedText : Channel → Stream
  | collected pieces cycle _ => ⟨pieces.reverse.flatten, cycle⟩
  | _ => .empty

/-- The reader of a channel has gone, and something was lost. -/
def isCut : Channel → Bool
  | collected _ _ .gone => true
  | _ => false

/-- How much can be written before the reader goes away. -/
def room : Channel → Nat
  | collected _ _ (.leaving room) => room
  | _ => 0

/-- How much has been taken from a pipe. -/
def takenFrom : Channel → Nat
  | source _ taken => taken
  | _ => 0

/-- What goes wrong with every text that is written to a channel. -/
def writeFailure? : Channel → Option OsError
  | source _ _ => some .badDescriptor
  | collected _ _ _ => none
  | file handle access =>
    if !access.writes then some .badDescriptor
    else if handle = .device .full then some .noSpace
    else none

/-- The location of a file that is open for writing. -/
def writtenLocation? : Channel → Option Location
  | file (.atOffset loc _) access | file (.atEnd loc) access =>
    if access.writes then some loc else none
  | _ => none

end Channel

end PipelineShell
