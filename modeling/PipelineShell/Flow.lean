/-!
# Flow through the pipes of a pipeline

The stages of a pipeline are run one after another, each up to its end before
the next one reads what it has written.  A reader that goes away early stops its
writer, which has then written what the reader has taken and what the pipe
holds.  How much that is shows only when the reader has run.  So each pipe has
some room at first, and the pipeline is run again with other room until what has
flowed agrees with it.
-/

namespace PipelineShell

/-- What has gone through a pipe. -/
structure Flow where
  /-- how much was written, as far as that has an end -/
  written : Nat
  endless : Bool := false
  /-- the writer found no room for all that it wanted to write -/
  isCut : Bool := false
  /-- the writer has done nothing but write -/
  isQuiet : Bool := false
  /-- how much the reader has taken; `none` if there was never a reader -/
  taken : Option Nat
  deriving Repr

namespace Flow

/-- How much a pipe holds that nobody has read. -/
def capacity : Nat := 65536

/-- How much most readers take that do not want everything. -/
def block : Nat := 8192

/-- So much more has to flow through a pipe whose reader writes to another one. -/
def passedOn : Nat := 2 * capacity

/-- The room of a pipe at first, if so many pipes follow. -/
def firstRoom (following : Nat) : Nat := capacity + block + following * passedOn

def firstRooms (pipes : Nat) : List Nat := (List.range pipes).reverse.map firstRoom

/-- How much a writer can write before it is stopped. -/
def limit (f : Flow) : Nat := f.taken.elim 0 (· + capacity)

/-- The reader has taken everything, and there would have been more. -/
def isDrained (f : Flow) : Bool :=
  f.isCut && !f.endless && f.taken.any (f.written ≤ ·)

/-- What has flowed agrees with the room that there was. -/
def agrees (f : Flow) (room : Nat) : Bool :=
  if f.isCut && !f.endless then
    !f.isDrained && (room = f.limit || (f.limit < room && f.isQuiet))
  else f.written ≤ f.limit

/-- The room with which a pipe is tried next. -/
def nextRoom (f : Flow) (room : Nat) : Nat :=
  if f.isDrained then 4 * room + capacity else f.limit

/-- Other room for the pipes, if it is not right.  The last pipe that is wrong
is put right first, because what is read from a pipe does not depend on those
before it. -/
def corrected? : (rooms : List Nat) → List Flow → Option (List Nat)
  | room :: rooms, f :: flows =>
    match corrected? rooms flows with
    | some rooms => some (room :: rooms)
    | none => if f.agrees room then none else some (f.nextRoom room :: rooms)
  | _, _ => none

/-- So often a pipeline is tried. -/
def maxTries : Nat := 60

end Flow

end PipelineShell
