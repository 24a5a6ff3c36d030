import PipelineShell.FileSystem.Access
import PipelineShell.Text.Blank
import PipelineShell.Log

/-!
# Command history

A history holds the lines of a session and remembers how many of them have been
appended to a file.  A history file holds one entry a line.
-/

namespace PipelineShell

/-- Drop the carriage return before a line feed. -/
def dropReturn (line : Bytes) : Bytes :=
  if line.getLast? == some 13 then line.dropLast else line

/-- The lines of a content without their ends.  A carriage return belongs to
the end of a line only before a line feed; an unfinished last line counts if it
is not empty. -/
def contentLines (content : Bytes) : List Bytes :=
  let cut := content.splitOn 10
  let unfinished := cut.getLastD []
  cut.dropLast.map dropReturn ++ if unfinished.isEmpty then [] else [unfinished]

/-- The leading lines that are UTF-8, and whether all lines are. -/
def decodeLines (lines : List Bytes) : List String × Bool :=
  let decoded := lines.map Bytes.text?
  ((decoded.takeWhile Option.isSome).filterMap id, decoded.all Option.isSome)

structure History where
  entries : List String
  /-- the number of leading entries that need no appending any more -/
  appended : Nat
  deriving DecidableEq, Repr

namespace History

def empty : History := ⟨[], 0⟩

/-- Record lines, unless they are blank. -/
def record (h : History) (lines : List String) : History :=
  ⟨h.entries ++ lines.filter (fun line => !Text.isBlankLine line), h.appended⟩

/-- Record one line, unless it is blank. -/
def push (h : History) (line : String) : History := h.record [line]

/-- Mark all entries as appended. -/
def settle (h : History) : History := ⟨h.entries, h.entries.length⟩

/-- The content of a history file. -/
def render (entries : List String) : Bytes :=
  entries.flatMap (fun entry => utf8 entry ++ [10])

/-- Record the lines of a content up to the first that is not UTF-8. -/
def readContent (h : History) (content : Bytes) : History × Except OsError Unit :=
  let (lines, complete) := decodeLines (contentLines content)
  (h.record lines, if complete then .ok () else .error .invalidText)

/-- Record the lines of a file.  What was read before a failure stays. -/
def readFrom (h : History) (fs : FileSystem) (here : Place) (p : Path) :
    History × Except OsError Unit :=
  match fs.readFile here p with
  | .error e => (h, .error e)
  | .ok content => h.readContent content

/-- The history of a file at the start of a session; a missing file is an empty
history. -/
def load (fs : FileSystem) (here : Place) (p : Path) : Except OsError History :=
  match empty.readFrom fs here p with
  | (h, .ok ()) => .ok h.settle
  | (h, .error .notFound) => .ok h.settle
  | (_, .error e) => .error e

/-- What loading tells the log. -/
def loadRecords (fs : FileSystem) (here : Place) (p : Path) : List LogRecord :=
  match (empty.readFrom fs here p).2 with
  | .error .notFound => [.debug ("历史文件不存在: " ++ Bytes.display p)]
  | _ => []

/-- Write bytes to a file that is emptied first or written at its end. -/
def store (fs : FileSystem) (here : Place) (p : Path) (append : Bool) (content : Bytes) :
    FileSystem × Except OsError Unit :=
  match fs.openForWriting here p append with
  | .error e => (fs, .error e)
  | .ok (handle, opened) =>
    match opened.write handle content with
    | .error e => (opened, .error e)
    | .ok (_, written) => (written, .ok ())

/-- Replace a file by the whole history. -/
def writeTo (h : History) (fs : FileSystem) (here : Place) (p : Path) :
    FileSystem × Except OsError Unit :=
  store fs here p false (render h.entries)

/-- Add the entries that have not been appended yet to a file. -/
def appendTo (h : History) (fs : FileSystem) (here : Place) (p : Path) :
    (History × FileSystem) × Except OsError Unit :=
  match store fs here p true (render (h.entries.drop h.appended)) with
  | (fs, .ok ()) => ((h.settle, fs), .ok ())
  | (fs, .error e) => ((h, fs), .error e)

/-- Replace a file by the whole history, making the directories above it. -/
def save (h : History) (fs : FileSystem) (here : Place) (p : Path) :
    FileSystem × Except OsError Unit :=
  match p.parent? with
  | none => h.writeTo fs here p
  | some above =>
    match fs.makeDirectories here above with
    | (fs, .error e) => (fs, .error e)
    | (fs, .ok ()) => h.writeTo fs here p

/-- A number in at least five columns. -/
def column (n : Nat) : String :=
  let digits := toString n
  String.ofList (List.replicate (5 - digits.length) ' ') ++ digits

/-- A line of the listing. -/
def listingLine (entry : String × Nat) : String :=
  column entry.2 ++ "  " ++ entry.1 ++ "\n"

/-- The lines of the listing, numbered from one. -/
def listing (h : History) : List String :=
  (h.entries.zipIdx 1).map listingLine

/-- The last lines of the listing, or all of them. -/
def lastLines (h : History) (limit : Option Nat) : List String :=
  match limit with
  | none => h.listing
  | some n => h.listing.drop (h.entries.length - n)

/-- The last lines of the listing as one text. -/
def list (h : History) (limit : Option Nat) : String :=
  String.join (h.lastLines limit)

end History

end PipelineShell
