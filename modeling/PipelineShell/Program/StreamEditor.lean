import PipelineShell.Program.Options
import PipelineShell.Program.StreamEditor.Editing

/-!
# The stream editor

The words of a call give a script, the files that it edits, and options.  Edited
lines go to the output, or back to their files.
-/

namespace PipelineShell.Program.StreamEditor

/-! ### Words -/

def grammar : OptionGrammar where
  letters := [('b', .none), ('s', .none), ('n', .none), ('r', .none), ('z', .none), ('u', .none),
    ('E', .none), ('e', .required), ('f', .required), ('l', .required), ('i', .optional)]
  long := [("binary", .none, "b"), ("regexp-extended", .none, "E"), ("debug", .none, "debug"),
    ("in-place", .optional, "i"), ("expression", .required, "e"), ("file", .required, "f"),
    ("line-length", .required, "l"), ("null-data", .none, "z"), ("zero-terminated", .none, "z"),
    ("quiet", .none, "n"), ("posix", .none, "posix"), ("silent", .none, "n"),
    ("sandbox", .none, "sandbox"), ("separate", .none, "s"), ("unbuffered", .none, "u"),
    ("follow-symlinks", .none, "follow"), ("version", .none, "version"), ("help", .none, "help")]

/-- A piece of a script as it is named by an option. -/
inductive NamedPiece where
  | word (text : Bytes)
  | file (name : Bytes)

structure Options where
  manner : Manner := {}
  style : ScriptStyle := {}
  separate : Bool := false
  inPlace : Bool := false
  unbuffered : Bool := false
  pieces : List NamedPiece := []

/-- The number at the start of a word. -/
def leadingNumber (text : Bytes) : Nat :=
  Octets.decimal (((Octets.ofBytes text).dropWhile Octets.isSpace).takeWhile Char.isDigit)

def Options.add (o : Options) : CommandWord → Options
  | .operand _ => o
  | .option key value =>
    match key with
    | "n" => { o with manner := { o.manner with quiet := true } }
    | "E" | "r" => { o with style := { o.style with extended := true } }
    | "s" => { o with separate := true }
    | "u" => { o with unbuffered := true }
    | "z" =>
      { o with
        manner := { o.manner with lineEnd := 0 }, style := { o.style with lineEnd := 0 } }
    | "l" => { o with manner := { o.manner with width := leadingNumber value } }
    | "posix" =>
      { o with
        manner := { o.manner with strict := true }, style := { o.style with strict := true } }
    | "sandbox" => { o with style := { o.style with sandbox := true } }
    | "follow" => { o with manner := { o.manner with follow := true } }
    | "e" => { o with pieces := o.pieces ++ [.word value] }
    | "f" => { o with pieces := o.pieces ++ [.file value] }
    | "i" =>
      let suffix := Octets.ofBytes value
      let pattern := if suffix.contains '*' then suffix else '*' :: suffix
      let backup := if suffix.isEmpty then none else some pattern
      { o with separate := true, inPlace := true, manner := { o.manner with backup } }
    | _ => o

/-- The texts of the pieces of a script, and how much of the input they are. -/
def loadPieces (call : Call) : (index taken : Nat) → List NamedPiece →
    Except Bytes (List Piece × Nat)
  | _, taken, [] => .ok ([], taken)
  | index, taken, .word text :: rest =>
    (loadPieces call (index + 1) taken rest).map fun (pieces, taken) =>
      (.word index (Octets.ofBytes text) :: pieces, taken)
  | index, taken, .file name :: rest =>
    let add (text : Bytes) (taken : Nat) : Except Bytes (List Piece × Nat) :=
      (loadPieces call index taken rest).map fun (pieces, taken) =>
        (.file name (Octets.ofBytes text) :: pieces, taken)
    let addInput : Except Bytes (List Piece × Nat) :=
      match call.stdin with
      | .ok s =>
        let text := (s.take taken).2.first
        add text (taken + text.length)
      | .error _ => add [] taken
    if name = utf8 "-" then addInput
    else match call.openToRead name with
      | .error e => .error (utf8 "couldn't open file " ++ name ++ utf8 (": " ++ failureText e))
      | .ok .input => addInput
      | .ok (.content _ (.ok text)) => add text.first taken
      | .ok (.content _ (.error _)) => add [] taken

/-! ### Running -/

/-- The ranges as they are before the first line. -/
def firstSpans (script : Script) : Array Span :=
  script.instructions.map fun i =>
    match i.first with
    | some (.line 0) => .active
    | _ => .waiting

/-- What can be read from the files that a script reads line by line. -/
def openSources (call : Call) (script : Script) : Array Stream :=
  script.sources.map fun name =>
    match call.openToRead name with
    | .ok (.content _ (.ok text)) => text
    | .ok .input => (call.stdin.toOption).getD .empty
    | _ => .empty

/-- Write what has been gathered for the files of the script. -/
def writeFiles (s : State) : FileSystem :=
  s.outlets.foldl (fun files o =>
    match o.sink with
    | .file handle =>
      match files.write handle o.pieces.reverse.flatten with
      | .ok (_, files) => files
      | .error _ => files
    | _ => files) s.call.files

/-- Inputs in which one cannot go back are read in blocks of this size. -/
def blockSize : Nat := 4096

/-- How much of the input has been used up. -/
def usedInput (o : Options) (s : State) : Nat :=
  if s.call.isSeekable || o.unbuffered then s.inputs.taken
  else
    let seen := max s.inputs.taken s.inputs.seen
    (seen + (blockSize - 1)) / blockSize * blockSize

/-- The output of a script that is never done with an endless input goes on like
the last part of what has been seen of it. -/
def endlessOutput (s : State) (writes : List Write) : List Write :=
  let unfinished := (s.inputs.current.any fun source => source.rest.isEndless) &&
    s.inputs.patience == 0
  if !unfinished then writes
  else writes.map fun
    | .output text => .output ⟨text.first, text.first⟩
    | w => w

/-- The result of a run that has come to its end or broken off. -/
def finish (o : Options) (words : Nat) (s : State) (halt : Option Halt) : Result :=
  let (s, status) := match halt with
    | none => (s, if s.inputs.missing then 2 else 0)
    | some (.ended status) => (s, if s.inputs.missing then 2 else status)
    | some (.broken message) =>
      ({ s with printer := s.printer.complain (s.call.message message) }, 4)
    | some .noPattern =>
      let message := utf8 ("-e expression #" ++ toString words ++
        ", char 0: no previous regular expression")
      ({ s with printer := s.printer.complain (s.call.message message) }, 1)
  { writes := endlessOutput s s.printer.writes, status, taken := usedInput o s
    files := some (writeFiles s) }

def edit (call : Call) (o : Options) (script : Script) (words taken : Nat) (names : List Bytes) :
    Result :=
  let spans := firstSpans script
  let sources := openSources call script
  let broken := script.sources.toList.findSome? fun name =>
    match call.openToRead name with
    | .ok (.content _ (.error e)) => some (name, e)
    | _ => none
  let s : State :=
    { call, manner := { o.manner with quiet := o.manner.quiet || script.quiet }
      inputs := { waiting := names, separate := o.separate, inPlace := o.inPlace
                  lineEnd := o.manner.lineEnd, taken, seen := taken }
      outlets := script.outlets.map fun (_, sink) => { sink }
      spans, sources, atStart := (spans, sources), brokenSource := broken }
  match (Edit.editAll script.instructions).run s with
  | .ok () s => finish o words s none
  | .error (.ended status) s =>
    match Edit.closeSource.run s with
    | .ok () s | .error _ s => finish o words s (some (.ended status))
  | .error halt s => finish o words s (some halt)

def run (call : Call) : Result :=
  let words := grammar.read call.args
  match words.wrong with
  | some text => call.misuse text 1
  | none =>
    let o := words.words.foldl Options.add {}
    let (pieces, names) : List NamedPiece × List Bytes := match o.pieces, words.operands with
      | [], script :: names => ([.word script], names)
      | pieces, names => (pieces, names)
    if pieces.isEmpty then call.misuse (utf8 "no script specified") 1
    else match loadPieces call 1 0 pieces with
      | .error message => call.failure message 4
      | .ok (pieces, taken) =>
        let draft : Draft := { style := o.style, files := call.files, here := call.here }
        match readScript draft pieces with
        | (files, .error c) => { call.failure c.message c.status with files := some files, taken }
        | (files, .ok script) =>
          let call := { call with files }
          let words := pieces.countP fun p => p matches Piece.word _ _
          if names.isEmpty && o.inPlace then
            { call.failure (utf8 "no input files") 4 with files := some files, taken }
          else edit call o script words taken (if names.isEmpty then [utf8 "-"] else names)

/-- The length of the piece of a text that a place lies in: a line without its
end, or the end of a line. -/
def pieceLength (lineEnd : UInt8) (text : Bytes) (place : Nat) : Nat :=
  let (before, after) := (text.take place, text.drop place)
  if after.head? == some lineEnd then 1
  else (before.reverse.takeWhile (· != lineEnd)).length +
    (after.takeWhile (· != lineEnd)).length

/-- The program ends with what it could not write: the piece that does not fit
into the buffer, or what is in the buffer at the end. -/
def unwritable (call : Call) (e : OsError) (result : Result) : Result :=
  let text := (result.writes.map fun
    | .output text => (text.unroll (Printer.bufferSize + 1)).first
    | .errors _ => []).flatten
  let what :=
    if e = .badDescriptor then "couldn't close stdout: "
    else if text.length ≤ Printer.bufferSize then "couldn't flush stdout: "
    else
      let items := pieceLength 10 text Printer.bufferSize
      "couldn't write " ++ toString items ++ (if items = 1 then " item" else " items") ++
        " to stdout: "
  result.failing call (utf8 (what ++ failureText e)) 4

/-- How much of the input is read at once. -/
def portion : Nat := 4096

def behaviour : Behaviour := { run, unwritable, portion := some portion }

end PipelineShell.Program.StreamEditor
