import PipelineShell.Program.StreamEditor.Reader

/-!
# The lines of the inputs

The inputs are read one after the other, line by line.  To know that a line is
the last one, the next inputs have to be looked at.
-/

namespace PipelineShell.Program.StreamEditor

/-- A line without its end, and whether it had one. -/
structure Line where
  text : ByteArray := .empty
  ended : Bool := true

/-- A file that is being read. -/
structure Source where
  name : Bytes
  rest : Stream
  /-- it is the input of the program -/
  isInput : Bool := false
  /-- reading fails -/
  failure : Option OsError := none
  /-- the entry of a file that is edited in place, with its mode -/
  place : Option (Location × Nat) := none

/-- The inputs: the one that is being read, and those that follow. -/
structure Inputs where
  current : Option Source := none
  waiting : List Bytes
  /-- each input has lines and a last line of its own -/
  separate : Bool := false
  inPlace : Bool := false
  lineEnd : UInt8 := 10
  /-- how much of the program's input has been used -/
  taken : Nat := 0
  /-- how much of it has been looked at -/
  seen : Nat := 0
  missing : Bool := false
  /-- so many lines of an endless input are read at most -/
  patience : Nat := 5000

/-- The first line of a stream, and what follows it. -/
def firstLine? (lineEnd : UInt8) (s : Stream) : Option (Line × Stream) :=
  let s := if s.isEndless && !s.first.contains lineEnd then
      s.unroll (s.first.length + s.cycle.length)
    else s
  if s.first.isEmpty then none
  else
    let text := s.first.takeWhile (· != lineEnd)
    match s.first.drop text.length with
    | [] => some (⟨⟨text.toArray⟩, false⟩, ⟨[], s.cycle⟩)
    | _ :: rest => some (⟨⟨text.toArray⟩, true⟩, ⟨rest, s.cycle⟩)

/-- What comes of opening an input. -/
inductive Opening where
  | opened (source : Source)
  | missing (message : Bytes)
  /-- the program stops -/
  | refused (message : Bytes)

/-- The entry to which a name leads, without following a link at its end. -/
def entryLocation? (files : FileSystem) (here : Place) (name : Path) : Option Location :=
  match name.names.reverse with
  | [] => none
  | last :: before =>
    match files.descend FileSystem.maxLinks (here.start name) before.reverse with
    | .ok (dir, _) => some (last :: dir.location)
    | .error _ => none

/-- Open an input; so much of the program's own input has been used. -/
def openSource (call : Call) (inPlace follow : Bool) (taken : Nat) (name : Bytes) : Opening :=
  let ofInput (name : Bytes) : Opening :=
    match call.stdin with
    | .ok s => .opened { name, rest := (s.take taken).2, isInput := true }
    | .error e => .opened { name, rest := .empty, isInput := true, failure := some e }
  if name = utf8 "-" ∧ !inPlace then ofInput name
  else match call.openToRead name with
    | .error e => .missing (utf8 "can't read " ++ name ++ utf8 (": " ++ failureText e))
    | .ok found =>
      if inPlace then
        match call.files.find call.here name, entryLocation? call.files call.here name,
          call.files.locate call.here name with
        | .ok (.file content mode), some entry, .ok place =>
          let loc := if follow then place.location else entry
          .opened { name, rest := .ofBytes content, place := some (loc, mode) }
        | _, _, _ => .refused (utf8 "couldn't edit " ++ name ++ utf8 ": not a regular file")
      else match found with
        | .input => ofInput name
        | .content _ (.ok rest) => .opened { name, rest }
        | .content _ (.error e) => .opened { name, rest := .empty, failure := some e }

end PipelineShell.Program.StreamEditor
