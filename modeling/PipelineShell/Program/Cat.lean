import PipelineShell.Program.Call
import PipelineShell.Program.Options

/-!
# Joining files

The inputs are written one after another.  An input that cannot be read is
told of, and the others are still written.  On request lines are numbered, blank
lines squeezed, and characters that are not seen are shown by others.
-/

namespace PipelineShell.Program.Cat

/-- How lines are marked. -/
structure Marks where
  number : Bool := false
  numberFilled : Bool := false
  ends : Bool := false
  squeeze : Bool := false
  tabs : Bool := false
  unseen : Bool := false

def Marks.ofKey (m : Marks) : String → Marks
  | "A" => { m with unseen := true, ends := true, tabs := true }
  | "b" => { m with number := true, numberFilled := true }
  | "e" => { m with unseen := true, ends := true }
  | "E" => { m with ends := true }
  | "n" => { m with number := true }
  | "s" => { m with squeeze := true }
  | "t" => { m with unseen := true, tabs := true }
  | "T" => { m with tabs := true }
  | "v" => { m with unseen := true }
  | _ => m

def grammar : OptionGrammar where
  letters := "AbeEnstTuv".toList.map fun c => (c, .none)
  long := [("number-nonblank", .none, "b"), ("number", .none, "n"),
    ("squeeze-blank", .none, "s"), ("show-nonprinting", .none, "v"),
    ("show-ends", .none, "E"), ("show-tabs", .none, "T"), ("show-all", .none, "A"),
    ("help", .none, "help"), ("version", .none, "version")]

def Marks.isPlain (m : Marks) : Bool :=
  !(m.number || m.ends || m.squeeze || m.tabs || m.unseen)

/-! ### Marking text -/

/-- Where the text stands that is being marked. -/
inductive Position where
  | insideLine
  /-- a line begins, after so many blank ones -/
  | lineStart (blanks : Nat)
  deriving DecidableEq, Repr

/-- A text that is being marked; what is finished has its latest character first. -/
structure Marking where
  position : Position := .lineStart 0
  /-- the number of the next line -/
  next : Nat := 1
  /-- a carriage return that may belong to the end of the line -/
  returnWaits : Bool := false
  done : List Char := []

def Marking.push (s : Marking) (cs : List Char) : Marking :=
  { s with done := cs.reverse ++ s.done }

/-- Put the number of a line in six columns. -/
def Marking.pushNumber (s : Marking) : Marking :=
  let digits := (toString s.next).toList
  { s.push (List.replicate (6 - digits.length) ' ' ++ digits ++ ['\t']) with next := s.next + 1 }

def caret (n : Nat) : List Char :=
  if n < 32 then ['^', Char.ofNat (n + 64)] else if n = 127 then ['^', '?'] else [Char.ofNat n]

/-- A character by characters that can be seen. -/
def visible (c : Char) : List Char :=
  let n := c.toNat
  if n < 128 then caret n else 'M' :: '-' :: caret (n - 128)

/-- How a character inside a line is shown. -/
def Marks.shown (m : Marks) (c : Char) : List Char :=
  if c = '\t' then (if m.tabs then ['^', 'I'] else [c])
  else if m.unseen then visible c else [c]

def Marks.newline (m : Marks) (s : Marking) : Marking :=
  let s := if s.returnWaits then { s.push ['^', 'M'] with returnWaits := false } else s
  let ending := if m.ends then ['$', '\n'] else ['\n']
  match s.position with
  | .insideLine => { s.push ending with position := .lineStart 0 }
  | .lineStart blanks =>
    if m.squeeze && 0 < blanks then s
    else
      let s := if m.number && !m.numberFilled then s.pushNumber else s
      { s.push ending with position := .lineStart (blanks + 1) }

def Marks.step (m : Marks) (s : Marking) (c : Char) : Marking :=
  if c = '\n' then m.newline s
  else
    let s := if s.returnWaits then { s.push ['\r'] with returnWaits := false } else s
    let s := match s.position with
      | .insideLine => s
      | .lineStart _ => if m.number then s.pushNumber else s
    let s := { s with position := .insideLine }
    if c = '\r' && m.ends && !m.unseen then { s with returnWaits := true }
    else s.push (m.shown c)

/-- Mark a text; what has been marked before is forgotten. -/
def Marks.apply (m : Marks) (s : Marking) (text : Bytes) : Bytes × Marking :=
  let s := (Octets.ofBytes text).foldl m.step { s with done := [] }
  (Octets.toBytes s.done.reverse, s)

/-- So much of a text without end is marked. -/
def markedLength : Nat := 65536

/-! ### Files -/

/-- What the program has done so far. -/
structure Progress where
  printer : Printer := {}
  marking : Marking := {}
  failed : Bool := false
  /-- the input has been named -/
  inputRead : Bool := false
  inputUsed : Bool := false
  taken : Nat := 0

def Progress.complain (p : Progress) (call : Call) (text : Bytes) : Progress :=
  { p with printer := p.printer.report (call.message text), failed := true }

def Progress.write (m : Marks) (p : Progress) (text : Stream) : Progress :=
  if m.isPlain then { p with printer := p.printer.putStream text }
  else
    let (first, marking) := m.apply p.marking
      (if text.isEndless then text.unroll markedLength else text).first
    { p with printer := p.printer.putStream ⟨first, text.cycle⟩, marking }

/-- The file of the output, if it goes to a file. -/
def outputLocation? (call : Call) : Option Location :=
  match call.channel? 1 with
  | some (.file (.atOffset loc _) _) | some (.file (.atEnd loc) _) => some loc
  | _ => none

/-- Reading the file of the output from an offset would find something. -/
def chasesOutput (call : Call) (loc : Location) (offset : Nat) : Bool :=
  outputLocation? call = some loc &&
    match call.files.get? loc with
    | some (.file content _) => offset < content.length
    | _ => false

def readInput (call : Call) (m : Marks) (p : Progress) : Progress :=
  let p := { p with inputRead := true }
  let chases := match call.channel? 0 with
    | some (.file (.atOffset loc offset) access) =>
      access.reads && !p.inputUsed && chasesOutput call loc offset
    | _ => false
  match call.stdin with
  | .error e => p.complain call (utf8 ("-: " ++ failureText e))
  | .ok text =>
    if chases then p.complain call (utf8 "-: input file is output file")
    else if p.inputUsed then p
    else { p.write m text with inputUsed := true, taken := text.first.length }

def readFile (call : Call) (m : Marks) (p : Progress) (name : Bytes) : Progress :=
  if name = utf8 "-" then readInput call m p
  else match call.openToRead name with
    | .error e => p.complain call (shownName name ++ utf8 (": " ++ failureText e))
    | .ok .input => readInput call m p
    | .ok (.content loc text) =>
      if loc.any (chasesOutput call · 0) then
        p.complain call (shownName name ++ utf8 ": input file is output file")
      else match text with
        | .error e => p.complain call (shownName name ++ utf8 (": " ++ failureText e))
        | .ok text => p.write m text

def readFiles (call : Call) (m : Marks) (names : List Bytes) : Result :=
  let p := names.foldl (readFile call m) {}
  let rest := if p.marking.returnWaits then [13] else []
  let p := { p with printer := p.printer.put rest }
  let p := if p.inputRead && (call.channel? 0).isNone then
      p.complain call (utf8 ("closing standard input: " ++ failureText .badDescriptor))
    else p
  { writes := p.printer.writes, status := if p.failed then 1 else 0, taken := p.taken }

def run (call : Call) : Result :=
  let words := grammar.read call.args
  match words.wrong with
  | some text => call.misuse text 1
  | none =>
    let marks := words.words.foldl (fun m word => match word with
      | .option key _ => m.ofKey key
      | .operand _ => m) ({} : Marks)
    if call.outputFailure? = some .badDescriptor then
      call.failure (utf8 ("standard output: " ++ failureText .badDescriptor)) 1
    else readFiles call marks (if words.operands.isEmpty then [utf8 "-"] else words.operands)

/-- The program ends with the first writing that fails. -/
def unwritable (call : Call) (e : OsError) (result : Result) : Result :=
  let before := result.writes.takeWhile (!·.isOutput)
  { result with
    writes := before ++ [.errors (call.message (utf8 ("write error: " ++ failureText e)))]
    status := 1 }

/-- How much of a pipe is read at once. -/
def portion : Nat := 65536

def behaviour : Behaviour := { run, unwritable, portion := some portion }

end PipelineShell.Program.Cat
