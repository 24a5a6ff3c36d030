import PipelineShell.Program.StreamEditor.Lines

/-!
# Editing

The script is carried out on one line after the other.  A line is held in the
pattern space, a second one can be held in the hold space.  When the script has
come to its end the pattern space is written, followed by the texts and files
that have been appended to it.
-/

namespace PipelineShell.Program.StreamEditor

/-- How the program is to behave. -/
structure Manner where
  quiet : Bool := false
  strict : Bool := false
  lineEnd : UInt8 := 10
  /-- the width of listed lines -/
  width : Nat := 70
  follow : Bool := false
  /-- how copies of files that are edited in place are named -/
  backup : Option (List Char) := none

/-- Where text goes.  A line that has come without an end gets one only when
something follows it. -/
structure Outlet where
  sink : Sink
  pieces : List Bytes := []
  unended : Bool := false

/-- The state of a range of lines. -/
inductive Span where
  | waiting
  /-- it ends when its second address selects a line -/
  | active
  /-- it ends with a line; a later line may still be the end of it -/
  | upTo (finish : Nat) (later : Bool)
  | closed
  deriving DecidableEq, Repr

/-- What is written after a line. -/
inductive Appendix where
  | text (text : Bytes)
  | file (name : Bytes)

structure State where
  call : Call
  manner : Manner
  inputs : Inputs
  printer : Printer := {}
  /-- where lines go: the output, or the file that is edited in place -/
  main : Outlet := { sink := .output }
  outlets : Array Outlet := #[]
  /-- what is left of the files that lines are read from -/
  sources : Array Stream := #[]
  /-- the ranges and the files at the start of an input -/
  atStart : Array Span × Array Stream := (#[], #[])
  /-- one of these files that cannot be read -/
  brokenSource : Option (Bytes × OsError) := none
  pattern : Line := {}
  hold : Line := {}
  number : Nat := 0
  replaced : Bool := false
  spans : Array Span := #[]
  appendices : List Appendix := []
  lastPattern : Option Regex.Machine := none
  status : Nat := 0

/-- Why editing goes no further. -/
inductive Halt where
  | ended (status : Nat)
  | broken (message : Bytes)
  /-- the script refers to an expression that there has not been -/
  | noPattern

abbrev Edit (α : Type) := EStateM Halt State α

namespace Edit

/-! ### Output -/

/-- Write to a sink. -/
def writeTo (inPlace : Bool) (o : Outlet) (text : Bytes) (s : State) : Outlet × State :=
  if text.isEmpty then (o, s)
  else if inPlace then ({ o with pieces := text :: o.pieces }, s)
  else match o.sink with
    | .output => (o, { s with printer := s.printer.put text })
    | .errors => (o, { s with printer := s.printer.complain text })
    | .file _ => ({ o with pieces := text :: o.pieces }, s)

/-- A text behind the line end that may be missing before it. -/
def Outlet.completed (o : Outlet) (lineEnd : UInt8) (text : Bytes) : Bytes :=
  if o.unended then lineEnd :: text else text

def writeMain (text : Bytes) (unended : Bool) : Edit Unit :=
  modify fun s =>
    let text := Outlet.completed s.main s.manner.lineEnd text
    let (main, s) := writeTo (s.inputs.inPlace && s.inputs.current.isSome) s.main text s
    { s with main := { main with unended } }

def bytesOf (text : ByteArray) : Bytes := text.data.toList

def lineBytes (s : State) (line : Line) : Bytes :=
  bytesOf line.text ++ if line.ended then [s.manner.lineEnd] else []

/-- Write a line to the output. -/
def writeLine (line : Line) : Edit Unit := do
  writeMain (lineBytes (← get) line) !line.ended

/-- Write a line to a file that the script has named. -/
def writeOutlet (index : Nat) (line : Line) : Edit Unit :=
  modify fun s =>
    match s.outlets[index]? with
    | none => s
    | some o =>
      let text := Outlet.completed o s.manner.lineEnd (lineBytes s line)
      let (o, s) := writeTo false o text s
      { s with outlets := s.outlets.setIfInBounds index { o with unended := !line.ended } }

def complain (text : Bytes) : Edit Unit :=
  modify fun s => { s with printer := s.printer.complain (s.call.message text) }

def cannotRead {α : Type} (name : Bytes) (e : OsError) : Edit α :=
  throw (.broken (utf8 "read error on " ++ name ++ utf8 (": " ++ failureText e)))

/-- Write one appendix.  A file that cannot be opened counts as empty. -/
def writeAppendix : Appendix → Edit Unit
  | .text text => writeMain text false
  | .file name => do
    writeMain [] false
    let s ← get
    match s.call.openToRead name with
    | .error _ => return ()
    | .ok .input =>
      if let .ok text := s.call.stdin then
        let rest := (text.take s.inputs.taken).2.first
        writeMain rest false
        modify fun s =>
          { s with inputs := { s.inputs with taken := s.inputs.taken + rest.length } }
    | .ok (.content _ (.ok text)) => writeMain text.first false
    | .ok (.content _ (.error e)) => cannotRead name e

/-- Write all that has been appended. -/
def writeAppendices : Edit Unit := do
  let appendices := (← get).appendices.reverse
  modify fun s => { s with appendices := [] }
  appendices.forM writeAppendix

/-! ### Input -/

/-- The name of the copy of a file. -/
def backupName (pattern : List Char) (name : Bytes) : Bytes :=
  let dir := name.take (name.length - (name.reverse.takeWhile (· != Path.slash)).length)
  let base := name.drop dir.length
  let made := pattern.flatMap fun c => if c = '*' then base else [Octets.toByte c]
  if made.contains Path.slash then made else dir ++ made

/-- Finish with a file; one that is edited in place gets its new content. -/
def closeSource : Edit Unit :=
  modify fun s =>
    match s.inputs.current with
    | none => s
    | some source =>
      let closed := { s with inputs := { s.inputs with current := none } }
      match source.place with
      | none => closed
      | some (loc, mode) =>
        let content := s.main.pieces.reverse.flatten
        let files := s.call.files
        let files := match s.manner.backup, files.get? loc with
          | some pattern, some node =>
            match entryLocation? files s.call.here (backupName pattern source.name) with
            | some copy => files.insert copy node
            | none => files
          | _, _ => files
        let files := files.insert loc (.file content mode)
        { closed with call := { s.call with files }, main := { sink := .output } }

/-- Open the next input. -/
def openNext : Edit Unit := do
  let s ← get
  match s.inputs.waiting with
  | [] => return ()
  | name :: waiting =>
    modify fun s => { s with inputs := { s.inputs with waiting } }
    match openSource s.call s.inputs.inPlace s.manner.follow s.inputs.taken name with
    | .opened source =>
      modify fun s => { s with inputs := { s.inputs with current := some source } }
    | .missing message =>
      complain message
      modify fun s => { s with inputs := { s.inputs with missing := true } }
    | .refused message => throw (.broken message)

/-- Look whether more lines come from the files that follow; `fuel` is more than
their number. -/
def moreFollow : (fuel : Nat) → Edit Bool
  | 0 => return false
  | fuel + 1 => do
    closeSource
    if (← get).inputs.waiting.isEmpty then return false
    openNext
    match (← get).inputs.current with
    | some source => if source.rest != .empty then return true else moreFollow fuel
    | none => moreFollow fuel

/-- The line in the pattern space is the last one. -/
def isLast : Edit Bool := do
  let s ← get
  match s.inputs.current with
  | some source =>
    if source.rest != .empty then
      if source.isInput then
        modify fun s => { s with inputs := { s.inputs with seen := s.inputs.taken + 1 } }
      return false
    else if s.inputs.separate then return true
    else return !(← moreFollow (s.inputs.waiting.length + 1))
  | none =>
    if s.inputs.separate then return true
    else return !(← moreFollow (s.inputs.waiting.length + 1))

/-- Begin with an input as if it were the only one. -/
def startAnew : Edit Unit :=
  modify fun s => { s with number := 0, hold := {}, spans := s.atStart.1, sources := s.atStart.2 }

/-- Take the next line from the inputs. -/
def nextLine? : (fuel : Nat) → Edit (Option Line)
  | 0 => return none
  | fuel + 1 => do
    let s ← get
    match s.inputs.current with
    | none =>
      if s.inputs.waiting.isEmpty then return none
      if s.inputs.separate then startAnew
      openNext
      nextLine? fuel
    | some source =>
      if let some e := source.failure then
        let name := if source.name = utf8 "-" then utf8 "stdin" else source.name
        cannotRead name e
      if source.rest.isEndless && s.inputs.patience = 0 then return none
      match firstLine? s.inputs.lineEnd source.rest with
      | none =>
        closeSource
        nextLine? fuel
      | some (line, rest) =>
        let length := line.text.size + if line.ended then 1 else 0
        let taken := if source.isInput then s.inputs.taken + length else s.inputs.taken
        let patience := if rest.isEndless then s.inputs.patience - 1 else s.inputs.patience
        modify fun s => { s with
          number := s.number + 1
          inputs := { s.inputs with current := some { source with rest }, taken, patience } }
        return some line

/-- Read the next line into the pattern space, perhaps behind what is there. -/
def readPattern (behind : Bool) : Edit Bool := do
  writeAppendices
  modify fun s => { s with replaced := false }
  match ← nextLine? (2 * (← get).inputs.waiting.length + 3) with
  | none => return false
  | some line =>
    modify fun s =>
      let text := if behind then (s.pattern.text.push s.manner.lineEnd) ++ line.text else line.text
      { s with pattern := { line with text } }
    return true

/-! ### Addresses -/

/-- The expression that is meant, which then is the last one used. -/
def machine (p : Pattern) : Edit Regex.Machine := do
  match p with
  | some m =>
    modify fun s => { s with lastPattern := some m }
    return m
  | none =>
    match (← get).lastPattern with
    | some m => return m
    | none => throw .noPattern

/-- An address selects the line in the pattern space. -/
def selects : Address → Edit Bool
  | .line n => return (← get).number == n
  | .step first step => do
    let number := (← get).number
    return first ≤ number && (number - first) % step == 0
  | .last => isLast
  | .found p => do
    let m ← machine p
    return m.matches? (← get).pattern.text
  | .after _ | .multiple _ => return false

def setSpan (index : Nat) (span : Span) : Edit Unit :=
  modify fun s => { s with spans := s.spans.setIfInBounds index span }

/-- A range begins at this line. -/
def beginSpan (index : Nat) (second : Address) : Edit Unit := do
  let number := (← get).number
  let upTo (finish : Nat) (later : Bool) : Edit Unit :=
    setSpan index (if finish ≤ number then .closed else .upTo finish later)
  match second with
  | .line n => upTo n false
  | .after count => upTo (number + count) true
  | .multiple of =>
    upTo (if of = 0 then number else (number / of + 1) * of) true
  | _ => setSpan index .active

/-- A range with two addresses covers the line. -/
def covers (index : Nat) (first second : Address) : Edit Bool := do
  let number := (← get).number
  match (← get).spans.getD index .waiting, first with
  | .upTo finish later, _ =>
    if finish ≤ number then setSpan index .closed
    return later || number ≤ finish
  | .active, _ =>
    if ← selects second then setSpan index .closed
    return true
  | .closed, .line _ => return false
  | .waiting, .line n =>
    if number < n then return false
    beginSpan index second
    match second with
    | .line m => return number == n || number ≤ m
    | _ => return true
  | _, _ =>
    let begins ← selects first
    if begins then beginSpan index second
    return begins

/-- The instruction is carried out on the line. -/
def applies (index : Nat) (i : Instruction) : Edit Bool := do
  let selected ← match i.first, i.second with
    | none, _ => pure true
    | some first, none => selects first
    | some first, some second => covers index first second
  return selected != i.negated

/-! ### Listing -/

/-- A character as it is listed. -/
def listed (b : UInt8) : List Char :=
  let c := Octets.ofByte b
  if c = '\\' then ['\\', '\\']
  else if c = '\x08' then ['\\', 'b']
  else if ' ' ≤ c ∧ c ≤ '~' then [c]
  else match letterEscapes.find? (·.2 == c) with
    | some (letter, _) => ['\\', letter]
    | none =>
      let n := b.toNat
      ['\\', Char.ofNat (48 + n / 64), Char.ofNat (48 + n / 8 % 8), Char.ofNat (48 + n % 8)]

/-- A text as it is listed, broken so that no line is wider than asked for. -/
def listing (lineEnd : UInt8) (width : Nat) (text : Bytes) : Bytes :=
  let step (state : Bytes × Nat) (b : UInt8) : Bytes × Nat :=
    let shown := Octets.toBytes (listed b)
    let (done, column) := state
    if 0 < width && width - 1 < column + shown.length then
      (shown.reverse ++ lineEnd :: 92 :: done, shown.length)
    else (shown.reverse ++ done, column + shown.length)
  (text.foldl step ([], 0)).1.reverse ++ [36]

/-! ### Instructions -/

/-- What happens after an instruction. -/
inductive Next where
  | goOn (index : Nat)
  /-- the script has come to its end -/
  | finish
  /-- the pattern space is not written -/
  | drop
  /-- the script is carried out again on what is left -/
  | again

/-- Write a line that is not one of the inputs. -/
def writeOwn (text : Bytes) : Edit Unit := do
  writeLine ⟨⟨text.toArray⟩, true⟩

/-- Write a text whose last character stands for the end of a line. -/
def writeText (text : Bytes) : Edit Unit :=
  if text.isEmpty then writeMain [] false else writeOwn text.dropLast

def append (a : Appendix) : Edit Unit :=
  modify fun s => { s with appendices := a :: s.appendices }

/-- The first line of the pattern space. -/
def firstPart (s : State) : Line :=
  match s.pattern.text.data.findIdx? (· == s.manner.lineEnd) with
  | some place => ⟨s.pattern.text.extract 0 place, true⟩
  | none => s.pattern

/-- One line behind another. -/
def Line.join (lineEnd : UInt8) (first second : Line) : Line :=
  { second with text := first.text.push lineEnd ++ second.text }

def carryOut (index : Nat) (i : Instruction) : Edit Next := do
  let goOn : Next := .goOn (index + 1)
  let s ← get
  match i.action with
  | .openBlock | .closeBlock | .label => return goOn
  | .jump .always => return .goOn i.target
  | .jump .replaced =>
    modify fun s => { s with replaced := false }
    return if s.replaced then .goOn i.target else goOn
  | .jump .notReplaced =>
    modify fun s => { s with replaced := false }
    return if s.replaced then goOn else .goOn i.target
  | .append text =>
    append (.text text)
    return goOn
  | .insert text =>
    writeText text
    return goOn
  | .change text =>
    match s.spans.getD index .waiting with
    | .active | .upTo _ _ => return .drop
    | _ =>
      writeText text
      return .drop
  | .delete => return .drop
  | .deleteFirst =>
    let first := (firstPart s).text.size
    if first = s.pattern.text.size then return .drop
    else
      let text := s.pattern.text.extract (first + 1) s.pattern.text.size
      set { s with pattern := { s.pattern with text } }
      return .again
  | .print =>
    writeLine s.pattern
    return goOn
  | .printFirst =>
    writeLine (firstPart s)
    return goOn
  | .number =>
    writeOwn (utf8 (toString s.number))
    return goOn
  | .fileName =>
    let name := match s.inputs.current with
      | some source => source.name
      | none => utf8 "-"
    writeOwn name
    return goOn
  | .list width =>
    writeOwn (listing s.manner.lineEnd (width.getD s.manner.width) (bytesOf s.pattern.text))
    return goOn
  | .hold =>
    set { s with hold := s.pattern }
    return goOn
  | .holdMore =>
    set { s with hold := Line.join s.manner.lineEnd s.hold s.pattern }
    return goOn
  | .recall =>
    set { s with pattern := s.hold }
    return goOn
  | .recallMore =>
    set { s with pattern := Line.join s.manner.lineEnd s.pattern s.hold }
    return goOn
  | .exchange =>
    set { s with pattern := s.hold, hold := s.pattern }
    return goOn
  | .clear =>
    set { s with pattern := { s.pattern with text := .empty } }
    return goOn
  | .next =>
    if ← isLast then
      if s.manner.strict then return .drop
      return .finish
    else
      if !s.manner.quiet then writeLine s.pattern
      return if ← readPattern false then goOn else .drop
  | .nextMore =>
    if ← isLast then
      if s.manner.strict then return .drop
      return .finish
    else
      return if ← readPattern true then goOn else .finish
  | .quit status print =>
    if print then
      if !s.manner.quiet then writeLine s.pattern
      writeMain [] false
      writeAppendices
    throw (.ended status)
  | .readFile name =>
    append (.file name)
    return goOn
  | .readLine source =>
    if let some (name, e) := s.brokenSource then cannotRead name e
    match s.sources[source]? with
    | none => return goOn
    | some rest =>
      match firstLine? s.manner.lineEnd rest with
      | none => return goOn
      | some (line, rest) =>
        modify fun s => { s with sources := s.sources.setIfInBounds source rest }
        append (.text (lineBytes s line))
        return goOn
  | .write outlet =>
    writeOutlet outlet s.pattern
    return goOn
  | .writeFirst outlet =>
    writeOutlet outlet (firstPart s)
    return goOn
  | .substitute p how =>
    let m ← machine p
    match how.apply m s.pattern.text with
    | none => return goOn
    | some text =>
      modify fun s => { s with pattern := { s.pattern with text }, replaced := true }
      let s ← get
      if how.print then writeLine s.pattern
      if let some outlet := how.outlet then writeOutlet outlet s.pattern
      return goOn
  | .translate table =>
    let text := s.pattern.text.data.map fun b => table.getD b.toNat b
    set { s with pattern := { s.pattern with text := ⟨text⟩ } }
    return goOn
  | .broken c =>
    throw (.broken (utf8 ("INTERNAL ERROR: Bad cmd " ++ String.ofList [c])))

/-- Carry out the script on the pattern space. -/
def runScript (script : Array Instruction) : (fuel index : Nat) → Edit Next
  | 0, _ => return .finish
  | fuel + 1, index => do
    match script[index]? with
    | none => return .finish
    | some i =>
      if ← applies index i then
        match ← carryOut index i with
        | .goOn index => runScript script fuel index
        | next => return next
      else
        let index := match i.action with
          | .openBlock => i.target
          | _ => index + 1
        runScript script fuel index

/-- So many instructions are carried out on one line at most. -/
def maxSteps : Nat := 100000000

/-- Edit line after line; `kept` tells that the pattern space still holds one. -/
def editLines (script : Array Instruction) : (fuel : Nat) → (kept : Bool) → Edit Unit
  | 0, _ => return ()
  | fuel + 1, kept => do
    let isThere ← if kept then
        writeAppendices
        pure true
      else readPattern false
    if isThere then
      match ← runScript script maxSteps 0 with
      | .again => editLines script fuel true
      | .drop => editLines script fuel false
      | _ =>
        let s ← get
        if !s.manner.quiet then writeLine s.pattern
        editLines script fuel false

/-- So many lines are edited at most. -/
def maxLines : Nat := 100000000

def editAll (script : Array Instruction) : Edit Unit := do
  editLines script maxLines false
  writeAppendices

end Edit

end PipelineShell.Program.StreamEditor
