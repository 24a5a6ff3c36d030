import PipelineShell.Program.Amount
import PipelineShell.Program.Call
import PipelineShell.Program.Options

/-!
# Beginnings of files

The first lines or bytes of each input, or all but the last ones.  Several
inputs are headed by their names.
-/

namespace PipelineShell.Program.Head

/-- How much is shown: so many lines or bytes, or all but so many. -/
structure Amount where
  count : Nat := 10
  ofBytes : Bool := false
  fromEnd : Bool := false

structure Options where
  amount : Amount := {}
  /-- whether names are shown; `none` shows them for several inputs -/
  names : Option Bool := none
  lineEnd : UInt8 := 10

/-! ### Choosing a beginning -/

/-- The length of the first lines of a text. -/
def linesLength (lineEnd : UInt8) (lines : Nat) (text : Bytes) : Nat :=
  go lines text 0
where
  go : Nat → Bytes → Nat → Nat
    | 0, _, length => length
    | _, [], length => length
    | n + 1, c :: rest, length => go (if c = lineEnd then n else n + 1) rest (length + 1)

/-- The stream with so many lines in its first text, if it can have them. -/
def unrollLines (lineEnd : UInt8) (lines : Nat) (s : Stream) : Stream :=
  if s.isEndless && s.cycle.contains lineEnd then
    s.unroll (s.first.length + lines * s.cycle.length)
  else s

/-- How many bytes of a text are shown. -/
def Amount.length (a : Amount) (lineEnd : UInt8) (text : Bytes) : Nat :=
  match a.fromEnd, a.ofBytes with
  | false, true => min a.count text.length
  | false, false => linesLength lineEnd a.count text
  | true, true => text.length - a.count
  | true, false =>
    let ended := text.isEmpty || text.getLast? == some lineEnd
    let lines := text.countP (· == lineEnd) + if ended then 0 else 1
    linesLength lineEnd (lines - a.count) text

/-- The beginning of a stream, and what it has been unrolled to. -/
def Amount.select (a : Amount) (lineEnd : UInt8) (s : Stream) : Stream × Stream :=
  let s := if a.fromEnd then s
    else if a.ofBytes then s.unroll a.count else unrollLines lineEnd a.count s
  (.ofBytes (s.first.take (a.length lineEnd s.first)), s)

/-- Inputs in which one cannot go back are read in blocks of this size. -/
def blockSize : Nat := 8192

/-- How much of an input is used up when so much of it is shown. -/
def Amount.used (a : Amount) (seekable : Bool) (length : Nat) : Nat :=
  if seekable || (a.ofBytes && !a.fromEnd) || a.count = 0 then length
  else (length + (blockSize - 1)) / blockSize * blockSize

/-- Nothing is read where nothing is shown. -/
def Amount.readsNothing (a : Amount) : Bool := a.count = 0 && !a.fromEnd

/-! ### Words -/

inductive WordError where
  | wrong (text : Bytes)
  | badNumber (inBytes : Bool) (text : Bytes) (e : AmountError)

def readAmount (inBytes : Bool) (text : Bytes) : Except WordError Amount :=
  let fromEnd := text.head? == some 45
  let digits := if fromEnd then text.drop 1 else text
  match amount? digits with
  | .ok count => .ok ⟨count, inBytes, fromEnd⟩
  | .error e => .error (.badNumber inBytes digits e)

def trailing (c : Char) : WordError :=
  .wrong (utf8 "invalid trailing option -- " ++ Octets.toBytes [c])

/-- The letters after a number in the first word; `unit` is the unit of the
number. -/
def readTrailing (o : Options) (inBytes : Bool) (unit : List Char) :
    List Char → Except WordError (Options × Bool × List Char)
  | [] => .ok (o, inBytes, unit)
  | c :: rest =>
    match c with
    | 'c' => readTrailing o true [] rest
    | 'b' | 'k' | 'm' => readTrailing o true [c] rest
    | 'l' => readTrailing o false unit rest
    | 'q' => readTrailing { o with names := some false } inBytes unit rest
    | 'v' => readTrailing { o with names := some true } inBytes unit rest
    | 'z' => readTrailing { o with lineEnd := 0 } inBytes unit rest
    | _ => .error (trailing c)

/-- A first word of a dash and a number, with letters after it. -/
def readFirst (args : List Bytes) : Except WordError (Options × List Bytes) :=
  match args with
  | (45 :: body) :: rest =>
    let cs := Octets.ofBytes body
    let digits := cs.takeWhile Char.isDigit
    if digits.isEmpty then .ok ({}, args)
    else do
      let (o, inBytes, unit) ← readTrailing {} false [] (cs.drop digits.length)
      let amount ← readAmount inBytes (Octets.toBytes (digits ++ unit))
      return ({ o with amount }, rest)
  | _ => .ok ({}, args)

def grammar : OptionGrammar where
  letters := [('c', .required), ('n', .required), ('q', .none), ('v', .none), ('z', .none)] ++
    "0123456789".toList.map fun c => (c, .none)
  long := [("bytes", .required, "c"), ("lines", .required, "n"),
    ("-presume-input-pipe", .none, "pipe"), ("quiet", .none, "q"), ("silent", .none, "q"),
    ("verbose", .none, "v"), ("zero-terminated", .none, "z"), ("help", .none, "help"),
    ("version", .none, "version")]

def setOption (o : Options) (word : CommandWord) : Except WordError Options :=
  match word with
  | .operand _ => .ok o
  | .option key value =>
    match key with
    | "c" => (readAmount true value).map fun amount => { o with amount }
    | "n" => (readAmount false value).map fun amount => { o with amount }
    | "q" => .ok { o with names := some false }
    | "v" => .ok { o with names := some true }
    | "z" => .ok { o with lineEnd := 0 }
    | _ =>
      match key.toList with
      | [c] => .error (trailing c)
      | _ => .ok o

def readWords (args : List Bytes) : Except WordError (Options × List Bytes) := do
  let (o, args) ← readFirst args
  let words := grammar.read args
  let o ← words.words.foldlM setOption o
  match words.wrong with
  | some text => throw (.wrong text)
  | none => return (o, words.operands)

/-! ### Files -/

structure Progress where
  printer : Printer := {}
  failed : Bool := false
  /-- a title has been written -/
  titled : Bool := false
  inputRead : Bool := false
  taken : Nat := 0

def Progress.complain (p : Progress) (call : Call) (text : Bytes) : Progress :=
  { p with printer := p.printer.report (call.message text), failed := true }

def Progress.title (p : Progress) (shown : Bool) (name : Bytes) : Progress :=
  if shown then
    let gap := if p.titled then utf8 "\n" else []
    { p with
      printer := p.printer.put (gap ++ utf8 "==> " ++ name ++ utf8 " <==\n"), titled := true }
  else p

def readingError (name : Bytes) (e : OsError) : Bytes :=
  utf8 "error reading " ++ quotedName name ++ utf8 (": " ++ failureText e)

def readInput (call : Call) (o : Options) (titles : Bool) (p : Progress) (name : Bytes) :
    Progress :=
  let p := { p.title titles name with inputRead := true }
  if o.amount.readsNothing then p
  else match call.stdin with
    | .error e => p.complain call (readingError name e)
    | .ok text =>
      let (_, rest) := text.take p.taken
      let (shown, unrolled) := o.amount.select o.lineEnd rest
      let used := o.amount.used call.isSeekable shown.first.length
      let used := if o.amount.fromEnd && !call.isSeekable then unrolled.first.length else used
      { p with printer := p.printer.putStream shown, taken := p.taken + used }

def readFile (call : Call) (o : Options) (titles : Bool) (p : Progress) (name : Bytes) :
    Progress :=
  if name = utf8 "-" then readInput call o titles p (utf8 "standard input")
  else match call.openToRead name with
    | .error e =>
      p.complain call (utf8 "cannot open " ++ quotedName name ++
        utf8 (" for reading: " ++ failureText e))
    | .ok .input => readInput call o titles p name
    | .ok (.content _ text) =>
      let p := p.title titles name
      if o.amount.readsNothing then p
      else match text with
        | .error e => p.complain call (readingError name e)
        | .ok text => { p with printer := p.printer.putStream (o.amount.select o.lineEnd text).1 }

def readFiles (call : Call) (o : Options) (names : List Bytes) : Result :=
  let titles := o.names.getD (1 < names.length)
  let p := names.foldl (readFile call o titles) {}
  let p := if p.inputRead && (call.channel? 0).isNone then
      p.complain call (utf8 ("-: " ++ failureText .badDescriptor))
    else p
  { writes := p.printer.writes, status := if p.failed then 1 else 0, taken := p.taken }

def run (call : Call) : Result :=
  match readWords call.args with
  | .error (.wrong text) => call.misuse text 1
  | .error (.badNumber inBytes text e) =>
    call.failure (utf8 (if inBytes then "invalid number of bytes: "
      else "invalid number of lines: ") ++ e.text text) 1
  | .ok (o, names) => readFiles call o (if names.isEmpty then [utf8 "-"] else names)

/-- Output that fills the buffer is lost while the program works. -/
def unwritable (call : Call) (e : OsError) (result : Result) : Result :=
  if Printer.bufferSize ≤ result.outputSize then
    result.failing call (utf8 ("error writing 'standard output': " ++ failureText e)) 1
  else lostAtEnd call e result

def behaviour : Behaviour := { run, unwritable, portion := some blockSize }

end PipelineShell.Program.Head
