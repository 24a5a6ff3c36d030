import PipelineShell.Program.Head

/-!
# Ends of files

The last lines or bytes of each input, or all but the first ones.  Several
inputs are headed by their names.
-/

namespace PipelineShell.Program.Tail

open Head (Progress readingError)

/-- How much is shown: the last lines or bytes, or all from a line or byte on. -/
structure Amount where
  count : Nat := 10
  ofBytes : Bool := false
  fromStart : Bool := false

structure Options where
  amount : Amount := {}
  /-- whether names are shown; `none` shows them for several inputs -/
  names : Option Bool := none
  lineEnd : UInt8 := 10

/-! ### Choosing an end -/

/-- The length of what comes before the end that is shown. -/
def Amount.skipped (a : Amount) (lineEnd : UInt8) (text : Bytes) : Nat :=
  match a.fromStart, a.ofBytes with
  | true, true => min (a.count - 1) text.length
  | true, false => Head.linesLength lineEnd (a.count - 1) text
  | false, true => text.length - a.count
  | false, false =>
    let ended := text.isEmpty || text.getLast? == some lineEnd
    let lines := text.countP (· == lineEnd) + if ended then 0 else 1
    Head.linesLength lineEnd (lines - a.count) text

def Amount.select (a : Amount) (lineEnd : UInt8) (text : Bytes) : Bytes :=
  text.drop (a.skipped lineEnd text)

/-- What cannot be read ends the program where the whole rest would be shown. -/
def Amount.givesUp (a : Amount) : Bool := a.ofBytes || (a.fromStart && a.count ≤ 1)

def Amount.showsNothing (a : Amount) : Bool := a.count = 0 && !a.fromStart

/-! ### Words -/

inductive WordError where
  | wrong (text : Bytes)
  /-- a failure with no advice about the words -/
  | failed (text : Bytes)

def readAmount (inBytes : Bool) (text : Bytes) : Except WordError Amount :=
  let fromStart := text.head? == some 43
  let digits := if text.head? == some 45 then text.drop 1 else text
  match amount? digits with
  | .ok count => .ok ⟨count, inBytes, fromStart⟩
  | .error e =>
    .error (.failed (utf8 (if inBytes then "invalid number of bytes: "
      else "invalid number of lines: ") ++ e.text digits))

/-- The amount that a first word writes without the name of an option. -/
def shortAmount? (word : Bytes) : Option (Except WordError Amount) :=
  let body := Octets.ofBytes (word.drop 1)
  let fromStart := word.head? == some 43
  if word.head? != some 45 && !fromStart then none
  else if !fromStart && (body.isEmpty || body = ['c']) then none
  else
    let digits := body.takeWhile Char.isDigit
    let read (default : Nat) (inBytes : Bool) (unit : List Char) : Except WordError Amount :=
      if digits.isEmpty then .ok ⟨default, inBytes, fromStart⟩
      else match amount? (Octets.toBytes (digits ++ unit)) with
        | .ok count => .ok ⟨count, inBytes, fromStart⟩
        | .error _ => .error (.failed (quotedWord word ++ utf8 ": invalid number"))
    match body.drop digits.length with
    | [] | ['l'] => some (read 10 false [])
    | ['c'] => some (read 10 true [])
    | ['b'] => some (read 5120 true ['b'])
    | _ => none

/-- A first word that is an amount, followed by one name at most. -/
def readFirst (args : List Bytes) : Except WordError (Options × List Bytes) :=
  let read (word : Bytes) (rest : List Bytes) : Except WordError (Options × List Bytes) :=
    match shortAmount? word with
    | none => .ok ({}, args)
    | some amount => amount.map fun amount => ({ amount }, rest)
  match args with
  | [word] => read word []
  | [word, name] =>
    if name.head? == some 45 && name.length != 1 && name != [45, 45] then .ok ({}, args)
    else read word [name]
  | [word, [45, 45], name] => read word [[45, 45], name]
  | _ => .ok ({}, args)

def grammar : OptionGrammar where
  letters := [('c', .required), ('n', .required), ('f', .none), ('F', .none), ('q', .none),
    ('s', .required), ('v', .none), ('z', .none)] ++ "0123456789".toList.map fun c => (c, .none)
  long := [("bytes", .required, "c"), ("follow", .optional, "f"), ("lines", .required, "n"),
    ("max-unchanged-stats", .required, "s"), ("-disable-inotify", .none, "f"),
    ("pid", .required, "s"), ("-presume-input-pipe", .none, "pipe"), ("quiet", .none, "q"),
    ("retry", .none, "retry"), ("silent", .none, "q"), ("sleep-interval", .required, "s"),
    ("verbose", .none, "v"), ("zero-terminated", .none, "z"), ("help", .none, "help"),
    ("version", .none, "version")]

def setOption (o : Options) (word : CommandWord) : Except WordError Options :=
  match word with
  | .operand _ => .ok o
  | .option key value =>
    match key with
    | "c" => (readAmount true value).map fun amount => { o with amount }
    | "n" => (readAmount false value).map fun amount => { o with amount }
    | "q" => .ok { o with names := some false }
    | "v" => .ok { o with names := some true }
    | "z" => .ok { o with lineEnd := 0 }
    | _ =>
      if key.toList.all Char.isDigit then
        .error (.failed (utf8 ("option used in invalid context -- " ++ key)))
      else .ok o

def readWords (args : List Bytes) : Except WordError (Options × List Bytes) := do
  let (o, args) ← readFirst args
  let words := grammar.read args
  let o ← words.words.foldlM setOption o
  match words.wrong with
  | some text => throw (.wrong text)
  | none => return (o, words.operands)

/-! ### Files -/

structure Reading where
  progress : Progress := {}
  /-- nothing more is read -/
  ended : Bool := false

def readInput (call : Call) (o : Options) (titles : Bool) (p : Progress) (name : Bytes) :
    Progress :=
  match call.stdin with
  | .error e =>
    if e = .badDescriptor then
      p.complain call (utf8 "cannot fstat " ++ quotedName name ++ utf8 (": " ++ failureText e))
    else ({ p.title titles name with inputRead := true }).complain call (readingError name e)
  | .ok text =>
    let p := { p.title titles name with inputRead := true }
    let rest := text.first.drop p.taken
    { p with
      printer := p.printer.put (o.amount.select o.lineEnd rest), taken := p.taken + rest.length }

def readFile (call : Call) (o : Options) (titles : Bool) (r : Reading) (name : Bytes) :
    Reading :=
  let p := r.progress
  if r.ended then r
  else if name = utf8 "-" then
    { r with progress := readInput call o titles p (utf8 "standard input") }
  else match call.openToRead name with
    | .error e =>
      { r with progress := p.complain call (utf8 "cannot open " ++ quotedName name ++
          utf8 (" for reading: " ++ failureText e)) }
    | .ok .input => { r with progress := readInput call o titles p name }
    | .ok (.content _ text) =>
      let p := p.title titles name
      match text with
      | .error e => ⟨p.complain call (readingError name e), o.amount.givesUp⟩
      | .ok text =>
        let shown := o.amount.select o.lineEnd text.first
        { r with progress := { p with printer := p.printer.put shown } }

def readFiles (call : Call) (o : Options) (names : List Bytes) : Result :=
  if o.amount.showsNothing then {}
  else
    let titles := o.names.getD (1 < names.length)
    let p := (names.foldl (readFile call o titles) {}).progress
    let p := if (call.channel? 0).isNone && names.contains (utf8 "-") then
        p.complain call (utf8 ("-: " ++ failureText .badDescriptor))
      else p
    { writes := p.printer.writes, status := if p.failed then 1 else 0, taken := p.taken }

def run (call : Call) : Result :=
  match readWords call.args with
  | .error (.wrong text) => call.misuse text 1
  | .error (.failed text) => call.failure text 1
  | .ok (o, names) => readFiles call o (if names.isEmpty then [utf8 "-"] else names)

def behaviour : Behaviour := { run, unwritable := Head.unwritable }

end PipelineShell.Program.Tail
