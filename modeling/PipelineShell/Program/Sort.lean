import PipelineShell.Program.Amount
import PipelineShell.Program.Call
import PipelineShell.Program.Options
import PipelineShell.Program.Sort.Key

/-!
# Sorting lines

The lines of all inputs in the order of their keys.  Lines with equal keys are
put in the order of their bytes, unless lines that are equal keep their places.
Inputs that are in order can be merged, and the order of one can be checked.
-/

namespace PipelineShell.Program.Sort

/-- What is done with the lines. -/
inductive Task where
  | sort
  | merge
  /-- tell whether the lines are in order, and in words where they are not -/
  | check (told : Bool)
  deriving DecidableEq, Repr

structure Settings where
  keys : List Key := []
  /-- the rule of keys that have none of their own -/
  rule : Rule := {}
  merges : Bool := false
  check : Option Bool := none
  stable : Bool := false
  unique : Bool := false
  separator : Option UInt8 := none
  lineEnd : UInt8 := 10
  output : Option Bytes := none
  /-- a file with the names of the inputs -/
  list : Option Bytes := none
  names : List Bytes := []
  helper : Option Bytes := none
  random : Option Bytes := none

/-- A call that cannot be carried out; the hint tells how to get help. -/
structure Refusal where
  text : Bytes
  status : Nat := 2
  hint : Bool := false
  /-- a second message, if there is one -/
  second : Bytes := []

def refuse {α : Type} (text : Bytes) : Except Refusal α := .error { text }


/-! ### Options -/

def grammar : OptionGrammar where
  letters := ("bcCdfghimMnrRsuVz".toList.map fun c => (c, Arity.none)) ++
    "koStTy".toList.map fun c => (c, Arity.required)
  long := [("ignore-leading-blanks", .none, "b"), ("check", .optional, "check"),
    ("compress-program", .required, "compress"), ("debug", .none, "debug"),
    ("dictionary-order", .none, "d"), ("ignore-case", .none, "f"),
    ("files0-from", .required, "list"), ("general-numeric-sort", .none, "g"),
    ("ignore-nonprinting", .none, "i"), ("key", .required, "k"), ("merge", .none, "m"),
    ("month-sort", .none, "M"), ("numeric-sort", .none, "n"),
    ("human-numeric-sort", .none, "h"), ("version-sort", .none, "V"),
    ("random-sort", .none, "R"), ("random-source", .required, "random-source"),
    ("sort", .required, "sort"), ("output", .required, "o"), ("reverse", .none, "r"),
    ("stable", .none, "s"), ("batch-size", .required, "batch-size"),
    ("buffer-size", .required, "buffer-size"), ("field-separator", .required, "t"),
    ("temporary-directory", .required, "T"), ("unique", .none, "u"),
    ("zero-terminated", .none, "z"), ("parallel", .required, "parallel"),
    ("help", .none, "help"), ("version", .none, "version")]

/-- Read a word of which an unambiguous beginning is enough; the lines show the
words that there are. -/
def choose (option : String) (choices : List (String × Char)) (lines : List String)
    (word : Bytes) : Except Refusal Char :=
  let fail (kind : String) : Except Refusal Char :=
    .error ⟨utf8 (kind ++ " argument ") ++ quotedWord word ++
      utf8 (" for '" ++ option ++ "'\nValid arguments are:" ++
        String.join (lines.map fun line => "\n  - " ++ line)), 1, true, []⟩
  let fitting := choices.filter fun choice => word.isPrefixOf (utf8 choice.1)
  match fitting.find? (fun choice => utf8 choice.1 == word), fitting with
  | some (_, letter), _ => .ok letter
  | none, [] => fail "invalid"
  | none, (_, letter) :: others =>
    if others.all (fun choice => choice.2 == letter) then .ok letter else fail "ambiguous"

def orders : List (String × Char) :=
  [("general-numeric", 'g'), ("human-numeric", 'h'), ("month", 'M'), ("numeric", 'n'),
    ("random", 'R'), ("version", 'V')]

def chooseOrder (word : Bytes) : Except Refusal Char :=
  choose "--sort" orders (orders.map fun order => "'" ++ order.1 ++ "'") word

def chooseCheck (word : Bytes) : Except Refusal Char :=
  choose "--check" [("quiet", 'C'), ("silent", 'C'), ("diagnose-first", 'c')]
    ["'quiet', 'silent'", "'diagnose-first'"] word

/-- The power of 1024 that a unit of a size stands for. -/
def sizePower (unit : Char) : Nat :=
  ['k', 'm', 'g', 't', 'p', 'e', 'z', 'y'].findIdx (· == unit.toLower) + 1

/-- Units of a size that stand for a power of 1024. -/
def sizeUnits : List Char := "EgGkKmMPtTYZ".toList

/-- Units that a size may have without being larger: bytes, and parts of what
there is. -/
def plainUnits : List Char := "b%".toList

/-- A number of threads, files or bytes; a unit may follow if it is a size. -/
def readSize (option : String) (isSize : Bool) (word : Bytes) : Except Refusal Nat :=
  let argument : Bytes := utf8 (option ++ " argument ") ++ quotedWord word
  match Key.readCount? (Octets.ofBytes word) with
  | none => refuse (utf8 "invalid " ++ argument)
  | some (n, unit) =>
    let factor? := match unit with
      | [] => some 1
      | [c] =>
        if !isSize then none
        else if plainUnits.contains c then some 1
        else if sizeUnits.contains c then some (Nat.pow 1024 (sizePower c))
        else none
      | _ => none
    match factor? with
    | none => refuse (utf8 "invalid suffix in " ++ argument)
    | some factor =>
      if Key.maxCount ≤ n * factor then refuse (argument ++ utf8 " too large") else .ok n

def fewestFiles : Nat := 2

def setSeparator (s : Settings) (word : Bytes) : Except Refusal Settings := do
  let byte ← match word with
    | [] => refuse (utf8 "empty tab")
    | [b] => .ok b
    | _ =>
      if word = utf8 "\\0" then .ok 0 else refuse (utf8 "multi-character tab " ++ quotedWord word)
  if s.separator.any (· != byte) then refuse (utf8 "incompatible tabs")
  else return { s with separator := some byte }

/-- A value that may be given several times, but only as the same. -/
def setOnce (old : Option Bytes) (word : Bytes) (what : String) : Except Refusal (Option Bytes) :=
  if old.any (· != word) then refuse (utf8 ("multiple " ++ what ++ " specified"))
  else .ok (some word)

def setCheck (s : Settings) (letter : Char) : Except Refusal Settings :=
  let told := letter == 'c'
  if s.check.any (· != told) then refuse (utf8 "options '-cC' are incompatible")
  else .ok { s with check := some told }

def keyError {α : Type} (result : Except Bytes α) : Except Refusal α :=
  match result with
  | .ok a => .ok a
  | .error text => refuse text

/-- A word that is no option: an old way to write a key, or a name.  The two
words of an old key come as one with a zero byte between them. -/
def setOperand (s : Settings) (word : Bytes) : Except Refusal Settings :=
  let name : Settings := { s with names := s.names ++ [word] }
  match word with
  | 43 :: rest =>
    let first := rest.takeWhile (· != 0)
    match Key.readOldStart? first, rest.drop first.length with
    | some key, [] => .ok { s with keys := s.keys ++ [key] }
    | some key, _ :: second => do
      let key ← keyError (key.readOldEnd second)
      return { s with keys := s.keys ++ [key] }
    | none, _ => .ok name
  | _ => .ok name

def setOption (s : Settings) (key : String) (value : Bytes) : Except Refusal Settings :=
  match key with
  | "k" => do return { s with keys := s.keys ++ [← keyError (Key.read value)] }
  | "m" => .ok { s with merges := true }
  | "s" => .ok { s with stable := true }
  | "u" => .ok { s with unique := true }
  | "z" => .ok { s with lineEnd := 0 }
  | "t" => setSeparator s value
  | "o" => do return { s with output := ← setOnce s.output value "output files" }
  | "compress" => do return { s with helper := ← setOnce s.helper value "compress programs" }
  | "random-source" => do return { s with random := ← setOnce s.random value "random sources" }
  | "list" => .ok { s with list := some value }
  | "c" | "C" => setCheck s (key.toList.headD 'c')
  | "check" => do
    let letter ← if value.isEmpty then .ok 'c' else chooseCheck value
    setCheck s letter
  | "sort" => do
    let letter ← chooseOrder value
    return { s with rule := (s.rule.addLetter? .both letter).getD s.rule }
  | "S" => do
    discard (readSize "-S" true value)
    return s
  | "buffer-size" => do
    discard (readSize "--buffer-size" true value)
    return s
  | "parallel" => do
    if (← readSize "--parallel" false value) = 0 then refuse (utf8 "number in parallel must be nonzero")
    else return s
  | "batch-size" => do
    if (← readSize "--batch-size" false value) < fewestFiles then
      .error {
        text := utf8 "invalid --batch-size argument " ++ quotedWord value
        second := utf8 "minimum --batch-size argument is '2'" }
    else return s
  | _ =>
    match key.toList with
    | [c] => .ok { s with rule := (s.rule.addLetter? .both c).getD s.rule }
    | _ => .ok s

/-- Join the two words of an old way to write a key. -/
def joinOldKeys : List Bytes → List Bytes
  | (43 :: first) :: (45 :: d :: second) :: rest =>
    if (Key.readOldStart? first).isSome && (Octets.ofByte d).isDigit then
      ((43 :: first) ++ 0 :: 45 :: d :: second) :: joinOldKeys rest
    else (43 :: first) :: joinOldKeys ((45 :: d :: second) :: rest)
  | word :: rest => word :: joinOldKeys rest
  | [] => []

def readWords (args : List Bytes) : Except Refusal Settings := do
  let words := grammar.read (joinOldKeys args)
  let s ← words.words.foldlM (fun s word => match word with
    | .option key value => setOption s key value
    | .operand word => setOperand s word) ({} : Settings)
  match words.wrong with
  | some text => .error { text, hint := true }
  | none => return s

/-- The keys by which lines are compared: keys without a rule get that of all. -/
def Settings.completeKeys (s : Settings) : List Key :=
  if s.keys.isEmpty then if s.rule.isDefault then [] else [{ rule := s.rule }]
  else s.keys.map fun key =>
    if key.rule.isDefault && !key.rule.reversed then { key with rule := s.rule } else key

/-- The settings with complete keys. -/
def Settings.complete (s : Settings) : Except Refusal Settings :=
  let keys := s.completeKeys
  match keys.find? (·.rule.isContradictory) with
  | some key => refuse (utf8 ("options '-" ++ key.rule.letters ++ "' are incompatible"))
  | none => .ok { s with keys }

def Settings.task (s : Settings) : Task :=
  match s.check with
  | some told => .check told
  | none => if s.merges then .merge else .sort

/-! ### The order of lines -/

def orderByKeys (separator : Option UInt8) : List Key → Bytes → Bytes → Ordering
  | [], _, _ => .eq
  | key :: keys, a, b => (key.order separator a b).then (orderByKeys separator keys a b)

/-- The order of lines.  Where lines have equal keys, all their bytes decide. -/
def Settings.order (s : Settings) (a b : Bytes) : Ordering :=
  let byKeys := orderByKeys s.separator s.keys a b
  if !s.keys.isEmpty && (byKeys != .eq || s.unique || s.stable) then byKeys
  else
    let order := compareBytes a b
    if s.rule.reversed then order.swap else order

/-- Drop each line that is equal to the last one that was kept. -/
def dropRepeated (order : Bytes → Bytes → Ordering) : List Bytes → List Bytes
  | a :: b :: rest =>
    if order a b == .eq then dropRepeated order (a :: rest)
    else a :: dropRepeated order (b :: rest)
  | lines => lines
termination_by lines => lines.length

def sortLines (order : Bytes → Bytes → Ordering) (lines : List Bytes) : List Bytes :=
  lines.mergeSort fun a b => order a b != .gt

/-- The place of the least of the first lines of inputs. -/
def leastFront (order : Bytes → Bytes → Ordering) (inputs : List (List Bytes)) :
    Option (Nat × Bytes) :=
  (inputs.zipIdx.foldl (fun least (input, index) =>
    match input.head?, least with
    | none, _ => least
    | some line, none => some (index, line)
    | some line, some (_, other) => if order line other == .lt then some (index, line) else least)
    none)

/-- Take again and again the least of the first lines of inputs. -/
def mergeLines (order : Bytes → Bytes → Ordering) : (fuel : Nat) → List (List Bytes) → List Bytes
  | 0, _ => []
  | fuel + 1, inputs =>
    match leastFront order inputs with
    | none => []
    | some (index, line) => line :: mergeLines order fuel (inputs.modify index (·.drop 1))

/-- The number and the text of the first line that is out of order. -/
def disorder? (order : Bytes → Bytes → Ordering) (unique : Bool) :
    (number : Nat) → List Bytes → Option (Nat × Bytes)
  | number, a :: b :: rest =>
    let order' := order a b
    if order' == .gt || (unique && order' == .eq) then some (number + 1, b)
    else disorder? order unique (number + 1) (b :: rest)
  | _, _ => none

/-- The lines of a text without their ends. -/
def linesOf (lineEnd : UInt8) (text : Bytes) : List Bytes :=
  go text [] []
where
  go : Bytes → Bytes → List Bytes → List Bytes
    | [], line, done => (if line.isEmpty then done else line.reverse :: done).reverse
    | c :: rest, line, done =>
      if c = lineEnd then go rest [] (line.reverse :: done) else go rest (c :: line) done

def Settings.textOf (s : Settings) (lines : List Bytes) : Bytes :=
  lines.flatMap (· ++ [s.lineEnd])

/-! ### Inputs -/

def isInput (name : Bytes) : Bool := name = utf8 "-"

def fileFailure {α : Type} (what : String) (name : Bytes) (e : OsError) : Except Refusal α :=
  refuse (utf8 (what ++ ": ") ++ shownName name ++ utf8 (": " ++ failureText e))

/-- All inputs have to be there before the first is read. -/
def checkInputs (call : Call) (names : List Bytes) : Except Refusal Unit := do
  for name in names do
    if !isInput name then
      match call.openToRead name with
      | .ok _ => pure ()
      | .error e => fileFailure "cannot read" name e

/-- What has been read, and how much of the input has been used up. -/
structure Gathered where
  texts : List Bytes := []
  inputUsed : Bool := false
  taken : Nat := 0

def gatherInput (g : Gathered) (text : Stream) : Gathered :=
  if g.inputUsed then { g with texts := g.texts ++ [[]] }
  else
    { texts := g.texts ++ [text.first], inputUsed := true, taken := text.first.length }

def gather (call : Call) (task : Task) (g : Gathered) (name : Bytes) :
    Except Refusal Gathered := do
  let fromInput : Except Refusal Gathered :=
    match call.stdin with
    | .ok text => .ok (gatherInput g text)
    | .error e =>
      fileFailure (if task = .sort && (call.channel? 0).isNone then "stat failed" else "read failed")
        name e
  if isInput name then fromInput
  else match call.openToRead name with
    | .error e => fileFailure "open failed" name e
    | .ok .input => fromInput
    | .ok (.content _ (.ok text)) => .ok { g with texts := g.texts ++ [text.first] }
    | .ok (.content _ (.error e)) => fileFailure "read failed" name e

/-- Names that stand in a file, each ended by a zero byte. -/
def readList (call : Call) (s : Settings) (list : Bytes) :
    Except Refusal (List Bytes × Gathered) := do
  match s.names with
  | name :: _ =>
    .error {
      text := utf8 "extra operand " ++ quotedName name ++
        utf8 "\nfile operands cannot be combined with --files0-from"
      hint := true }
  | [] =>
    let g ← gather call .merge {} list
    let names := linesOf 0 g.texts.flatten
    let place (i : Nat) : Bytes := shownName list ++ utf8 (":" ++ toString (i + 1) ++ ": ")
    if names.isEmpty then refuse (utf8 "no input from " ++ quotedName list)
    else
      for (name, i) in names.zipIdx do
        if name.isEmpty then refuse (place i ++ utf8 "invalid zero-length file name")
        else if isInput list && isInput name then
          refuse (utf8 "when reading file names from stdin, no file name of " ++
            quotedName name ++ utf8 " allowed")
      return (names, { g with texts := [] })

/-! ### The output -/

/-- Where the lines go. -/
inductive Destination where
  | output
  | file (handle : FileSystem.Handle) (name : Bytes)

/-- Open the file of the output; what is in it stays until lines are written. -/
def openOutput (call : Call) (s : Settings) :
    Except Refusal (Destination × Option FileSystem) :=
  match s.output with
  | none => .ok (.output, none)
  | some name =>
    match (call.files.descriptorOf? call.here name).bind call.channel? with
    | some (.collected _ _ _) => .ok (.output, none)
    | some (.file (.atOffset loc _) _) | some (.file (.atEnd loc) _) =>
      .ok (.file (.atOffset loc 0) name, some call.files)
    | _ =>
      match call.files.openForWriting call.here name true with
      | .error e => fileFailure "open failed" name e
      | .ok (.atEnd loc, files) => .ok (.file (.atOffset loc 0) name, some files)
      | .ok (handle, files) => .ok (.file handle name, some files)

/-- How much output is gathered before it is written. -/
def isLarge (text : Bytes) : Bool := Printer.bufferSize ≤ text.length

/-- What is said about output that cannot be written. -/
def writeFailure (call : Call) (name : Bytes) (e : OsError) (text : Bytes) : Bytes :=
  let what := if isLarge text then "write failed: " else "fflush failed: "
  let cause := if isLarge text && e = .badDescriptor then ": " ++ failureText e else ""
  call.message (utf8 what ++ shownName name ++ utf8 (": " ++ failureText e)) ++
    call.message (utf8 ("write error" ++ cause))

/-- Write the lines. -/
def store (call : Call) (destination : Destination) (files : Option FileSystem) (text : Bytes)
    (taken : Nat) : Result :=
  match destination, files with
  | .file handle name, some files =>
    let files := match handle with
      | .atOffset loc _ =>
        match files.get? loc with
        | some (.file _ mode) => files.insert loc (.file [] mode)
        | _ => files
      | _ => files
    match files.write handle text with
    | .ok (_, files) => { taken, files := some files }
    | .error e =>
      { writes := [.errors (writeFailure call name e text)], status := 2, taken
        files := some files }
  | _, _ => { writes := [.output (.ofBytes text)], taken }

/-! ### Carrying out -/

def Settings.carryOut (s : Settings) (call : Call) (names : List Bytes) (g : Gathered) :
    Except Refusal Result := do
  match s.task with
  | .check told =>
    match names with
    | _ :: extra :: _ =>
      refuse (utf8 "extra operand " ++ quotedName extra ++
        utf8 (" not allowed with -" ++ if told then "c" else "C"))
    | _ =>
      if s.output.isSome then
        refuse (utf8 ("options '-" ++ (if told then "c" else "C") ++ "o' are incompatible"))
      else
        let g ← names.foldlM (gather call s.task) g
        match disorder? s.order s.unique 1 (linesOf s.lineEnd g.texts.flatten) with
        | none => return { taken := g.taken }
        | some (number, line) =>
          let message := call.name ++ utf8 ": " ++ names.headD [] ++
            utf8 (":" ++ toString number ++ ": disorder: ") ++ line ++ [s.lineEnd]
          return { writes := if told then [.errors message] else [], status := 1, taken := g.taken }
  | task =>
    checkInputs call names
    let (destination, files) ← openOutput call s
    let inputs := { call with files := files.getD call.files }
    match names.foldlM (gather inputs task) g with
    | .error refusal =>
      return { call.failure refusal.text refusal.status with files }
    | .ok g =>
      let inputs := g.texts.map (linesOf s.lineEnd)
      let lines := if task = .merge
        then mergeLines s.order ((inputs.map List.length).foldl (· + ·) 1) inputs
        else sortLines s.order inputs.flatten
      let lines := if s.unique then dropRepeated s.order lines else lines
      return store call destination files (s.textOf lines) g.taken

/-- Read the words of a call and carry out what they ask for. -/
def work (call : Call) : Except Refusal Result := do
  let s ← readWords call.args
  let (names, g) ← match s.list with
    | some list => readList call s list
    | none => .ok (s.names, {})
  let s ← s.complete
  s.carryOut call (if names.isEmpty then [utf8 "-"] else names) g

def run (call : Call) : Result :=
  match work call with
  | .ok result => result
  | .error refusal =>
    if refusal.hint then call.misuse refusal.text refusal.status
    else
      let result := call.failure refusal.text refusal.status
      if refusal.second.isEmpty then result
      else { result with writes := result.writes ++ [.errors (call.message refusal.second)] }

def unwritable (call : Call) (e : OsError) (result : Result) : Result :=
  let text := (result.writes.filterMap fun
    | .output s => some s.first
    | .errors _ => none).flatten
  { result with
    writes := [.errors (writeFailure call (utf8 "standard output") e text)], status := 2 }

def behaviour : Behaviour := { run, unwritable }

end PipelineShell.Program.Sort
