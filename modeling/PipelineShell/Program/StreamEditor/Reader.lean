import PipelineShell.Program.Call
import PipelineShell.Program.StreamEditor.Instruction

/-!
# Reading editing scripts

A script comes in pieces, from words of the command line and from files.  Files
that a script writes are opened as soon as they are named.  A message about a
wrong script tells how far it has been read.
-/

namespace PipelineShell.Program.StreamEditor

/-- Why a script cannot be carried out. -/
inductive ScriptError where
  /-- it is wrong at the place up to which it has been read -/
  | wrong (message : String)
  | cannotOpen (name : Bytes) (e : OsError)
  | mistakenClass

/-- Where a file that is named in a script leads. -/
inductive Sink where
  | output
  | errors
  | file (handle : FileSystem.Handle)
  deriving Repr

/-- Options that change how a script is read. -/
structure ScriptStyle where
  extended : Bool := false
  sandbox : Bool := false
  /-- without extensions -/
  strict : Bool := false
  /-- what separates lines -/
  lineEnd : UInt8 := 10

/-- A text that goes on in the next piece: the instruction it belongs to, and what
there is of it. -/
structure OpenText where
  index : Nat
  text : List Char := []

/-- What has been read of a script. -/
structure Draft where
  style : ScriptStyle
  files : FileSystem
  here : Place
  rest : List Char := []
  /-- the first piece has only just begun -/
  atVeryStart : Bool := true
  instructions : Array Instruction := #[]
  /-- blocks that are open, with the place where each begins -/
  blocks : List (Nat × Nat) := []
  labels : List (List Char × Nat) := []
  jumps : List (Nat × List Char) := []
  outlets : Array (Bytes × Sink) := #[]
  sources : Array Bytes := #[]
  openText : Option OpenText := none
  /-- the script asks for no output but its own -/
  quiet : Bool := false

abbrev Parse (α : Type) := EStateM ScriptError Draft α

namespace Parse

def fail {α : Type} (message : String) : Parse α := throw (.wrong message)

/-- The next character, which is taken. -/
def char? : Parse (Option Char) := do
  match (← get).rest with
  | [] => return none
  | c :: rest =>
    modify fun d => { d with rest }
    return some c

def peek? : Parse (Option Char) := return (← get).rest.head?

/-- The characters as long as a condition holds, which are taken. -/
def takeWhile (p : Char → Bool) : Parse (List Char) := do
  let rest := (← get).rest
  modify fun d => { d with rest := rest.dropWhile p }
  return rest.takeWhile p

def skipBlanks : Parse Unit := do
  let _ ← takeWhile Octets.isBlank

/-- The first character that is not blank, which is taken. -/
def nonBlank? : Parse (Option Char) := do
  skipBlanks
  char?

/-- A number, zero if there are no digits.  It has 64 bits. -/
def number : Parse Nat := do
  let digits ← takeWhile Char.isDigit
  return Octets.decimal digits % Nat.pow 2 64

/-! ### Parts of instructions -/

/-- Move on to just before the next line end or to the end. -/
def toLineEnd : Parse Unit := do
  let _ ← takeWhile (· != '\n')

/-- The length of a set between brackets, after the opening one, without the one
that closes it; `none` if it is not closed on the line.  The inner state tells
whether a name in the set has been opened, and by which mark. -/
def bracketLength : (inner : Option (Char × Bool)) → (afterOpening : Bool) → List Char → Option Nat
  | _, _, [] => none
  | inner, afterOpening, c :: rest =>
    let go (inner : Option (Char × Bool)) (afterOpening : Bool) : Option Nat :=
      (bracketLength inner afterOpening rest).map (· + 1)
    if c = '\n' then none
    else match inner with
      | some (mark, closing) =>
        if closing && c = ']' then go none false
        else go (some (mark, c = mark)) false
      | none =>
        if c = ']' then some 0
        else if afterOpening && (c = '.' || c = ':' || c = '=') then go (some (c, false)) false
        else go none (c = '[')

/-- The members of a set after its opening bracket, with the closing one. -/
def bracket : Parse (Option (List Char)) := do
  let rest := (← get).rest
  let negation := if rest.head? == some '^' then 1 else 0
  let start := negation + if rest[negation]? == some ']' then 1 else 0
  match bracketLength none false (rest.drop start) with
  | none => return none
  | some length =>
    let whole := start + length + 1
    modify fun d => { d with rest := rest.drop whole }
    return some (rest.take whole)

/-- A text up to a delimiter, which is taken.  Shielded delimiters are bared.
`none` if the text is not ended on its line; then all up to there is taken. -/
def delimitedFrom (delimiter : Char) (isPattern : Bool) : (fuel : Nat) → List Char →
    Parse (Option (List Char))
  | 0, _ => return none
  | fuel + 1, done => do
    match ← peek? with
    | none => return none
    | some '\n' => return none
    | some c =>
      let _ ← char?
      if c = delimiter then return some done.reverse
      else if c = '\\' then
        match ← char? with
        | none => return none
        | some e =>
          if e = 'n' ∧ isPattern then delimitedFrom delimiter isPattern fuel ('\n' :: done)
          else if e = '\n' ∧ !isPattern then
            delimitedFrom delimiter isPattern fuel (e :: '\\' :: done)
          else if e = '\n' ∨ (e = delimiter ∧ (isPattern ∨ e != '&')) then
            delimitedFrom delimiter isPattern fuel (e :: done)
          else delimitedFrom delimiter isPattern fuel (e :: '\\' :: done)
      else if c = '[' ∧ isPattern then
        match ← bracket with
        | none =>
          toLineEnd
          return none
        | some members => delimitedFrom delimiter isPattern fuel (members.reverse ++ c :: done)
      else delimitedFrom delimiter isPattern fuel (c :: done)

def delimited (delimiter : Char) (isPattern : Bool) : Parse (Option (List Char)) := do
  delimitedFrom delimiter isPattern ((← get).rest.length + 1) []

/-- Make sense of the escapes of a text. -/
def escaped (text : List Char) : Parse (List Written) :=
  match unescape text with
  | .ok written => return written
  | .error message => fail message

/-- What may be said about an expression after it. -/
structure Modifiers where
  anyCase : Bool := false
  byLine : Bool := false

def pattern (text : List Char) (m : Modifiers) (references : Nat) : Parse Pattern := do
  if text.isEmpty then
    if m.anyCase || m.byLine then fail "cannot specify modifiers on empty regexp"
    return none
  let text := patternText (← escaped text)
  let d ← get
  let style : Regex.Style := ⟨d.style.extended, m.anyCase, m.byLine⟩
  match Regex.read style text with
  | .error e => fail e.message
  | .ok w =>
    if w.groups < references then
      fail ("invalid reference \\" ++ toString references ++ " on \x60s' command's RHS")
    if w.mistaken then throw .mistakenClass
    return some { w.machine style with lineEnd := d.style.lineEnd }

/-- The letters after the expression of an address. -/
def modifiersFrom : (fuel : Nat) → Modifiers → Parse Modifiers
  | 0, m => return m
  | fuel + 1, m => do
    skipBlanks
    match ← peek? with
    | some 'I' =>
      let _ ← char?
      modifiersFrom fuel { m with anyCase := true }
    | some 'M' =>
      let _ ← char?
      modifiersFrom fuel { m with byLine := true }
    | _ => return m

/-- An address, if one stands here. -/
def address? : Parse (Option Address) := do
  match ← peek? with
  | some '$' =>
    let _ ← char?
    return some .last
  | some c =>
    if c = '/' ∨ c = '\\' then
      let _ ← char?
      let delimiter ← if c = '\\' then char? else pure (some c)
      let text ← match delimiter with
        | some delimiter => delimited delimiter true
        | none => pure none
      match text with
      | none => fail "unterminated address regex"
      | some text =>
        let m ← modifiersFrom ((← get).rest.length + 1) {}
        return some (.found (← pattern text m 0))
    else if c.isDigit then
      let n ← number
      skipBlanks
      if (← peek?) == some '~' then
        let _ ← char?
        skipBlanks
        let step ← number
        return some (if step = 0 then .line n else .step n step)
      else return some (.line n)
    else if c = '+' ∨ c = '~' then
      let _ ← char?
      skipBlanks
      let n ← number
      return some (if c = '+' then .after n else .multiple n)
    else return none
  | none => return none

/-- The addresses before an instruction. -/
def addresses : Parse (Option Address × Option Address) := do
  match ← address? with
  | none => return (none, none)
  | some first =>
    let first ← match first with
      | .after 0 | .multiple 0 => pure (.step 0 1)
      | .after _ | .multiple _ => fail "invalid usage of +N or ~N as first address"
      | _ => pure first
    skipBlanks
    let second ← do
      if (← peek?) == some ',' then
        let _ ← char?
        skipBlanks
        match ← address? with
        | none =>
          let _ ← char?
          fail "unexpected \x60,'"
        | some second =>
          skipBlanks
          pure (some second)
      else pure none
    match first, second with
    | .line 0, some (.found _) => pure ()
    | .line 0, _ =>
      let _ ← char?
      fail "invalid usage of line address 0"
    | _, _ => pure ()
    return (some first, second)

/-- Nothing may follow an instruction on its line but the next one. -/
def endOfInstruction : Parse Unit := do
  match ← nonBlank? with
  | none | some '\n' | some ';' => return ()
  | some c =>
    if c = '\x7d' ∨ c = '#' then modify fun d => { d with rest := c :: d.rest }
    else fail "extra characters after command"

def label : Parse (List Char) := do
  skipBlanks
  takeWhile fun c => !Octets.isSpace c && c != ';' && c != '\x7d'

/-- The name of a file, which ends with the line. -/
def fileName : Parse Bytes := do
  skipBlanks
  let name ← takeWhile (· != '\n')
  let _ ← char?
  if name.isEmpty then fail "missing filename in r/R/w/W commands"
  return Octets.toBytes name

def notInSandbox : Parse Unit := do
  if (← get).style.sandbox then fail "e/r/w commands disabled in sandbox mode"

/-- The number of the outlet for a file that is named here. -/
def outlet : Parse Nat := do
  let name ← fileName
  let d ← get
  match d.outlets.findIdx? (·.1 == name) with
  | some index => return index
  | none =>
    let sink ←
      if name = utf8 "/dev/stdout" then pure Sink.output
      else if name = utf8 "/dev/stderr" then pure Sink.errors
      else match d.files.openForWriting d.here name false with
        | .error e => throw (.cannotOpen name e)
        | .ok (handle, files) =>
          modify fun d => { d with files }
          pure (Sink.file handle)
    modify fun d => { d with outlets := d.outlets.push (name, sink) }
    return d.outlets.size

/-- The number of the source for a file that is named here. -/
def source : Parse Nat := do
  let name ← fileName
  let d ← get
  match d.sources.findIdx? (· == name) with
  | some index => return index
  | none =>
    modify fun d => { d with sources := d.sources.push name }
    return d.sources.size

/-! ### Texts of several lines -/

/-- Read a text on up to a line end that is not shielded.  If the piece ends
behind a backslash, the text stays open. -/
def textFrom : (fuel : Nat) → (index : Nat) → (done : List Char) → Parse (Option Bytes)
  | 0, _, _ => return none
  | fuel + 1, index, done => do
    match ← char? with
    | none | some '\n' =>
      return some (Octets.toBytes (literalText (← escaped ('\n' :: done).reverse)))
    | some '\\' =>
      match ← char? with
      | none =>
        modify fun d => { d with openText := some ⟨index, '\n' :: done⟩ }
        return none
      | some c => textFrom fuel index (c :: '\\' :: done)
    | some c => textFrom fuel index (c :: done)

/-- Read the text of an instruction that stands at a place. -/
def text (index : Nat) (done : List Char) : Parse (Option Bytes) := do
  textFrom ((← get).rest.length + 1) index done

/-- The text of an instruction, which begins on its line or on the next one. -/
def instructionText : Parse Bytes := do
  let index := (← get).instructions.size
  skipBlanks
  match ← peek? with
  | none => fail "expected \\ after \x60a', \x60c' or \x60i'"
  | some '\\' =>
    let _ ← char?
    let blanks ← takeWhile Octets.isBlank
    match ← peek? with
    | none =>
      modify fun d => { d with openText := some ⟨index, []⟩ }
      return []
    | some '\n' =>
      let _ ← char?
      return (← text index []).getD []
    | some _ => return (← text index blanks.reverse).getD []
  | some c =>
    if (← get).style.strict then
      let _ ← char?
      fail "expected \\ after \x60a', \x60c' or \x60i'"
    else if c = '\n' then
      let _ ← char?
      return [10]
    else return (← text index []).getD []

def textAction (c : Char) (text : Bytes) : Action :=
  match c with
  | 'a' => .append text
  | 'i' => .insert text
  | _ => .change text

/-- Go on with a text that has been left open. -/
def continueText : Parse Unit := do
  let d ← get
  match d.openText with
  | none => return ()
  | some o =>
    set { d with openText := none }
    match ← text o.index o.text with
    | none => return ()
    | some text =>
      modify fun d => { d with
        instructions := d.instructions.modify o.index fun i =>
          match i.action with
          | .append _ => { i with action := .append text }
          | .insert _ => { i with action := .insert text }
          | .change _ => { i with action := .change text }
          | _ => i }

/-! ### Substitutions and translations -/

structure Flags where
  modifiers : Modifiers := {}
  nth : Option Nat := none
  everyMatch : Bool := false
  print : Bool := false
  outlet : Option Nat := none

def flagsFrom : (fuel : Nat) → Flags → Parse Flags
  | 0, f => return f
  | fuel + 1, f => do
    match ← peek? with
    | some '\x7d' | some '#' => return f
    | next =>
      if next.any Char.isDigit then
        let n ← number
        if f.nth.isSome then fail "multiple number options to \x60s' command"
        if n = 0 then fail "number option to \x60s' command may not be zero"
        flagsFrom fuel { f with nth := some n }
      else
        let c ← char?
        match c with
        | none | some '\n' | some ';' => return f
        | some 'i' | some 'I' =>
          flagsFrom fuel { f with modifiers := { f.modifiers with anyCase := true } }
        | some 'm' | some 'M' =>
          flagsFrom fuel { f with modifiers := { f.modifiers with byLine := true } }
        | some 'e' => flagsFrom fuel f
        | some 'p' =>
          if f.print then fail "multiple \x60p' options to \x60s' command"
          flagsFrom fuel { f with print := true }
        | some 'g' =>
          if f.everyMatch then fail "multiple \x60g' options to \x60s' command"
          flagsFrom fuel { f with everyMatch := true }
        | some 'w' =>
          notInSandbox
          return { f with outlet := some (← outlet) }
        | some c =>
          if Octets.isBlank c then flagsFrom fuel f
          else if c = '\r' ∧ (← peek?) == some '\n' then
            let _ ← char?
            return f
          else fail "unknown option to \x60s'"

def substitution : Parse Action := do
  let unterminated := "unterminated \x60s' command"
  let some delimiter ← char? | fail unterminated
  let some source ← delimited delimiter true | fail unterminated
  let some target ← delimited delimiter false | fail unterminated
  let segments := readSegments (← escaped target)
  let flags ← flagsFrom ((← get).rest.length + 2) {}
  let compiled ← pattern source flags.modifiers (highestGroup segments)
  let how : Substitution :=
    ⟨segments, flags.nth.getD 1, flags.everyMatch, flags.print, flags.outlet⟩
  return .substitute compiled how

/-- The table of a translation. -/
def translationTable (source target : List Char) : Array UInt8 :=
  (source.zip target).foldl
    (fun table (c, d) => table.setIfInBounds c.toNat (Octets.toByte d))
    ((List.range 256).map UInt8.ofNat).toArray

def translation : Parse Action := do
  let unterminated := "unterminated \x60y' command"
  let some delimiter ← char? | fail unterminated
  let some source ← delimited delimiter false | fail unterminated
  let source := literalText (← escaped source)
  let some target ← delimited delimiter false | fail unterminated
  let target := literalText (← escaped target)
  if source.length != target.length then
    fail "strings for \x60y' command are different lengths"
  endOfInstruction
  return .translate (translationTable source target)

/-! ### Instructions -/

/-- A version of the form `4.9` that is not above the one that is spoken here. -/
def isSpoken (version : List Char) : Bool :=
  let parts := (String.ofList version).splitOn "."
  match parts.map fun part => Octets.decimal (part.toList.takeWhile Char.isDigit) with
  | [] => true
  | [major] => major ≤ 4
  | major :: minor :: _ => major < 4 || (major = 4 && minor ≤ 9)

/-- An action that is only a letter. -/
def plainAction? : Char → Option Action
  | '=' => some .number
  | 'd' => some .delete
  | 'D' => some .deleteFirst
  | 'F' => some .fileName
  | 'g' => some .recall
  | 'G' => some .recallMore
  | 'h' => some .hold
  | 'H' => some .holdMore
  | 'n' => some .next
  | 'N' => some .nextMore
  | 'p' => some .print
  | 'P' => some .printFirst
  | 'x' => some .exchange
  | 'z' => some .clear
  | _ => none

def jumpOf (c : Char) : Jump :=
  match c with
  | 't' => .replaced
  | 'T' => .notReplaced
  | _ => .always

/-- The action that a character names, with what belongs to it. -/
def action (hasAddress hasRange : Bool) (c : Char) : Parse Action := do
  let index := (← get).instructions.size
  match plainAction? c with
  | some action =>
    endOfInstruction
    return action
  | none =>
    match c with
    | '\x7b' =>
      modify fun d => { d with blocks := (index, d.rest.length) :: d.blocks }
      return .openBlock
    | '\x7d' =>
      match (← get).blocks with
      | [] => fail "unexpected \x60\x7d'"
      | (start, _) :: blocks =>
        if hasAddress then fail "\x60\x7d' doesn't want any addresses"
        endOfInstruction
        modify fun d => { d with
          blocks
          instructions := d.instructions.modify start fun i => { i with target := index } }
        return .closeBlock
    | 'a' | 'i' | 'c' => return textAction c (← instructionText)
    | ':' =>
      if hasAddress then fail ": doesn't want any addresses"
      let name ← label
      if name.isEmpty then fail "\":\" lacks a label"
      modify fun d => { d with labels := (name, index) :: d.labels }
      return .label
    | 'b' | 't' | 'T' =>
      let name ← label
      modify fun d => { d with jumps := (index, name) :: d.jumps }
      return .jump (jumpOf c)
    | 'q' | 'Q' =>
      if hasRange then fail "command only uses one address"
      skipBlanks
      let status ← number
      endOfInstruction
      return .quit (status % 256) (c = 'q')
    | 'l' =>
      skipBlanks
      let width ← if (← peek?).any Char.isDigit then some <$> number else pure none
      endOfInstruction
      return .list width
    | 'L' =>
      skipBlanks
      let _ ← number
      endOfInstruction
      return .broken c
    | 'r' =>
      notInSandbox
      return .readFile (← fileName)
    | 'R' =>
      notInSandbox
      return .readLine (← source)
    | 'w' =>
      notInSandbox
      return .write (← outlet)
    | 'W' =>
      notInSandbox
      return .writeFirst (← outlet)
    | 'e' =>
      notInSandbox
      toLineEnd
      return .label
    | 's' => substitution
    | 'y' => translation
    | _ => fail ("unknown command: \x60" ++ String.ofList [c] ++ "'")

/-- A comment.  The very first one can ask for no output. -/
def comment (atVeryStart : Bool) : Parse Unit := do
  if atVeryStart && (← peek?) == some 'n' then modify fun d => { d with quiet := true }
  toLineEnd
  let _ ← char?

/-- One instruction or comment, after blanks. -/
def instruction (atVeryStart : Bool) : Parse Unit := do
  let (first, second) ← addresses
  skipBlanks
  let negated := (← peek?) == some '!'
  if negated then
    let _ ← char?
    skipBlanks
    if (← peek?) == some '!' then
      let _ ← char?
      fail "multiple \x60!'s"
  match ← char? with
  | none => fail "missing command"
  | some '#' =>
    if first.isSome then fail "comments don't accept any addresses"
    comment atVeryStart
  | some 'v' =>
    let version ← label
    if !isSpoken version then fail "expected newer version of sed"
  | some c =>
    let action ← action first.isSome second.isSome c
    modify fun d => { d with
      instructions := d.instructions.push { first, second, negated, action } }

/-- All instructions of a piece. -/
def instructionsFrom : (fuel : Nat) → (atVeryStart : Bool) → Parse Unit
  | 0, _ => return ()
  | fuel + 1, atVeryStart => do
    let skipped ← takeWhile fun c => c == ';' || Octets.isSpace c
    if (← peek?).isNone then return ()
    instruction (atVeryStart && skipped.isEmpty)
    instructionsFrom fuel false

/-- Read a piece of a script. -/
def piece (text : List Char) : Parse Unit := do
  let atVeryStart := (← get).atVeryStart
  modify fun d => { d with rest := text, atVeryStart := false }
  continueText
  instructionsFrom (text.length + 1) atVeryStart

end Parse

/-! ### Whole scripts -/

/-- A piece of a script: a word of the command line, with its number, or a file. -/
inductive Piece where
  | word (index : Nat) (text : List Char)
  | file (name : Bytes) (text : List Char)

def Piece.text : Piece → List Char
  | word _ text | file _ text => text

/-- A message about a place in a piece, of which so much is left. -/
def Piece.message (p : Piece) (left : Nat) (what : String) : Bytes :=
  let read := p.text.take (p.text.length - left)
  match p with
  | word index _ =>
    utf8 ("-e expression #" ++ toString index ++ ", char " ++ toString read.length ++ ": " ++ what)
  | file name _ =>
    utf8 "file " ++ name ++
      utf8 (" line " ++ toString (1 + read.count '\n') ++ ": " ++ what)

/-- What is said of a script that is wrong, with the status. -/
structure Complaint where
  message : Bytes
  status : Nat

def ScriptError.complaint (p : Piece) (left : Nat) : ScriptError → Complaint
  | wrong message => ⟨p.message left message, 1⟩
  | cannotOpen name e => ⟨utf8 "couldn't open file " ++ name ++ utf8 (": " ++ failureText e), 4⟩
  | mistakenClass => ⟨utf8 "character class syntax is [[:space:]], not [:space:]", 4⟩

/-- Read the pieces of a script one after the other; each open block is kept with
the piece in which it begins. -/
def readPieces (d : Draft) (opened : List (Nat × Piece)) :
    List Piece → FileSystem × Except Complaint (Draft × List (Nat × Piece))
  | [] => (d.files, .ok (d, opened))
  | p :: rest =>
    match Parse.piece p.text |>.run d with
    | .error e d => (d.files, .error (e.complaint p d.rest.length))
    | .ok () d =>
      let opened := d.blocks.map fun (index, _) =>
        ((opened.find? (·.1 == index)).getD (index, p))
      readPieces d opened rest

/-- A script that can be carried out. -/
structure Script where
  instructions : Array Instruction := #[]
  outlets : Array (Bytes × Sink) := #[]
  sources : Array Bytes := #[]
  quiet : Bool := false

/-- Close a text that has been left open: it stays as it is written. -/
def closeText (d : Draft) : Array Instruction :=
  match d.openText with
  | none => d.instructions
  | some o =>
    let text := Octets.toBytes o.text.reverse
    d.instructions.modify o.index fun i =>
      match i.action with
      | .append _ => { i with action := .append text }
      | .insert _ => { i with action := .insert text }
      | .change _ => { i with action := .change text }
      | _ => i

/-- Lead jumps to their labels; without a label they lead to the end. -/
def resolveJumps (d : Draft) (instructions : Array Instruction) :
    Except Complaint (Array Instruction) :=
  d.jumps.reverse.foldlM (fun instructions (index, name) =>
    match d.labels.lookup name with
    | some target => .ok (instructions.modify index fun i => { i with target })
    | none =>
      if name.isEmpty then
        .ok (instructions.modify index fun i => { i with target := instructions.size })
      else
        .error ⟨utf8 "can't find label for jump to \x60" ++ Octets.toBytes name ++ utf8 "'", 4⟩)
    instructions

/-- Read a script; the files are as they are after it has opened its own. -/
def readScript (d : Draft) (pieces : List Piece) : FileSystem × Except Complaint Script :=
  match readPieces d [] pieces with
  | (files, .error c) => (files, .error c)
  | (files, .ok (d, opened)) =>
    match d.blocks, opened with
    | (index, left) :: _, _ =>
      let complaint : Complaint := match opened.lookup index with
        | some (.word n _) =>
          ⟨utf8 ("-e expression #" ++ toString n ++ ", char 0: unmatched \x60\x7b'"), 1⟩
        | some p => ⟨p.message left "unmatched \x60\x7b'", 1⟩
        | none => ⟨utf8 "unmatched \x60\x7b'", 1⟩
      (files, .error complaint)
    | [], _ =>
      (files, (resolveJumps d (closeText d)).map fun instructions =>
        { instructions, outlets := d.outlets, sources := d.sources, quiet := d.quiet })

end PipelineShell.Program.StreamEditor
