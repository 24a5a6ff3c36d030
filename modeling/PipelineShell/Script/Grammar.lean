import PipelineShell.Script.WordReading

/-!
# Reading commands of scripts

A script is read command by command, a complete one at a time.  Only where a
command can begin are words reserved, and only there are aliases replaced.
-/

namespace PipelineShell.Script

namespace Read

/-- What is read by what is itself part of it. -/
inductive Goal where
  /-- a list of commands; it may be empty, and reserved words end it from the start -/
  | list (mayBeEmpty : Bool)
  | command
  deriving DecidableEq, Repr

/-- Where a command begins. -/
def commandStart : Checks := { keywords := true, aliases := true }

def afterNewlines (checks : Checks) : Checks := { checks with newlines := true }

/-- The names that no function can have. -/
def reservedNames : List String :=
  [".", ":", "break", "continue", "eval", "exec", "exit", "export", "readonly", "return", "set",
    "shift", "times", "trap", "unset", "local"]

section

variable (self : Goal → Read Command)

/-! ### Tokens -/

def skipComment : (fuel : Nat) → Read Unit
  | 0 => pure ()
  | fuel + 1 => do
    let c ← nextRaw
    if c = some '\n' || c = none then unread c else skipComment fuel

/-- A sign that may be doubled. -/
def doubled (sign : Char) (twice once : Token) : Read Token := do
  let c ← next
  if c = some sign then return twice
  else
    unread c
    return once

/-- Read the next token from the text. -/
def freshToken : (fuel : Nat) → Read Token
  | 0 => return .endOfText
  | fuel + 1 => do
    let c ← next
    match c with
    | some ' ' | some '\t' => freshToken fuel
    | some '#' =>
      skipComment Source.readingLimit
      freshToken fuel
    | some '\n' =>
      countLine
      return .newline
    | none => return .endOfText
    | some '&' => doubled '&' .andThen .ampersand
    | some '|' => doubled '|' .orElse .bar
    | some ';' => doubled ';' .endOfArm .semicolon
    | some '(' => return .openParen
    | some ')' => return .closeParen
    | _ => wordFrom (self (.list true)) c

/-- Read the next token, which may have been read before. -/
def plainToken : Read Token := do
  let r ← get
  if r.pushedBack then
    set { r with pushedBack := false }
    return r.last
  else
    let t ← freshToken self Source.readingLimit
    modify fun r => { r with last := t }
    return t

def skipNewlines : (fuel : Nat) → Token → Read Token
  | 0, t => return t
  | fuel + 1, t => do
    if t = .newline then
      readDocuments (self (.list true))
      check {}
      skipNewlines fuel (← plainToken self)
    else return t

/-- Read the next token as the checks demand. -/
def tokenFor : (fuel : Nat) → Checks → Read Token
  | 0, _ => return .endOfText
  | fuel + 1, wanted => do
    let t ← plainToken self
    let t ← if wanted.newlines then skipNewlines self Source.readingLimit t else pure t
    let r ← get
    let wanted : Checks :=
      { wanted with
        keywords := wanted.keywords || r.checks.keywords
        aliases := wanted.aliases || r.checks.aliases }
    check {}
    if t != .word || r.wordIsQuoted then return t
    else match Word.literal? r.word with
      | none => return t
      | some text =>
        match if wanted.keywords then Keyword.ofText? text else none with
        | some k =>
          modify fun r => { r with last := .keyword k }
          return .keyword k
        | none =>
          match if wanted.aliases && !r.source.inUse text then r.aliases.lookup text else none with
          | none => return t
          | some value =>
            let endsBlank := value.getLast?.any fun c => c == ' ' || c == '\t'
            unless value.isEmpty do
              let layer : Layer := { rest := value, name := some text, endsBlank }
              modify fun r => { r with source := r.source.lay layer }
            tokenFor fuel wanted

def token : Read Token := do tokenFor self Source.readingLimit (← get).checks

def tokenWith (checks : Checks) : Read Token := do
  check checks
  token self

/-! ### Redirections -/

/-- The text of a word without its quotes. -/
def unquoted (w : Word) : List Char :=
  w.filterMap fun
    | .plain c | .escaped c => some c
    | _ => none

/-- Read the word of a redirection. -/
def redirection : Read Redirection := do
  let r ← get
  match r.kind with
  | .document index _ =>
    if (← tokenWith self { endMark := true }) != .word then unexpected
    let after ← get
    let expanded := !after.wordIsQuoted
    let pending : PendingDocument :=
      ⟨index, r.stripsTabs, unquoted after.word, expanded⟩
    set { after with pending := after.pending ++ [pending] }
    return .mk r.number (.document index expanded) []
  | kind =>
    if (← token self) != .word then unexpected
    return .mk r.number kind (← get).word

/-- Read the redirections after a command. -/
def redirections : (fuel : Nat) → List Redirection → Read (List Redirection)
  | 0, done => return done.reverse
  | fuel + 1, done => do
    if (← token self) = .redirection then redirections fuel ((← redirection self) :: done)
    else
      pushBack
      return done.reverse

/-! ### Simple commands -/

structure Simple where
  assignments : List Word := []
  words : List Word := []
  redirections : List Redirection := []

def Simple.command (line : Nat) (s : Simple) : Command :=
  .simple line s.assignments.reverse s.words.reverse s.redirections.reverse

/-- Read the definition of a function after its name. -/
def functionBody (name : Word) : Read Command := do
  if (← token self) != .closeParen then unexpectedFor .closeParen
  match Word.literal? name with
  | some text =>
    if !isName text || reservedNames.contains (String.ofList text) then throw "Bad function name"
    check (afterNewlines commandStart)
    return .define (← get).source.line text (← self .command)
  | none => throw "Bad function name"

def simpleFrom (line : Nat) : (fuel : Nat) → (mayAssign : Bool) → Simple → Read Command
  | 0, _, s => return s.command line
  | fuel + 1, mayAssign, s => do
    match ← tokenWith self { aliases := mayAssign } with
    | .word =>
      let w := (← get).word
      if mayAssign && (Word.assignment? w).isSome then
        simpleFrom line fuel true { s with assignments := w :: s.assignments }
      else simpleFrom line fuel false { s with words := w :: s.words }
    | .redirection =>
      let r ← redirection self
      simpleFrom line fuel mayAssign { s with redirections := r :: s.redirections }
    | t =>
      match t, s with
      | .openParen, ⟨[], [name], []⟩ => functionBody self name
      | _, _ =>
        pushBack
        return s.command line

/-! ### Compound commands -/

def list : Read Command := self (.list false)

def expect (t : Token) : Read Unit := do
  if (← token self) != t then unexpectedFor t

/-- Read a condition and the list that depends on it. -/
def guarded : Read (Command × Command) := do
  let condition ← list self
  expect self (.keyword .thenPart)
  return (condition, ← list self)

/-- Read what follows the first part of a conditional. -/
def otherwise : (fuel : Nat) → Read (Option Command)
  | 0 => return none
  | fuel + 1 => do
    match ← token self with
    | .keyword .elseIf =>
      let (condition, body) ← guarded self
      return some (.conditional condition body (← otherwise fuel))
    | .keyword .elsePart => return some (← list self)
    | _ =>
      pushBack
      return none

def wordsOfLoop : (fuel : Nat) → List Word → Read (List Word)
  | 0, done => return done.reverse
  | fuel + 1, done => do
    match ← token self with
    | .word => wordsOfLoop fuel ((← get).word :: done)
    | .newline | .semicolon => return done.reverse
    | _ => unexpected

def forEach (line : Nat) : Read Command := do
  let t ← token self
  let r ← get
  let name? := if t = .word && !r.wordIsQuoted then Word.literal? r.word else none
  match name?.filter isName with
  | none => throw "Bad for loop variable"
  | some name =>
    let words ← match ← tokenWith self (afterNewlines commandStart) with
      | .keyword .inList => wordsOfLoop self Source.readingLimit []
      | t =>
        if t != .semicolon then pushBack
        pure [allArguments]
    if (← tokenWith self (afterNewlines commandStart)) != .keyword .doLoop then
      unexpectedFor (.keyword .doLoop)
    return .forEach line name words (← list self)

/-- Read the patterns of an arm; the first one has been read. -/
def patterns : (fuel : Nat) → List Word → Read (List Word)
  | 0, done => return done.reverse
  | fuel + 1, done => do
    let done := (← get).word :: done
    if (← token self) = .bar then
      discard (token self)
      patterns fuel done
    else if (← get).last = .closeParen then return done.reverse
    else unexpectedFor .closeParen

/-- Read arms up to the end of a choice. -/
def arms : (fuel : Nat) → List (List Word × Command) → Read (List (List Word × Command))
  | 0, done => return done.reverse
  | fuel + 1, done => do
    let armStart : Checks := { newlines := true, keywords := true }
    let t ← tokenWith self armStart
    if t = .keyword .esac then return done.reverse
    else
      if t = .openParen then discard (token self)
      let ps ← patterns self Source.readingLimit []
      let body ← self (.list true)
      let done := (ps, body) :: done
      match ← tokenWith self armStart with
      | .keyword .esac => return done.reverse
      | .endOfArm => arms fuel done
      | _ => unexpectedFor .endOfArm

def choose (line : Nat) : Read Command := do
  if (← token self) != .word then unexpectedFor .word
  let subject := (← get).word
  if (← tokenWith self (afterNewlines commandStart)) != .keyword .inList then
    unexpectedFor (.keyword .inList)
  return .choose line subject (← arms self Source.readingLimit [])

/-- Read a compound command after its first token, with the line on which it begins. -/
def compound (line : Nat) (t : Token) : Read Command := do
  match t with
  | .keyword .ifThat =>
    let (condition, body) ← guarded self
    let rest ← otherwise self Source.readingLimit
    expect self (.keyword .fi)
    return .conditional condition body rest
  | .keyword .whileThat | .keyword .untilThat =>
    let condition ← list self
    expect self (.keyword .doLoop)
    let body ← list self
    expect self (.keyword .done)
    return .loop (t = .keyword .untilThat) condition body
  | .keyword .forEach =>
    let c ← forEach self line
    expect self (.keyword .done)
    return c
  | .keyword .caseOf => choose self line
  | .openParen =>
    let body ← list self
    expect self .closeParen
    return .subshell line body []
  | .keyword .openBrace =>
    let body ← list self
    expect self (.keyword .closeBrace)
    return body
  | _ => unexpected

def redirect (line : Nat) (rs : List Redirection) (c : Command) : Command :=
  if rs.isEmpty then c
  else match c with
    | .subshell line body _ => .subshell line body rs
    | c => .redirected line c rs

def command : Read Command := do
  let line := (← get).source.line
  let t ← token self
  match t with
  | .word | .redirection =>
    pushBack
    simpleFrom self (← get).source.line Source.readingLimit true {}
  | _ =>
    let c ← compound self line t
    check commandStart
    return redirect line (← redirections self Source.readingLimit []) c

/-! ### Lists -/

def stages : (fuel : Nat) → List Command → Read (List Command)
  | 0, done => return done.reverse
  | fuel + 1, done => do
    check (afterNewlines commandStart)
    let done := (← command self) :: done
    if (← token self) = .bar then stages fuel done
    else
      pushBack
      return done.reverse

def pipeline : Read Command := do
  let negated := (← token self) = .keyword .bang
  if negated then check commandStart else pushBack
  let first ← command self
  let c ← if (← token self) = .bar then do
      let rest ← stages self Source.readingLimit [first]
      pure (.pipe false rest)
    else do
      pushBack
      pure first
  return if negated then .negate c else c

def chain : (fuel : Nat) → Command → Read Command
  | 0, c => return c
  | fuel + 1, c => do
    match ← token self with
    | .andThen =>
      check (afterNewlines commandStart)
      chain fuel (.andThen c (← pipeline self))
    | .orElse =>
      check (afterNewlines commandStart)
      chain fuel (.orElse c (← pipeline self))
    | _ =>
      pushBack
      return c

/-- A command that runs beside the script. -/
def inBackground (line : Nat) : Command → Command
  | .pipe _ stages => .pipe true stages
  | .redirected line body rs => .background line body rs
  | c => .background line c []

def join (before : Option Command) (c : Command) : Command :=
  match before with
  | none => c
  | some b => .sequence b c

/-- Read a list inside of a command, after what has been read of it. -/
def listFrom : (fuel : Nat) → (mayEnd : Bool) → Option Command → Read Command
  | 0, _, before => return before.getD .nothing
  | fuel + 1, mayEnd, before => do
    let t ← tokenWith self (afterNewlines commandStart)
    pushBack
    if t = .endOfText then
      readDocuments (self (.list true))
      return before.getD .nothing
    else if mayEnd && t.endsList then return before.getD .nothing
    else
      let c ← chain self Source.readingLimit (← pipeline self)
      let t ← token self
      let line := (← get).source.line
      let c := if t = .ampersand then inBackground line c else c
      let done := join before c
      match t with
      | .ampersand | .semicolon => listFrom fuel true (some done)
      | .newline =>
        pushBack
        listFrom fuel true (some done)
      | .endOfText =>
        readDocuments (self (.list true))
        pushBack
        modify fun r => { r with last := .endOfText }
        return done
      | _ =>
        pushBack
        return done

/-- Read the commands up to the end of a line; `none` at the end of the text. -/
def lineFrom : (fuel : Nat) → Option Command → Read (Option Command)
  | 0, before => return before
  | fuel + 1, before => do
    match ← tokenWith self commandStart with
    | .newline =>
      readDocuments (self (.list true))
      return some (before.getD .nothing)
    | .endOfText =>
      readDocuments (self (.list true))
      return before
    | _ =>
      pushBack
      let c ← chain self Source.readingLimit (← pipeline self)
      let t ← token self
      let line := (← get).source.line
      let c := if t = .ampersand then inBackground line c else c
      let done := join before c
      match t with
      | .ampersand | .semicolon => lineFrom fuel (some done)
      | .newline =>
        pushBack
        lineFrom fuel (some done)
      | .endOfText =>
        readDocuments (self (.list true))
        pushBack
        return some done
      | _ => unexpected

end

/-- How deep commands can be nested in a script. -/
def nestingLimit : Nat := 1000

/-- Read what is nested at most so deep. -/
def nested : (depth : Nat) → Goal → Read Command
  | 0, _ => throw "out of memory"
  | depth + 1, .list mayBeEmpty =>
    listFrom (nested depth) Source.readingLimit mayBeEmpty none
  | depth + 1, .command => command (nested depth)

/-- Read a whole text as a word between quotes. -/
def wholeText : Read Word := quotedText (nested nestingLimit (.list true))

/-- Read the next command of a script. -/
def nextCommand : Read (Option Command) := do
  modify fun r => { r with pushedBack := false, checks := {}, pending := [] }
  lineFrom (nested nestingLimit) Source.readingLimit none

end Read

end PipelineShell.Script
