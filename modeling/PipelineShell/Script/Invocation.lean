import PipelineShell.Script.Builtin.Aliases
import PipelineShell.Script.Builtin.Directories
import PipelineShell.Script.Builtin.Output
import PipelineShell.Script.Builtin.Test
import PipelineShell.Script.Start

/-!
# Simple commands

The words of a simple command are expanded first, then its redirections are
carried out, then its assignments; then what it names is run.
-/

namespace PipelineShell.Script.Run

open Builtin

section

variable (self : Standing → Command → Run Nat)

/-! ### What a command names -/

/-- Words of a command under expansion. -/
structure Naming where
  fields : Words
  /-- the field that names what is run -/
  position : Nat := 0
  rest : List Word
  /-- functions and the search list do not count -/
  noFunctions : Bool := false
  standard : Bool := false
  /-- whether the first command of the shell among them is a special one -/
  special : Option Bool := none
  assigns : Bool := false
  replaces : Bool := false

/-- Expand words until one of them gives a field. -/
def firstFields : List Word → Run (Words × List Word)
  | [] => return ([], [])
  | w :: rest => do
    let fields ← expandFields (capture self) w
    if fields.isEmpty then firstFields rest else return (fields, rest)

namespace Naming

def name (n : Naming) : List Char := n.fields.getD n.position []

/-- Go on to the next field; tells whether there is one. -/
def advance (n : Naming) : Run (Naming × Bool) := do
  if n.position + 1 < n.fields.length then return ({ n with position := n.position + 1 }, true)
  else
    let (more, rest) ← firstFields self n.rest
    let next := { n with fields := n.fields ++ more, rest }
    return if more.isEmpty then (next, false)
      else ({ next with position := n.position + 1 }, true)

/-- Pass over the word for a command without functions, and its options; tells
whether it names a command. -/
def unwrap : (fuel : Nat) → (start : Nat) → Naming → Run (Naming × Bool)
  | 0, _, n => return (n, false)
  | fuel + 1, start, n => do
    let back (n : Naming) : Naming × Bool := ({ n with position := start }, false)
    let (n, ok) ← n.advance self
    if !ok then return back n
    match n.name with
    | ['-', '-'] =>
      let (n, ok) ← n.advance self
      return if ok then (n, true) else back n
    | '-' :: c :: cs =>
      if (c :: cs).all (· == 'p') then unwrap fuel start { n with standard := true } else return back n
    | _ => return (n, true)

/-- Commands of the shell that are looked up like programs. -/
def lateNames : List String := ["echo", "printf", "test", "["]

/-- Find out what kind of command is named. -/
def resolve : (fuel : Nat) → Naming → Run Naming
  | 0, n => return n
  | fuel + 1, n => do
    let isFunction := !n.noFunctions && ((← get).functions.lookup n.name).isSome
    match if isFunction || lateNames.contains (String.ofList n.name) then none
      else Search.kind? n.name with
    | none => return n
    | some k =>
      let n := { n with
        assigns := k.assigns, special := n.special.or (some k.special)
        replaces := n.name = named "exec" }
      if n.name = named "command" then
        let (next, ok) ← unwrap self 1000 n.position n
        if ok then resolve fuel { next with noFunctions := true } else return next
      else return n

end Naming

/-- Expand the words of a command. -/
def nameCommand (words : List Word) : Run Naming := do
  let (fields, rest) ← firstFields self words
  if fields.isEmpty then return { fields, rest := [] }
  let n ← Naming.resolve self 1000 { fields, rest }
  let more ← n.rest.mapM fun w => do
    if n.assigns && (Word.assignment? w).isSome then
      return [← expandAssignment (capture self) w]
    else expandFields (capture self) w
  return { n with fields := n.fields ++ more.flatten, rest := [] }

/-! ### Showing commands -/

/-- The text before a command that is shown. -/
def tracePrompt : Run (List Char) := do
  let text := ((← get).get? (named "PS4")).getD []
  let s ← get
  let (result, r) := Read.wholeText.run
    { source := Source.ofText text, aliases := s.aliases, documents := s.documents }
  modify fun s => { s with documents := r.documents }
  try
    match result with
    | .error message =>
      modify fun s => { s with line := r.source.line }
      failWith ("Syntax error: " ++ message)
    | .ok w => expandDocument (capture self) w
  catch
    | .error => return text
    | stop => throw stop

/-- Show a command on the channel that errors had before it. -/
def trace (errors : Option Nat) (texts : Words) : Run Unit := do
  let s ← get
  if s.has "xtrace" && !s.tracing then
    keeping [2] do
      modify fun s => { s.connect 2 errors with tracing := true }
      let before ← tracePrompt self
      modify fun s => { s with tracing := false }
      complain (before ++ [' '].intercalate texts ++ ['\n'])

/-! ### Running commands -/

/-- So many functions can run inside each other. -/
def maxCalls : Nat := 1000

/-- Run a function. -/
def callFunction (w : Standing) (body : Command) (words : Words) : Run Nat := do
  let s ← get
  if maxCalls ≤ s.calls then
    failWith ("Maximum function recursion depth (" ++ toString maxCalls ++ ") reached")
  let restore (before after : State) : State :=
    { after with
      params := before.params, optionIndex := before.optionIndex
      optionOffset := before.optionOffset, loops := before.loops }
  restoring restore do
    modify fun s => { s with calls := s.calls + 1, loops := 0 }
    setParams words
    discard (self w.inner body)
  endReturn
  modify fun s => { s with calls := s.calls - 1 }
  return (← get).status

/-- Run the commands of a file in this process. -/
def runFile (words : Words) : Run Nat := do
  match ← plainWords words with
  | [] => return 0
  | name :: _ =>
    let s ← get
    let isFile (path : List Char) : Bool := match s.files.find s.place (Octets.toBytes path) with
      | .ok (.file _ _) | .ok (.program _) => true
      | _ => false
    let path? := if name.contains '/' then some name else (Search.paths s false name).find? isFile
    match path? with
    | none => fail (name ++ named ": not found")
    | some path =>
      withFile path fun number => do
        modify fun s => { s with command := some path }
        runInput self number

/-- The status that a word tells. -/
def statusOf (words : Words) : Run (Option Nat) :=
  match words with
  | [] => return none
  | word :: _ => do return some (← number word)

/-- End the process; in what runs at an end, the status is the one before. -/
def exit (words : Words) : Run Nat := do
  let chosen ← statusOf words
  let s ← get
  setStatus (chosen.getD (s.trapStatus.getD s.status))
  throw .exit

def leaveFunction (words : Words) : Run Nat := do
  let chosen ← statusOf words
  modify fun s => { s with skip := .back chosen.isSome }
  return chosen.getD (← get).status

def leaveLoop (again : Bool) (words : Words) : Run Nat := do
  let count := (← statusOf words).getD 1
  if count = 0 then fail (named "Illegal number: " ++ words.headD [])
  modify fun s =>
    let count := min count s.loops
    if count = 0 then s else { s with skip := if again then .again count else .leave count }
  return 0

def showTimes : Run Nat := do
  let line := "0m0.000000s 0m0.000000s"
  printLine (named line)
  printLine (named line)
  return 0

/-- Limits are not known; the one on the size of files does not exist. -/
def showLimit (words : Words) : Run Nat := do
  let o ← options (letters "HSatfdscmlpnvwr") words
  if o.rest.isEmpty then printLine (named "unlimited")
  return 0

/-- Run a command of the shell itself. -/
def runBuiltin (w : Standing) (name : List Char) (words : Words) : Run Nat :=
  match String.ofList name with
  | ":" | "true" => return 0
  | "false" => return 1
  | "echo" => echo words
  | "printf" => printf words
  | "test" => test false words
  | "[" => test true words
  | "read" => read words
  | "cd" | "chdir" => changeDirectory words
  | "pwd" => showDirectory words
  | "umask" => changeMask words
  | "export" => exportNames words
  | "readonly" => fixNames words
  | "local" => localNames words
  | "unset" => unset words
  | "set" => set words
  | "shift" => shift words
  | "getopts" => getOptions words
  | "alias" => defineAliases words
  | "unalias" => dropAliases words
  | "hash" => Search.remember words
  | "type" => Search.describeAll words
  | "command" => Search.describeFirst words
  | "kill" => kill words
  | "trap" => trap words
  | "jobs" => showJobs words
  | "fg" | "bg" => moveJob words
  | "wait" => wait (finishJob self) words
  | "times" => showTimes
  | "ulimit" => showLimit words
  | "exit" => exit words
  | "return" => leaveFunction words
  | "break" => leaveLoop false words
  | "continue" => leaveLoop true words
  | "eval" => runText self w.inner ([' '].intercalate words)
  | "." => runFile self words
  | "exec" => do
    match ← plainWords words with
    | [] => return 0
    | name :: args => become self (Search.paths (← get) false name) (name :: args)
  | _ => return 0

/-- Run a command of the shell and hand on what it has written.  Only the errors
of a special command go further. -/
def runNamed (special : Bool) (name : Option (List Char)) (action : Run Nat) : Run Nat := do
  let outer := (← get).command
  modify fun s => { s with command := name }
  try
    let status ← action
    let isWritten ← flush
    if !isWritten then report (name.getD [] ++ named ": I/O error")
    let status := if isWritten then status else status ||| 1
    modify fun s => { s with command := outer, status }
    return status
  catch stop =>
    discard flush
    modify fun s => { s with command := outer }
    if stop = .error && !special then return (← get).status else throw stop

/-- Run what has been named. -/
def perform (w : Standing) (n : Naming) : Run Nat := do
  let s ← get
  match n.fields.drop n.position with
  | [] => runNamed true none (do return (← get).substituted)
  | name :: words =>
    match if n.noFunctions then none else s.functions.lookup name with
    | some body => callFunction self w body words
    | none =>
      if (Search.kind? name).isSome then
        runNamed (n.special == some true) (some name) (runBuiltin self w name words)
      else runProgram self w n.standard (name :: words)

/-- Give back the variables of functions that are left. -/
def unwind (depth : Nat) : Run Unit := do
  let frames := (← get).saved
  for frame in frames.take (frames.length - depth) do
    giveBack frame
    modify fun s => { s with saved := s.saved.drop 1 }

/-- Do something with redirections that last as long as it does, or for good. -/
def redirected {α : Type} (numbers : List Nat) (lasting : Bool) (action : Run α) : Run α := do
  if lasting then
    let before ← get
    let restore (s : State) : State :=
      numbers.foldl (fun s n => s.connect n (before.descriptors.lookup n)) s
    try action
    catch stop =>
      modify restore
      throw stop
  else keeping numbers action

/-- Carry out the assignments before a command; hands back their texts. -/
def assignBefore (n : Naming) (isLocal : Bool) (assignments : List Word) : Run Words :=
  assignments.mapM fun w => do
    let text ← expandAssignment (capture self) w
    if isLocal then makeLocal true text
    else
      let (name, value) := declared text
      assign name (value.getD [])
      if n.replaces && n.position + 1 < n.fields.length then
        modify fun s =>
          s.setVariable name { ((s.binding? name).getD { value := none }) with exported := true }
    return text

/-- Run a simple command. -/
def runSimple (w : Standing) (line : Nat) (assignments words : List Word)
    (redirections : List Redirection) : Run Nat := do
  modify fun s => { s with line, substituted := 0 }
  let n ← nameCommand self words
  let special := n.special == some true
  let isLocal := !n.fields.isEmpty && !special
  let before ← get
  let depth := before.saved.length
  if isLocal then modify fun s => { s with saved := [] :: s.saved }
  let rs ← redirections.mapM (expandRedirection (capture self))
  let status ← redirected (rs.map (·.number)) n.replaces do
    if !(← redirectSafely (capture self) rs) then
      if special then throw .error
      return 2
    let assigned ← assignBefore self n isLocal assignments
    trace self (before.descriptors.lookup 2) (assigned ++ n.fields)
    perform self w n
  unwind depth
  return status

end

end PipelineShell.Script.Run
