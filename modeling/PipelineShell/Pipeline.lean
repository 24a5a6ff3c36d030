import PipelineShell.LineError

/-!
# Pipelines

A line is a pipeline of commands.  Its words are cut into stages at the words
`|`, and each stage becomes a command: a name, arguments and at most one
redirection, which is the first redirection operator of the stage.  Words are
special by their value alone, quoted or not.
-/

namespace PipelineShell

/-- Which output of a stage goes to a file, and whether the file is emptied first. -/
inductive Redirect where
  | stdoutTruncate
  | stdoutAppend
  | stderrTruncate
  | stderrAppend
  deriving DecidableEq, Repr

namespace Redirect

def ofOperator? : String → Option Redirect
  | ">" => some stdoutTruncate
  | "1>" => some stdoutTruncate
  | ">>" => some stdoutAppend
  | "1>>" => some stdoutAppend
  | "2>" => some stderrTruncate
  | "2>>" => some stderrAppend
  | _ => none

def isAppend : Redirect → Bool
  | stdoutTruncate | stderrTruncate => false
  | stdoutAppend | stderrAppend => true

def isStderr : Redirect → Bool
  | stdoutTruncate | stdoutAppend => false
  | stderrTruncate | stderrAppend => true

def name : Redirect → String
  | stdoutTruncate => "StdoutTruncate"
  | stdoutAppend => "StdoutAppend"
  | stderrTruncate => "StderrTruncate"
  | stderrAppend => "StderrAppend"

end Redirect

/-- A word that is a redirection operator. -/
def isOperator (word : String) : Bool :=
  (Redirect.ofOperator? word).isSome

/-- One stage of a pipeline.  `operator` is the redirection as it was written. -/
structure Command where
  name : String
  args : List String := []
  redirect : Option Redirect := none
  operator : Option String := none
  target : Option String := none
  deriving DecidableEq, Repr

/-- The stages of a line in the order in which they run, at least one. -/
structure Pipeline where
  commands : List Command
  commands_ne_nil : commands ≠ []
  deriving DecidableEq

namespace Pipeline

def ofList? (commands : List Command) : Option Pipeline :=
  if h : commands = [] then none else some ⟨commands, h⟩

/-- The last stage, the only one whose redirection counts. -/
def last (p : Pipeline) : Command :=
  p.commands.getLast p.commands_ne_nil

/-- The stages before the last one. -/
def front (p : Pipeline) : List Command :=
  p.commands.dropLast

end Pipeline

/-- Put a word in front of the first stage, or start a stage at a pipe. -/
def consWord (word : String) (stages : List (List String)) : List (List String) :=
  if word = "|" then [] :: stages
  else match stages with
    | [] => [[word]]
    | stage :: rest => (word :: stage) :: rest

/-- The stages of a list of words: what stands between the words `|`, without
empty stages. -/
def splitStages (words : List String) : List (List String) :=
  (words.foldr consWord [[]]).filter (fun stage => !stage.isEmpty)

/-- The command of a stage.  The word after the first operator is the file of
the redirection; operators after it are ordinary words. -/
def buildCommand (stage : List String) : Except LineError Command :=
  let before := stage.takeWhile (fun word => !isOperator word)
  let rest := stage.dropWhile (fun word => !isOperator word)
  match before, rest with
  | [], [] => .ok ⟨"", [], none, none, none⟩
  | [], operator :: _ => .error (.missingCommand operator)
  | name :: args, [] => .ok ⟨name, args, none, none, none⟩
  | name :: args, operator :: after =>
    .ok ⟨name, args ++ after.tail, Redirect.ofOperator? operator, some operator, after.head?⟩

/-- The operator of a last command that redirects to no file. -/
def danglingOperator (commands : List Command) : Option String :=
  match commands.getLast? with
  | none => none
  | some last =>
    if last.redirect.isSome && last.target.isNone then some (last.operator.getD "") else none

/-- The commands of a list of words.  The first stage without a command fails
first; only the last stage has to name the file of its redirection. -/
def buildPipeline (words : List String) : Except LineError (Option Pipeline) :=
  match (splitStages words).mapM buildCommand with
  | .error e => .error e
  | .ok commands =>
    match danglingOperator commands with
    | some operator => .error (.missingRedirectTarget operator)
    | none => .ok (Pipeline.ofList? commands)

/-- Read a line; `none` when it holds nothing to run. -/
def parse (line : String) : Except LineError (Option Pipeline) :=
  match Token.read line with
  | .error quote => .error (.unterminatedQuote quote)
  | .ok words => buildPipeline words

end PipelineShell
