import PipelineShell.Environment
import PipelineShell.History
import PipelineShell.Text.Alphanumeric

/-!
# Files of environment variables

A file assigns variables, one a line: a name, an equals sign and a value, after
an optional `export`.  Between single quotes a value stands for itself; else a
dollar sign puts in another variable.  Variables that are set already win, and
the first line that cannot be read ends the reading.
-/

namespace PipelineShell.EnvFile

/-- Where a character of a value stands. -/
inductive Quoting where
  | outside
  | single
  | double
  deriving DecidableEq, Repr

/-- What the reader of a value does with the next character. -/
inductive Mode where
  | plain (q : Quoting)
  | escaped (q : Quoting)
  /-- in a name after a dollar sign -/
  | name (q : Quoting)
  /-- in a name between braces -/
  | braced (q : Quoting)
  /-- after the value: a comment may follow -/
  | ending
  /-- in a comment -/
  | comment
  | failed
  deriving DecidableEq, Repr

/-- A value under way; the texts have their latest character first. -/
structure ValueReader where
  output : List Char
  name : List Char
  mode : Mode
  deriving DecidableEq, Repr

namespace ValueReader

def start : ValueReader := ⟨[], [], .plain .outside⟩

def push (r : ValueReader) (c : Char) (mode : Mode) : ValueReader :=
  ⟨c :: r.output, r.name, mode⟩

def enter (r : ValueReader) (mode : Mode) : ValueReader := { r with mode }

/-- Put in the variable whose name has been read. -/
def substitute (env : Environment) (r : ValueReader) (mode : Mode) : ValueReader :=
  let value := (env.text? (String.ofList r.name.reverse)).getD ""
  ⟨value.toList.reverse ++ r.output, [], mode⟩

def step (env : Environment) (r : ValueReader) (c : Char) : ValueReader :=
  match r.mode with
  | .failed | .comment => r
  | .ending =>
    if c = ' ' ∨ c = '\t' then r
    else if c = '#' then r.enter .comment
    else r.enter .failed
  | .escaped q =>
    if c = '\\' ∨ c = '\'' ∨ c = '"' ∨ c = '$' ∨ c = ' ' then r.push c (.plain q)
    else if c = 'n' then r.push '\n' (.plain q)
    else r.enter .failed
  | .plain .single => if c = '\'' then r.enter (.plain .outside) else r.push c r.mode
  | .name q =>
    if Text.isAlphanumeric c then { r with name := c :: r.name }
    else if c = '\x7b' ∧ r.name = [] then r.enter (.braced q)
    else if c = '$' then r.substitute env (.name q)
    else (r.substitute env (.plain q)).push c (.plain q)
  | .braced q =>
    if c = '\x7d' then r.substitute env (.plain q) else { r with name := c :: r.name }
  | .plain .double =>
    if c = '$' then r.enter (.name .double)
    else if c = '"' then r.enter (.plain .outside)
    else if c = '\\' then r.enter (.escaped .double)
    else r.push c r.mode
  | .plain .outside =>
    if c = '$' then r.enter (.name .outside)
    else if c = '\'' then r.enter (.plain .single)
    else if c = '"' then r.enter (.plain .double)
    else if c = '\\' then r.enter (.escaped .outside)
    else if c = ' ' ∨ c = '\t' then r.enter .ending
    else r.push c r.mode

/-- The value, if no quote and no brace is open at its end. -/
def finish (env : Environment) (r : ValueReader) : Option (List Char) :=
  match r.mode with
  | .plain .outside | .escaped .outside | .ending | .comment => some r.output.reverse
  | .name .outside => some (r.substitute env (.plain .outside)).output.reverse
  | _ => none

end ValueReader

/-- The value that a text stands for. -/
def readValue (env : Environment) (cs : List Char) : Option (List Char) :=
  (cs.foldl (ValueReader.step env) ValueReader.start).finish env

def isNameStart (c : Char) : Bool := c.isAlpha || c == '_'

def isNameChar (c : Char) : Bool := c.isAlphanum || c == '_' || c == '.'

def skipBlanks (cs : List Char) : List Char := cs.dropWhile Text.isBlank

/-- A name at the front of a text, and what follows after blanks. -/
def readName (cs : List Char) : Option (List Char × List Char) :=
  match cs with
  | c :: _ =>
    if isNameStart c then some (cs.takeWhile isNameChar, skipBlanks (cs.dropWhile isNameChar))
    else none
  | [] => none

/-- A line of the file. -/
inductive Line where
  | nothing
  | assignment (name : List Char) (value : List Char)
  | unreadable
  deriving DecidableEq, Repr

/-- The assignment of a value to a name, from the text after the equals sign. -/
def readAssignment (env : Environment) (name rest : List Char) : Line :=
  match skipBlanks rest with
  | [] => .assignment name []
  | '#' :: _ => .assignment name []
  | cs =>
    match readValue env cs with
    | some value => .assignment name value
    | none => .unreadable

def readLine (env : Environment) (line : String) : Line :=
  match skipBlanks (Text.trimEndChars line.toList) with
  | [] => .nothing
  | '#' :: _ => .nothing
  | cs =>
    match readName cs with
    | none => .unreadable
    | some (name, '=' :: rest) => readAssignment env name rest
    | some (name, rest) =>
      if name = "export".toList then
        match readName rest with
        | some (name, '=' :: rest) => readAssignment env name rest
        | _ => .unreadable
      else .unreadable

/-- Load the assignments of some lines, up to the first unreadable one. -/
def loadLines (env : Environment) : List String → Environment
  | [] => env
  | line :: rest =>
    match readLine env line with
    | .nothing => loadLines env rest
    | .unreadable => env
    | .assignment name value =>
      let name := String.ofList name
      if (env.text? name).isSome then loadLines env rest
      else loadLines (env.set (utf8 name) (utf8 (String.ofList value))) rest

/-- The content of the nearest file of a name in a directory or above it.  A
directory that cannot be looked into ends the search. -/
def search (fs : FileSystem) (name : Name) (dir : Location) : Option Bytes :=
  let above := match dir with
    | [] => none
    | _ :: above => search fs name above
  match fs.find Place.root (Path.join (Location.path dir) name) with
  | .ok (.file content _) => some content
  | .ok _ => above
  | .error .notFound => above
  | .error _ => none

/-- The name of the file that a session reads. -/
def fileName : Name := utf8 ".env.development"

/-- The environment after reading the nearest file. -/
def load (env : Environment) (fs : FileSystem) (here : Place) : Environment :=
  if here.detached then env
  else match search fs fileName here.location with
    | none => env
    | some content => loadLines env (decodeLines (contentLines content)).1

end PipelineShell.EnvFile
