import PipelineShell.Text.Blank

/-!
# Words of a line

A line is read one character at a time by a machine of five modes.  Blanks
outside quotes end a word; quoted and escaped parts that touch join into one
word, so that a pair of quotes alone is an empty word.  Operators are words
like any other: what a word means is decided by its value, after the quotes
are gone.
-/

namespace PipelineShell

/-- The two kinds of quotes. -/
inductive Quote where
  | single
  | double
  deriving DecidableEq, Repr

namespace Token

/-- Where the reader stands inside a line. -/
inductive Mode where
  /-- outside quotes -/
  | plain
  /-- after a backslash outside quotes -/
  | escaped
  /-- between single quotes -/
  | single
  /-- between double quotes -/
  | double
  /-- after a backslash between double quotes -/
  | doubleEscaped
  deriving DecidableEq, Repr

/-- What has been read of a line: the finished words, latest first, and the
word under way, its latest character first (`none` between words). -/
structure Reader where
  words : List (List Char)
  word : Option (List Char)
  mode : Mode
  deriving DecidableEq, Repr

namespace Reader

def start : Reader := ⟨[], none, .plain⟩

/-- Enter a mode, with a word under way. -/
def enter (r : Reader) (mode : Mode) : Reader :=
  ⟨r.words, some (r.word.getD []), mode⟩

/-- Add a character to the word under way and go on in a mode. -/
def push (r : Reader) (c : Char) (mode : Mode) : Reader :=
  ⟨r.words, some (c :: r.word.getD []), mode⟩

/-- End the word under way, if there is one. -/
def close (r : Reader) : Reader :=
  match r.word with
  | none => ⟨r.words, none, .plain⟩
  | some w => ⟨w.reverse :: r.words, none, .plain⟩

/-- Read one character.  Between double quotes a backslash removes itself only
before a double quote or a backslash. -/
def step (r : Reader) (c : Char) : Reader :=
  match r.mode with
  | .plain =>
    if Text.isBlank c then r.close
    else if c = '\'' then r.enter .single
    else if c = '"' then r.enter .double
    else if c = '\\' then r.enter .escaped
    else r.push c .plain
  | .escaped => r.push c .plain
  | .single => if c = '\'' then r.enter .plain else r.push c .single
  | .double =>
    if c = '"' then r.enter .plain
    else if c = '\\' then r.enter .doubleEscaped
    else r.push c .double
  | .doubleEscaped =>
    if c = '"' ∨ c = '\\' then r.push c .double
    else (r.push '\\' .double).push c .double

/-- The words of the line, or the quote that is still open at its end.  A
backslash at the very end stands for itself. -/
def finish (r : Reader) : Except Quote (List (List Char)) :=
  match r.mode with
  | .plain => .ok r.close.words.reverse
  | .escaped => .ok (r.push '\\' .plain).close.words.reverse
  | .single => .error .single
  | .double => .error .double
  | .doubleEscaped => .error .double

end Reader

/-- The words of a line as lists of characters. -/
def readChars (cs : List Char) : Except Quote (List (List Char)) :=
  (cs.foldl Reader.step Reader.start).finish

/-- The words of a line. -/
def read (line : String) : Except Quote (List String) :=
  (readChars line.toList).map (·.map String.ofList)

end Token

end PipelineShell
