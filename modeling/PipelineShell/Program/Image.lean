import PipelineShell.FileSystem.Descriptor

/-!
# What a file starts

A file that is executed is a program of the system, or a script whose first line
names the program that is to read it.  That program may be a script again.
-/

namespace PipelineShell.Program

/-- A program of the system with the words that it gets. -/
structure Image where
  program : String
  name : Bytes
  args : List Bytes
  deriving DecidableEq, Repr

/-! ### The size of words -/

/-- No word may be longer, with the zero byte at its end. -/
def maxWord : Nat := 131072

/-- So much room is there for all words and variables. -/
def maxWords : Nat := 2097152

/-- The words and the variables fit into the room that a program has for them. -/
def wordsFit (words : List Bytes) : Bool :=
  words.all (fun w => w.length + 1 ≤ maxWord) &&
    (words.map fun w => w.length + 9).foldl (· + ·) 0 ≤ maxWords

/-! ### The first line of a script -/

/-- So much of a file decides what it starts; what is missing of it is zeros. -/
def headSize : Nat := 256

def isBlank (b : UInt8) : Bool := b == 32 || b == 9

/-- The bytes that end the name of a program. -/
def endsName (b : UInt8) : Bool := isBlank b || b == 0

/-- The first line after its mark.  A line that does not end in time counts as
far as it can be seen, if it shows where the name of the program ends. -/
def firstLine? (rest : Bytes) : Option Bytes :=
  let before := rest.takeWhile fun b => b != 10 && b != 0
  if (rest.drop before.length).head? == some 10 then some before
  else if (rest.dropWhile isBlank).any endsName then some rest.dropLast
  else none

def trimBlanks (line : Bytes) : Bytes :=
  ((line.dropWhile isBlank).reverse.dropWhile isBlank).reverse

/-- The program named in the first line of a script, and the word after it. -/
def interpreter? (content : Bytes) : Option (Bytes × Option Bytes) :=
  let head := content.take headSize
  match head ++ List.replicate (headSize - head.length) 0 with
  | 35 :: 33 :: rest =>
    match (firstLine? rest).map trimBlanks with
    | none | some [] => none
    | some line =>
      let name := line.takeWhile fun b => !endsName b
      match line.drop name.length with
      | [] => some (name, none)
      | b :: word =>
        some (name,
          if b = 0 then none else some ((word.dropWhile isBlank).takeWhile (· != 0)))
  | _ => none

/-! ### Following scripts to a program -/

/-- The node of a file that may be executed.  Nobody may have it open for writing. -/
def executable (fs : FileSystem) (here : Place) (written : List Location) (path : Path) :
    Except OsError Node :=
  if path.isEmpty then .error .permissionDenied
  else match fs.locate here path with
    | .error e => .error e
    | .ok place =>
      match if place.detached then none else fs.get? place.location with
      | some (.file content mode) =>
        if mode &&& 0o111 = 0 then .error .permissionDenied
        else if written.contains place.location then .error .busy
        else .ok (.file content mode)
      | some (.program program) => .ok (.program program)
      | _ => .error .permissionDenied

/-- Find what a file starts that has been opened.  So many scripts may name
each other. -/
def follow (fs : FileSystem) (here : Place) (written : List Location) :
    (depth : Nat) → Node → Path → Bytes → List Bytes → Except OsError Image
  | 0, _, _, _, _ => .error .linkLoop
  | depth + 1, node, path, name, args =>
    match node with
    | .program program => .ok ⟨program, name, args⟩
    | .file content _ =>
      match interpreter? content with
      | none => .error .unknownFormat
      | some (interpreter, word) =>
        match executable fs here written interpreter with
        | .error e => .error e
        | .ok node =>
          follow fs here written depth node interpreter interpreter
            (word.toList ++ path :: args)
    | _ => .error .permissionDenied

def maxDepth : Nat := 6

/-- Find what a path starts.  `written` are the files that are open for writing,
and `bindings` the texts of the environment. -/
def image (fs : FileSystem) (here : Place) (written : List Location) (bindings : List Bytes)
    (path : Path) (name : Bytes) (args : List Bytes) : Except OsError Image :=
  if path.isEmpty then .error .notFound
  else match executable fs here written path with
    | .error e => .error e
    | .ok node =>
      if wordsFit (path :: name :: args ++ bindings) then
        follow fs here written maxDepth node path name args
      else .error .argumentsTooLong

end PipelineShell.Program
