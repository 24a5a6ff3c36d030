import PipelineShell.OsError
import PipelineShell.Text.Octets

/-!
# Names in the messages of programs

A name is shown between single quotes where it could be misread, and with
escapes for what would not be seen.  Words of the command line are always shown
between quotes.
-/

namespace PipelineShell.Program

/-- The name of a failure in the messages of programs. -/
def failureText : OsError → String
  | .notFound => "No such file or directory"
  | .argumentsTooLong => "Argument list too long"
  | .unknownFormat => "Exec format error"
  | .badDescriptor => "Bad file descriptor"
  | .permissionDenied => "Permission denied"
  | .alreadyExists => "File exists"
  | .notDirectory => "Not a directory"
  | .isDirectory => "Is a directory"
  | .busy => "Text file busy"
  | .noSpace => "No space left on device"
  | .brokenPipe => "Broken pipe"
  | .nameTooLong => "File name too long"
  | .linkLoop => "Too many levels of symbolic links"
  | .invalidText | .zeroInPath | .zeroInArgument => "Invalid argument"

/-- Characters of a name that never need quotes. -/
def isPlain (c : Char) : Bool :=
  c.isAlphanum || "%+,-./@_]".toList.contains c

/-- Characters that are shown by an escape. -/
def isUnseen (c : Char) : Bool := c.toNat < 0x20 || 0x7F ≤ c.toNat

def escapeLetter (c : Char) : Option Char :=
  [('\x07', 'a'), ('\x08', 'b'), ('\t', 't'), ('\n', 'n'), ('\x0b', 'v'), ('\x0c', 'f'),
    ('\r', 'r')].lookup c

/-- An unseen character by its letter or its octal digits. -/
def escapeUnseen (c : Char) : List Char :=
  match escapeLetter c with
  | some letter => ['\\', letter]
  | none =>
    let n := c.toNat
    ['\\', Char.ofNat (48 + n / 64), Char.ofNat (48 + n / 8 % 8), Char.ofNat (48 + n % 8)]

/-- The characters of a name inside single quotes; unseen characters leave them. -/
def insideQuotes : (escaping : Bool) → List Char → List Char
  | _, [] => ['\'']
  | escaping, c :: rest =>
    if isUnseen c then
      (if escaping then [] else "'$'".toList) ++ escapeUnseen c ++ insideQuotes true rest
    else if c = '\'' then "'\\''".toList ++ insideQuotes false rest
    else (if escaping then "''".toList else []) ++ c :: insideQuotes false rest

/-- Characters that keep their meaning between double quotes. -/
def isTame (c : Char) : Bool := isPlain c || c = '\'' || c = ' ' || c = ':' || c = '#' || c = '~'

/-- A name between quotes. -/
def quotedName (name : Bytes) : Bytes :=
  let cs := Octets.ofBytes name
  if cs.contains '\'' && cs.all isTame then Octets.toBytes ('"' :: cs ++ ['"'])
  else Octets.toBytes ('\'' :: insideQuotes false cs)

/-- Whether a name has to be put between quotes. -/
def needsQuotes (cs : List Char) : Bool :=
  cs.isEmpty || cs.head? == some '#' || cs.head? == some '~' ||
    !(cs.all fun c => isPlain c || c == '#' || c == '~' ||
      ((c == '\x7b' || c == '\x7d') && cs.length != 1))

/-- A name as messages show it: between quotes only where that is needed. -/
def shownName (name : Bytes) : Bytes :=
  if needsQuotes (Octets.ofBytes name) then quotedName name else name

/-- A word of the command line between quotes. -/
def quotedWord (word : Bytes) : Bytes :=
  let body := (Octets.ofBytes word).flatMap fun c =>
    if isUnseen c then escapeUnseen c else if c = '\'' ∨ c = '\\' then ['\\', c] else [c]
  Octets.toBytes ('\'' :: body ++ ['\''])

end PipelineShell.Program
