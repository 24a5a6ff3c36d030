/-!
# Failures of the operating system

The failures that opening, reading, writing and starting files can meet, with
their texts.  The last three are found before the system is asked and carry no
error number.
-/

namespace PipelineShell

inductive OsError where
  | notFound
  | argumentsTooLong
  | unknownFormat
  | badDescriptor
  | permissionDenied
  | alreadyExists
  | notDirectory
  | isDirectory
  /-- a file that is open for writing cannot be executed -/
  | busy
  | noSpace
  /-- nobody reads any more what is written to a pipe -/
  | brokenPipe
  | nameTooLong
  | linkLoop
  /-- text was read that is not UTF-8 -/
  | invalidText
  /-- a path holds a zero byte -/
  | zeroInPath
  /-- an argument of a program, or the directory it is started in, holds a zero byte -/
  | zeroInArgument
  deriving DecidableEq, Repr

namespace OsError

/-- The system's name of the failure and its number. -/
def numbered (name : String) (number : Nat) : String :=
  name ++ " (os error " ++ toString number ++ ")"

def message : OsError → String
  | notFound => numbered "No such file or directory" 2
  | argumentsTooLong => numbered "Argument list too long" 7
  | unknownFormat => numbered "Exec format error" 8
  | badDescriptor => numbered "Bad file descriptor" 9
  | permissionDenied => numbered "Permission denied" 13
  | alreadyExists => numbered "File exists" 17
  | notDirectory => numbered "Not a directory" 20
  | isDirectory => numbered "Is a directory" 21
  | busy => numbered "Text file busy" 26
  | noSpace => numbered "No space left on device" 28
  | brokenPipe => numbered "Broken pipe" 32
  | nameTooLong => numbered "File name too long" 36
  | linkLoop => numbered "Too many levels of symbolic links" 40
  | invalidText => "stream did not contain valid UTF-8"
  | zeroInPath => "file name contained an unexpected NUL byte"
  | zeroInArgument => "nul byte found in provided data"

end OsError

end PipelineShell
