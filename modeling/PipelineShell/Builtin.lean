import PipelineShell.State
import PipelineShell.SearchPath
import PipelineShell.Text.Quoted

/-!
# Commands of the shell itself

A builtin reads no input.  Its output and its error are whole lines or empty,
and an error comes with an empty output.
-/

namespace PipelineShell

inductive Builtin where
  | exit
  | echo
  | type
  | pwd
  | cd
  | history
  deriving DecidableEq, Repr

/-- What a builtin has done. -/
structure BuiltinOutcome where
  output : String
  error : Option String
  state : ShellState
  files : FileSystem
  records : List LogRecord
  deriving Repr

/-- What a builtin can look at besides the state: files, the directory of the
process, and the search path. -/
structure Surroundings where
  files : FileSystem
  here : Place
  search : SearchPath

namespace Builtin

def all : List Builtin := [exit, echo, type, pwd, cd, history]

def name : Builtin → String
  | exit => "exit"
  | echo => "echo"
  | type => "type"
  | pwd => "pwd"
  | cd => "cd"
  | history => "history"

/-- The name in log records. -/
def title : Builtin → String
  | exit => "Exit"
  | echo => "Echo"
  | type => "Type"
  | pwd => "Pwd"
  | cd => "Cd"
  | history => "History"

def ofName? (word : String) : Option Builtin :=
  all.find? (fun b => b.name == word)

/-- An outcome that changes neither the state nor a file. -/
def prints (output : String) (state : ShellState) (around : Surroundings) : BuiltinOutcome :=
  ⟨output, none, state, around.files, []⟩

/-- A failure that changes neither the state nor a file. -/
def fails (error : String) (state : ShellState) (around : Surroundings) : BuiltinOutcome :=
  ⟨"", some error, state, around.files, []⟩

/-- How `type` describes a name. -/
def describe (around : Surroundings) (word : String) : String :=
  if (ofName? word).isSome then word ++ " is a shell builtin\n"
  else match around.search.lookup around.files around.here word with
    | some p => word ++ " is " ++ p.display ++ "\n"
    | none => word ++ ": not found\n"

def describeRecords (around : Surroundings) (word : String) : List LogRecord :=
  if (ofName? word).isSome then []
  else around.search.lookupRecords around.files around.here word

def runType (args : List String) (state : ShellState) (around : Surroundings) :
    BuiltinOutcome :=
  ⟨String.join (args.map (describe around)), none, state, around.files,
    args.flatMap (describeRecords around)⟩

def runPwd (state : ShellState) (around : Surroundings) : BuiltinOutcome :=
  match around.files.find around.here state.cwd with
  | .ok _ => prints (state.cwd.display ++ "\n") state around
  | .error e =>
    fails ("pwd: error retrieving current directory: " ++ e.message ++ "\n") state around

/-- A leading tilde stands for the home directory if it is known and the tilde
is the whole word or comes before a slash. -/
def expandTilde (home : Option Path) (word : String) : Path :=
  match utf8 word, home.bind Bytes.text? with
  | 126 :: rest, some dir =>
    if rest.isEmpty || rest.head? == some Path.slash then utf8 dir ++ rest else utf8 word
  | _, _ => utf8 word

def runCd (args : List String) (state : ShellState) (around : Surroundings) : BuiltinOutcome :=
  let word := args.headD "~"
  let target := state.cwd.join (expandTilde state.home word)
  match around.files.canonical around.here target with
  | .ok dir =>
    if around.files.leadsToDirectory around.here dir then
      ⟨"", none, { state with cwd := dir }, around.files,
        [.debug ("切换工作目录: " ++ dir.display)]⟩
    else fails ("cd: " ++ word ++ ": No such file or directory\n") state around
  | .error _ => fails ("cd: " ++ word ++ ": No such file or directory\n") state around

/-- The value of a list of ASCII digits. -/
def digitsValue (digits : List Char) : Nat :=
  digits.foldl (fun n c => n * 10 + (c.toNat - '0'.toNat)) 0

/-- A count: an optional plus sign and one or more ASCII digits, below 2^64. -/
def count? (word : String) : Option Nat :=
  let digits := match word.toList with
    | '+' :: rest => rest
    | cs => cs
  if digits.isEmpty || !digits.all Char.isDigit then none
  else
    let n := digitsValue digits
    if n < Nat.pow 2 64 then some n else none

/-- The ways in which `history` uses a file. -/
inductive HistoryFlag where
  | read
  | write
  | append
  deriving DecidableEq, Repr

namespace HistoryFlag

def ofWord? : String → Option HistoryFlag
  | "-r" => some read
  | "-w" => some write
  | "-a" => some append
  | _ => none

end HistoryFlag

def withFile (flag : HistoryFlag) (p : Path) (state : ShellState) (around : Surroundings) :
    ShellState × FileSystem × Except OsError Unit :=
  match flag with
  | .read =>
    let (updated, result) := state.history.readFrom around.files around.here p
    ({ state with history := updated }, around.files, result)
  | .write =>
    let (files, result) := state.history.writeTo around.files around.here p
    (state, files, result)
  | .append =>
    let ((updated, files), result) := state.history.appendTo around.files around.here p
    ({ state with history := updated }, files, result)

def runHistory (args : List String) (state : ShellState) (around : Surroundings) :
    BuiltinOutcome :=
  match args with
  | [] => prints (state.history.list none) state around
  | first :: rest =>
    match HistoryFlag.ofWord? first, rest with
    | some _, [] =>
      fails ("history: " ++ first ++ ": option requires an argument\n") state around
    | some flag, file :: _ =>
      match withFile flag (state.cwd.join (utf8 file)) state around with
      | (state, files, .ok ()) => ⟨"", none, state, files, []⟩
      | (state, files, .error e) =>
        ⟨"", some ("history: " ++ file ++ ": " ++ e.message ++ "\n"), state, files, []⟩
    | none, _ =>
      match count? first with
      | some n => prints (state.history.list (some n)) state around
      | none => fails ("history: " ++ first ++ ": numeric argument required\n") state around

/-- What a builtin does, apart from the record of its start. -/
def perform (b : Builtin) (args : List String) (state : ShellState) (around : Surroundings) :
    BuiltinOutcome :=
  match b with
  | exit => ⟨"", none, { state with exitRequested := true }, around.files, []⟩
  | echo => prints (" ".intercalate args ++ "\n") state around
  | type => runType args state around
  | pwd => runPwd state around
  | cd => runCd args state around
  | history => runHistory args state around

def startRecord (b : Builtin) (args : List String) : LogRecord :=
  .debug ("执行内建命令: " ++ b.name ++ " " ++ Text.quotedList args)

def run (b : Builtin) (args : List String) (state : ShellState) (around : Surroundings) :
    BuiltinOutcome :=
  let outcome := b.perform args state around
  { outcome with records := b.startRecord args :: outcome.records }

end Builtin

end PipelineShell
