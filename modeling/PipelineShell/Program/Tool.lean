import PipelineShell.Program.Cat
import PipelineShell.Program.Head
import PipelineShell.Program.Image
import PipelineShell.Program.Sort
import PipelineShell.Program.StreamEditor
import PipelineShell.Program.Tail
import PipelineShell.Program.Translate

/-!
# The programs of the system

The programs that are always there, apart from the one that reads scripts.
-/

namespace PipelineShell.Program

/-! ### Small programs -/

def helpOptions : List (String × Arity × String) :=
  [("help", .none, "help"), ("version", .none, "version")]

/-- Write a line again and again. -/
def repeatWords (call : Call) : Result :=
  let words := ({ letters := [], long := helpOptions } : OptionGrammar).read call.args
  match words.wrong with
  | some text => call.misuse text 1
  | none =>
    let words := if words.operands.isEmpty then [utf8 "y"] else words.operands
    { writes := [.output ⟨[], [32].intercalate words ++ [10]⟩] }

/-- Writing without end stops at the first failure. -/
def repeatUnwritable (call : Call) (e : OsError) (result : Result) : Result :=
  result.failing call (utf8 ("standard output: " ++ failureText e)) 1

def showGrammar : OptionGrammar where
  letters := [('L', .none), ('P', .none)]
  long := [("logical", .none, "L"), ("physical", .none, "P")] ++ helpOptions

/-- Write the path of the directory. -/
def showDirectory (call : Call) : Result :=
  let words := showGrammar.read call.args
  match words.wrong with
  | some text => call.misuse text 1
  | none =>
    let notes := if words.operands.isEmpty then []
      else [Write.errors (call.message (utf8 "ignoring non-option arguments"))]
    if call.here.detached then
      let message := utf8 "couldn't find directory entry in '..' with matching i-node"
      { writes := notes ++ [.errors (call.message message)], status := 1 }
    else
      { writes := notes ++ [.output (.ofBytes (Location.path call.here.location ++ [10]))] }

/-- Only end with a status. -/
def endWith (status : Nat) : Behaviour :=
  { run := fun _ => { status }, unwritable := fun _ _ result => result }

/-! ### All programs -/

def tools : List (String × Behaviour) :=
  [("cat", Cat.behaviour), ("head", Head.behaviour), ("tail", Tail.behaviour),
    ("tr", Translate.behaviour), ("sed", StreamEditor.behaviour), ("sort", Sort.behaviour),
    ("yes", { run := repeatWords, unwritable := repeatUnwritable }),
    ("pwd", { run := showDirectory, unwritable := lostAtEnd }),
    ("true", endWith 0), ("false", endWith 1)]

/-- The names of the program that reads scripts. -/
def scriptReaders : List String := ["sh", "dash"]

/-- The places of the system's programs. -/
def systemDirectory : Location := [utf8 "bin", utf8 "usr"]

/-- Put the programs and the devices of the system in their places. -/
def install (fs : FileSystem) : FileSystem :=
  (scriptReaders ++ tools.map Prod.fst).foldl (fun fs name =>
    fs.insert (utf8 name :: systemDirectory) (.program name)) fs.attachDevices

end PipelineShell.Program
