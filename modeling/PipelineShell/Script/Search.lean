import PipelineShell.Script.Builtin.Words
import PipelineShell.Script.Token

/-!
# What names of commands mean

A name means a function, a command of the shell itself, or a program, in this
order.  Where a program has been found is remembered until the search list
changes; after the directory has changed, only the entries before it that depend
on the directory are looked at again.
-/

namespace PipelineShell.Script.Search

/-! ### Commands of the shell itself -/

/-- What commands of the shell are like. -/
structure Kind where
  /-- its failures end the script, and assignments before it stay -/
  special : Bool := false
  /-- words after it that are assignments are not cut -/
  assigns : Bool := false

def kinds : List (String × Kind) :=
  let special (names : List String) : List (String × Kind) :=
    names.map fun name => (name, { special := true })
  let others (names : List String) : List (String × Kind) := names.map fun name => (name, {})
  special [".", ":", "break", "continue", "eval", "exec", "exit", "return", "set", "shift", "times",
      "trap", "unset"] ++
    ["export", "readonly", "local"].map (fun name => (name, { special := true, assigns := true })) ++
    others ["[", "alias", "bg", "cd", "chdir", "command", "echo", "false", "fg", "getopts", "hash",
      "jobs", "kill", "printf", "pwd", "read", "test", "true", "type", "ulimit", "umask", "unalias",
      "wait"]

def kind? (name : Name) : Option Kind := kinds.lookup (String.ofList name)

/-! ### Programs -/

/-- Where programs are looked for if nothing is said. -/
def standardList : String := "/usr/local/sbin:/usr/local/bin:/usr/sbin:/usr/bin:/sbin:/bin"

/-- The paths that a name means in the entries of a search list. -/
def pathsIn (list : Option (List Char)) (name : Name) : List (List Char) :=
  match list with
  | none => []
  | some list => (list.splitOn ':').map fun entry => if entry.isEmpty then name else entry ++ '/' :: name

/-- The paths that a name means; a name with a slash is a path. -/
def paths (s : State) (standard : Bool) (name : Name) : List (List Char) :=
  if name.contains '/' then [name]
  else pathsIn (if standard then some (named standardList) else s.get? (named "PATH")) name

/-- The place of the first program among paths, or why there is none.  Paths from
the root before a place are passed over. -/
def firstProgram (s : State) (known : Option Nat) (paths : List (List Char)) : Except OsError Nat :=
  go paths 0 .notFound
where
  go : List (List Char) → Nat → OsError → Except OsError Nat
    | [], _, e => .error e
    | path :: rest, i, e =>
      let isFixed := path.head? == some '/'
      if isFixed && known.any (i < ·) then go rest (i + 1) e
      else if isFixed && known == some i then .ok i
      else match s.files.find s.place (Octets.toBytes path) with
        | .ok (.file _ _) | .ok (.program _) => .ok i
        | .ok _ => go rest (i + 1) .permissionDenied
        | .error .notFound | .error .notDirectory => go rest (i + 1) e
        | .error e => go rest (i + 1) e

/-- What is said about a program that is not there. -/
def failure : OsError → String
  | .notFound | .notDirectory => "not found"
  | e => Program.failureText e

/-- Find the entry of the search list that has a program. -/
def find (standard : Bool) (name : Name) : Run (Except OsError Nat) := do
  let s ← get
  if name.contains '/' then return .ok 0
  else
    let paths := paths s standard name
    if standard then return firstProgram s none paths
    else
      let others := s.found.filter fun f => f.1 != name
      match s.found.lookup name with
      | some (index, false) => return .ok index
      | remembered =>
        let result := firstProgram s (remembered.map Prod.fst) paths
        let found : List (Name × Nat × Bool) := match result with
          | .ok index =>
            if remembered.isSome then
              s.found.map fun f => if f.1 = name then (name, index, false) else f
            else s.found ++ [(name, index, false)]
          | .error _ => others
        set { s with found }
        return result

/-- Find a program ahead of time. -/
def foresee (name : Name) : Run Unit := do
  let s ← get
  if (s.functions.lookup name).isNone && (kind? name).isNone then discard (find false name)

/-! ### Telling what names mean -/

open Builtin Run

/-- Tell what a name means, in words or as briefly as possible. -/
def describe (inWords standard : Bool) (name : Name) : Run Nat := do
  let s ← get
  let tell (text : List Char) (brief : List Char) : Run Nat := do
    printLine (if inWords then name ++ text else brief)
    return 0
  if (Keyword.ofText? name).isSome then tell (named " is a shell keyword") name
  else match s.aliases.lookup name with
    | some value => tell (named " is an alias for " ++ value) (named "alias " ++ name ++ '=' :: quoted value)
    | none =>
      if (s.functions.lookup name).isSome then tell (named " is a shell function") name
      else match kind? name with
        | some k =>
          tell (named (if k.special then " is a special shell builtin" else " is a shell builtin")) name
        | none =>
          let remembered := !standard && (s.found.lookup name).isSome
          let result ← if name.contains '/' then
              pure ((s.files.find s.place (Octets.toBytes name)).map fun _ => 0)
            else match if standard then none else s.found.lookup name with
              | some (index, _) => pure (.ok index)
              | none => find standard name
          match result with
          | .error _ =>
            if inWords then print (name ++ named ": not found\n")
            return 127
          | .ok index =>
            let path := (paths s standard name).getD index name
            tell (named (if remembered then " is a tracked alias for " else " is ") ++ path) path

def describeAll (words : Words) : Run Nat := do
  let mut status := 0
  for word in words do status := status ||| (← describe true false word)
  return status

/-- The command that tells what its first word means. -/
def describeFirst (words : Words) : Run Nat := do
  let o ← options (letters "pvV") words
  match o.rest with
  | [] => return 0
  | name :: _ =>
    if o.has 'V' then describe true (o.has 'p') name
    else if o.has 'v' then describe false (o.has 'p') name
    else return 0

/-! ### What is remembered -/

def tableSize : Nat := 31

/-- Show what is remembered, forget it, or find programs ahead of time. -/
def remember (words : Words) : Run Nat := do
  let o ← options (letters "r") words
  if o.has 'r' then
    modify fun s => { s with found := [] }
    return 0
  else if o.rest.isEmpty then
    let s ← get
    for (name, index, moved) in inTable tableSize s.found do
      printLine ((paths s false name).getD index name ++ if moved then ['*'] else [])
    return 0
  else
    let mut status := 0
    for name in o.rest do
      modify fun s => { s with found := s.found.filter fun f => f.1 != name }
      let s ← get
      if (s.functions.lookup name).isNone && (kind? name).isNone then
        match ← find false name with
        | .ok _ => pure ()
        | .error e =>
          report (name ++ named (": " ++ failure e))
          status := 1
    return status

end PipelineShell.Script.Search
