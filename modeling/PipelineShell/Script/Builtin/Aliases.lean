import PipelineShell.Script.Builtin.Words

/-!
# Commands about aliases
-/

namespace PipelineShell.Script.Builtin

open Run

def aliasTableSize : Nat := 39

def printAlias (name : Name) (value : List Char) : Run Unit :=
  printLine (name ++ '=' :: quoted value)

/-- An alias that is set again keeps its place. -/
def setAlias (name : Name) (value : List Char) : Run Unit :=
  modify fun s =>
    if (s.aliases.lookup name).isSome then
      { s with aliases := s.aliases.map fun a => if a.1 = name then (name, value) else a }
    else { s with aliases := s.aliases ++ [(name, value)] }

/-- A word as the definition of an alias; its first character belongs to the name. -/
def aliasDefinition? (word : List Char) : Option (Name × List Char) :=
  let name := word.take 1 ++ (word.drop 1).takeWhile (· != '=')
  match word.drop name.length with
  | _ :: value => some (name, value)
  | [] => none

def missingAlias (command : String) (name : Name) : Run Unit :=
  complain (named (command ++ ": ") ++ name ++ named " not found\n")

def defineAliases (words : Words) : Run Nat := do
  if words.isEmpty then
    for (name, value) in inTable aliasTableSize (← get).aliases do printAlias name value
    return 0
  else
    let mut status := 0
    for word in words do
      match aliasDefinition? word with
      | some (name, value) => setAlias name value
      | none =>
        match (← get).aliases.lookup word with
        | some value => printAlias word value
        | none =>
          missingAlias "alias" word
          status := 1
    return status

def dropAliases (words : Words) : Run Nat := do
  let o ← options (letters "a") words
  if o.has 'a' then
    modify fun s => { s with aliases := [] }
    return 0
  else
    let mut status := 0
    for name in o.rest do
      if ((← get).aliases.lookup name).isSome then
        modify fun s => { s with aliases := s.aliases.filter fun a => a.1 != name }
      else
        missingAlias "unalias" name
        status := 1
    return status

end PipelineShell.Script.Builtin
