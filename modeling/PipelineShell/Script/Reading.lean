import PipelineShell.Script.Source

/-!
# Reading characters and tokens of scripts

A part of a script is read with the aliases that are known.  The texts of
documents follow the line in which they are asked for, and are kept in a list of
their own; a redirection knows the place of its document there.
-/

namespace PipelineShell.Script

/-- What a token is looked up as when it has been read. -/
structure Checks where
  newlines : Bool := false
  keywords : Bool := false
  aliases : Bool := false
  /-- the word ends a document, and has no expansions -/
  endMark : Bool := false

/-- A document that is still to be read. -/
structure PendingDocument where
  index : Nat
  /-- tabs at the start of lines do not count -/
  stripsTabs : Bool
  endMark : List Char := []
  expanded : Bool := true

structure Reader where
  source : Source
  aliases : List (Name × List Char) := []
  documents : Array Word := #[]
  pending : List PendingDocument := []
  checks : Checks := {}
  /-- the last token is to be read again -/
  pushedBack : Bool := false
  last : Token := .endOfText
  /-- the last word -/
  word : Word := []
  wordIsQuoted : Bool := false
  /-- the last redirection, without its word -/
  number : Nat := 0
  kind : RedirectionKind := .read
  stripsTabs : Bool := false

/-- Reading fails with a message. -/
abbrev Read := ExceptT String (StateM Reader)

namespace Read

def nextRaw : Read (Option Char) := do
  let r ← get
  let (c, source) := r.source.next
  let checks := if source.aliasFollows then { r.checks with aliases := true } else r.checks
  set { r with source := { source with aliasFollows := false }, checks }
  return c

def unread (c : Option Char) : Read Unit :=
  modify fun r => { r with source := r.source.unread c }

def countLine : Read Unit :=
  modify fun r => { r with source := { r.source with line := r.source.line + 1 } }

def joinLines : (fuel : Nat) → Read (Option Char)
  | 0 => return none
  | fuel + 1 => do
    let c ← nextRaw
    if c = some '\\' then
      let d ← nextRaw
      if d = some '\n' then
        countLine
        joinLines fuel
      else
        unread d
        return c
    else return c

/-- Read a character; a backslash at the end of a line joins the next line. -/
def next : Read (Option Char) := joinLines Source.readingLimit

def check (checks : Checks) : Read Unit := modify fun r => { r with checks }

def pushBack : Read Unit := modify fun r => { r with pushedBack := true }

def unexpected {α : Type} : Read α := do throw ((← get).last.shown ++ " unexpected")

def unexpectedFor {α : Type} (wanted : Token) : Read α := do
  throw ((← get).last.shown ++ " unexpected (expecting " ++ wanted.shown ++ ")")

end Read

end PipelineShell.Script
