import PipelineShell.Script.Token

/-!
# The text of a script under reading

A script is read line by line.  The texts of aliases are laid over it: a layer
is read to its end before what lies below it.  An alias is in use until the
character after its text has been read and another one is asked for.
-/

namespace PipelineShell.Script

structure Layer where
  rest : List Char
  /-- the alias of which this is the text -/
  name : Option Name := none
  /-- the text ends in a blank -/
  endsBlank : Bool := false

structure Source where
  layers : List Layer := []
  /-- what has been fetched and not begun -/
  waiting : List Char := []
  /-- what can still be fetched from an input -/
  beyond : List Char := []
  /-- how much has been fetched -/
  fetched : Nat := 0
  line : Nat := 1
  /-- aliases whose texts have just ended, or that are in use around this text -/
  finished : List Name := []
  outer : List Name := []
  /-- the word after this one may be an alias too -/
  aliasFollows : Bool := false
  /-- lines are shown when they are begun; the shown ones, latest first -/
  showsLines : Bool := false
  shown : List (List Char) := []

namespace Source

/-- So much is fetched from an input at once. -/
def blockSize : Nat := 8192

/-- No script has more lines, words or characters in one command. -/
def readingLimit : Nat := 10000000

/-- A text of its own. -/
def ofText (text : List Char) : Source := { layers := [{ rest := text }] }

/-- Lay a text over what is to be read. -/
def lay (layer : Layer) (s : Source) : Source := { s with layers := layer :: s.layers }

/-- Begin the next line, if there is one. -/
def beginLine (s : Source) : Source :=
  let s := if s.waiting.isEmpty then
      { s with
        waiting := s.beyond.take blockSize
        beyond := s.beyond.drop blockSize
        fetched := s.fetched + (s.beyond.take blockSize).length }
    else s
  let text := s.waiting.takeWhile (· != '\n')
  let line := text ++ (s.waiting.drop text.length).take 1
  { s with
    layers := if line.isEmpty then [] else [{ rest := line.filter (· != '\x00') }]
    waiting := s.waiting.drop line.length
    shown := if s.showsLines && !line.isEmpty then line :: s.shown else s.shown }

/-- Read a character from the layers. -/
def nextOfLayers (s : Source) : List Layer → Option Char × Source
  | [] => (none, { s with layers := [] })
  | layer :: below =>
    match layer.rest with
    | c :: rest => (some c, { s with layers := { layer with rest } :: below })
    | [] =>
      let s := match layer.name with
        | some name =>
          { s with
            finished := name :: s.finished
            aliasFollows := s.aliasFollows || layer.endsBlank }
        | none => s
      nextOfLayers s below

/-- Begin lines until one has a character. -/
def nextOfLines : (fuel : Nat) → Source → Option Char × Source
  | 0, s => (none, s)
  | fuel + 1, s =>
    if s.waiting.isEmpty && s.beyond.isEmpty then (none, s)
    else match nextOfLayers s.beginLine s.beginLine.layers with
      | (some c, s) => (some c, s)
      | (none, s) => nextOfLines fuel s

/-- Read a character; `none` is the end of the text. -/
def next (s : Source) : Option Char × Source :=
  let s := { s with finished := [] }
  match nextOfLayers s s.layers with
  | (some c, s) => (some c, s)
  | (none, s) => nextOfLines readingLimit s

/-- Put a character back. -/
def unread (c : Option Char) (s : Source) : Source :=
  match c, s.layers with
  | none, _ => s
  | some c, [] => { s with layers := [{ rest := [c] }] }
  | some c, layer :: below => { s with layers := { layer with rest := c :: layer.rest } :: below }

/-- Aliases whose texts are being read. -/
def inUse (s : Source) (name : Name) : Bool :=
  s.finished.contains name || s.outer.contains name || s.layers.any (fun l => l.name == some name)

end Source

end PipelineShell.Script
