import PipelineShell.Script.State

/-!
# The words of commands

Options stand before the other words of a command, one or more letters behind a
dash.  Two dashes end them.
-/

namespace PipelineShell.Script.Builtin

abbrev Words := List (List Char)

/-- The options that were given, with their words, and the words after them. -/
structure Options where
  given : List (Char × List Char) := []
  rest : Words

/-- A letter that can be given, and whether a word belongs to it. -/
abbrev Letter := Char × Bool

def letters (text : String) : List Letter := text.toList.map fun c => (c, false)

/-- Read options from words. -/
def readOptions (known : List Letter) :
    (fuel : Nat) → (cluster : List Char) → Words → Except String Options
  | 0, _, words => .ok { rest := words }
  | fuel + 1, [], words =>
    match words with
    | ('-' :: c :: cs) :: rest =>
      if c = '-' && cs.isEmpty then .ok { rest } else readOptions known fuel (c :: cs) rest
    | _ => .ok { rest := words }
  | fuel + 1, c :: cs, words => do
    let more (word cluster : List Char) (words : Words) : Except String Options := do
      let o ← readOptions known fuel cluster words
      return { o with given := (c, word) :: o.given }
    match known.lookup c, cs, words with
    | none, _, _ => throw (String.ofList ("Illegal option -".toList ++ [c]))
    | some false, _, _ => more [] cs words
    | some true, [], word :: words => more word [] words
    | some true, [], [] => throw (String.ofList ("No arg for -".toList ++ c :: " option".toList))
    | some true, _, _ => more cs [] words

/-- Read options, or end the command. -/
def options (known : List Letter) (words : Words) : Run Options :=
  match readOptions known ((words.map List.length).foldl (· + ·) (words.length + 1)) [] words with
  | .ok o => return o
  | .error message => Run.failWith message

/-- The words of a command that has no options. -/
def plainWords (words : Words) : Run Words := do return (← options [] words).rest

def Options.has (o : Options) (letter : Char) : Bool := o.given.any fun g => g.1 == letter

/-- A word that counts something. -/
def number (word : List Char) : Run Nat :=
  match Arithmetic.count? word with
  | some n => return n
  | none => Run.fail (named "Illegal number: " ++ word)

def printLine (text : List Char) : Run Unit := Run.print (text ++ ['\n'])

/-- A text between quotes, as a script would have to write it. -/
def quoted (text : List Char) : List Char :=
  go (text.length + 1) text
where
  go : Nat → List Char → List Char
    | 0, _ => []
    | fuel + 1, text =>
      let plain := text.takeWhile (· != '\'')
      let rest := text.drop plain.length
      let quotes := rest.takeWhile (· == '\'')
      let after := rest.drop quotes.length
      '\'' :: plain ++ ['\''] ++ (if quotes.isEmpty then [] else '"' :: quotes ++ ['"']) ++
        (if after.isEmpty then [] else go fuel after)

/-- The place of a name in a table with so many places. -/
def bucket (size : Nat) (name : Name) : Nat :=
  let first := ((name.head?.map Char.toNat).getD 0) * 16
  (name.foldl (fun n c => n + c.toNat) first) % 32768 % size

/-- Entries in the order in which a table lists them. -/
def inTable {α : Type} (size : Nat) (entries : List (Name × α)) : List (Name × α) :=
  entries.mergeSort fun a b => bucket size a.1 ≤ bucket size b.1

end PipelineShell.Script.Builtin
