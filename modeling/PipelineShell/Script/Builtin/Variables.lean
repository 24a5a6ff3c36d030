import PipelineShell.Script.Builtin.Words
import PipelineShell.Script.Expansion

/-!
# Commands about variables, arguments and options
-/

namespace PipelineShell.Script.Builtin

open Run

/-! ### Variables -/

/-- Show variables in the order of their names, as commands or assignments. -/
def showVariables (command : List Char) (shown : Variable → Bool) : Run Unit := do
  let bindings := ((← get).bindings.filter fun p => shown p.2).mergeSort fun a b => Name.notAfter a.1 b.1
  let before := if command.isEmpty then [] else command ++ [' ']
  for (name, v) in bindings do
    printLine (before ++ name ++ match v.value with
      | some value => '=' :: quoted value
      | none => [])

/-- A word as a name and a value. -/
def declared (word : List Char) : Name × Option (List Char) :=
  let name := word.takeWhile (· != '=')
  (name, match word.drop name.length with
    | _ :: value => some value
    | [] => none)

def checkName (name : Name) : Run Unit := do
  if !isName name then fail (name ++ named ": bad variable name")

/-- Change what variables are; those with a value in their word get it. -/
def declare (change : Variable → Variable) (shown : Variable → Bool) (words : Words) :
    Run Nat := do
  let o ← options (letters "p") words
  if o.has 'p' || o.rest.isEmpty then showVariables ((← get).command.getD []) shown
  else
    for word in o.rest do
      let (name, value) := declared word
      if value.isSome || ((← get).binding? name).isNone then checkName name
      if let some value := value then assign name value
      modify fun s => s.setVariable name (change ((s.binding? name).getD { value := none }))
  return 0

def exportNames : Words → Run Nat :=
  declare (fun v => { v with exported := true }) (·.exported)

def fixNames : Words → Run Nat :=
  declare (fun v => { v with fixed := true }) (·.fixed)

/-- Keep something that a function gives back. -/
def save (saved : Saved) : Run Unit :=
  modify fun s =>
    match s.saved with
    | frame :: frames => { s with saved := (saved :: frame) :: frames }
    | [] => s

/-- Let a variable belong to the function that runs. -/
def makeLocal (exported : Bool) (word : List Char) : Run Unit := do
  if word = ['-'] then save (.options (← get).options)
  else
    let (name, value) := declared word
    let old := (← get).binding? name
    if old.isNone && value.isNone then checkName name
    let keep := save (.variable name old)
    match value with
    | none =>
      modify fun s => s.setVariable name (old.getD { value := none })
      keep
    | some value =>
      assign name value
      modify fun s =>
        let v := (s.binding? name).getD { value := none }
        s.setVariable name { v with exported := v.exported || exported }
      keep

def localNames (words : Words) : Run Nat := do
  if (← get).saved.isEmpty then failWith "not in a function"
  for word in words do makeLocal false word
  return 0

/-- Variables that keep what they are when they lose their value. -/
def lasting : List String := ["IFS", "MAIL", "MAILPATH", "PATH", "PS1", "PS2", "PS4", "OPTIND"]

/-- Take the value of a variable away. -/
def forget (name : Name) : Run Unit := do
  let s ← get
  match s.binding? name with
  | none => checkName name
  | some v =>
    checkName name
    if v.fixed then fail (name ++ named ": is read only")
    notice name []
    if v.exported && lasting.contains (String.ofList name) then
      modify fun s => s.setVariable name { v with value := none }
    else modify fun s => s.drop name

def unset (words : Words) : Run Nat := do
  let o ← options (letters "vf") words
  let functions := (o.given.getLast?.map Prod.fst) == some 'f'
  for name in o.rest do
    if functions then
      modify fun s => { s with functions := s.functions.filter fun f => f.1 != name }
    else forget name
  return 0

/-- Give back what a frame has kept. -/
def giveBack (frame : List Saved) : Run Unit := do
  for saved in frame do
    match saved with
    | .options old => modify fun s => { s with options := old }
    | .variable name old =>
      notice name ((old.bind (·.value)).getD ['1'])
      modify fun s =>
        match old with
        | some v => s.setVariable name v
        | none => s.drop name

/-! ### Arguments -/

def setParams (params : Words) : Run Unit :=
  modify fun s => { s with params, optionIndex := 1, optionOffset := none }

def shift (words : Words) : Run Nat := do
  let count ← match words with
    | [] => pure 1
    | word :: _ => number word
  let s ← get
  if s.params.length < count then failWith "can't shift that many"
  setParams (s.params.drop count)
  return 0

/-! ### Options of the shell -/

/-- The names of options, in the order in which they are listed. -/
def optionNames : List String :=
  (optionLetters.map Prod.snd).reverse ++ ["nolog", "debug"]

def listOptions (asCommands : Bool) : Run Unit := do
  if !asCommands then printLine (named "Current option settings")
  for name in optionNames do
    let on := (← get).has name
    printLine (if asCommands then named ("set " ++ (if on then "-o " else "+o ") ++ name)
      else named name ++ List.replicate (16 - name.length) ' ' ++ named (if on then "on" else "off"))

def setOption (on : Bool) (name : String) : Run Unit :=
  modify fun s =>
    let s := s.setOption name on
    if on && name = "vi" then s.setOption "emacs" false
    else if on && name = "emacs" then s.setOption "vi" false
    else s

def setNamedOption (on : Bool) (name : List Char) : Run Unit := do
  if optionNames.contains (String.ofList name) then
    modify fun s => s.setOption (String.ofList name) on
  else fail (named "Illegal option -o " ++ name)

/-- What is read from the words of a shell that starts. -/
structure Start where
  /-- the commands stand in a word -/
  fromWord : Bool := false
  isLogin : Bool := false

/-- Read options of the shell; some have a meaning only where it starts. -/
def shellOptions (starting : Bool) :
    (fuel : Nat) → (on : Bool) → (cluster : List Char) → Start → Words → Run (Start × Words)
  | 0, _, _, start, words => return (start, words)
  | fuel + 1, on, c :: cs, start, words => do
    if c = 'c' && starting then shellOptions starting fuel on cs { start with fromWord := true } words
    else if c = 'l' && starting then
      shellOptions starting fuel on cs { start with isLogin := true } words
    else if c = 'o' then
      match words with
      | [] =>
        listOptions (!on)
        shellOptions starting fuel on cs start []
      | name :: words =>
        setNamedOption on name
        shellOptions starting fuel on cs start words
    else match optionLetters.lookup c with
      | some name =>
        setOption on name
        shellOptions starting fuel on cs start words
      | none => fail (named "Illegal option -" ++ [c])
  | fuel + 1, _, [], start, words => do
    match words with
    | ['-'] :: rest =>
      if !starting then
        modify fun s => (s.setOption "xtrace" false).setOption "verbose" false
      return (start, rest)
    | ['-', '-'] :: rest =>
      if !starting && rest.isEmpty then setParams []
      return (start, rest)
    | ('-' :: cs) :: rest => shellOptions starting fuel true cs start rest
    | ('+' :: cs) :: rest => shellOptions starting fuel false cs start rest
    | _ => return (start, words)

/-- A shell without a terminal cannot look after jobs. -/
def checkMonitor : Run Unit := do
  let s ← get
  if s.has "monitor" && s.number = s.root then
    report (named "can't access tty; job control turned off")
    modify fun s => s.setOption "monitor" false

def readShellOptions (starting : Bool) (words : Words) : Run (Start × Words) :=
  shellOptions starting ((words.map List.length).foldl (· + ·) (words.length + 1)) true [] {} words

def set (words : Words) : Run Nat := do
  if words.isEmpty then showVariables [] (·.value.isSome)
  else
    let (_, rest) ← readShellOptions false words
    checkMonitor
    if !rest.isEmpty then setParams rest
  return 0

/-! ### Options of arguments -/

/-- The word in which an option is looked for, and the words from the next one on. -/
structure OptionPlace where
  letters : Option (List Char)
  index : Nat

/-- The letters of the next option. -/
def optionPlace (index : Nat) (offset : Option Nat) (words : Words) : OptionPlace :=
  let current := if index ≤ 1 then none
    else (offset.bind fun offset => (words[index - 2]?).map (·.drop offset)).filter (!·.isEmpty)
  match current with
  | some letters => ⟨some letters, index⟩
  | none =>
    match words[index - 1]? with
    | some ['-', '-'] => ⟨none, index + 1⟩
    | some ('-' :: c :: cs) => ⟨some (c :: cs), index + 1⟩
    | _ => ⟨none, index⟩

/-- Whether a letter is an option, and whether it has a word of its own. -/
def optionKind? (known : List Char) (c : Char) : Option Bool :=
  go known
where
  go : List Char → Option Bool
    | [] => none
    | d :: rest =>
      if d = c then some (rest.head? == some ':')
      else match rest with
        | ':' :: rest => go rest
        | rest => go rest

/-- Store the next option in a variable. -/
def nextOption (known : List Char) (name : Name) (words : Words) : Run Nat := do
  let s ← get
  let quiet := known.head? == some ':'
  let argument := named "OPTARG"
  let finish (c : Char) (letters : List Char) (index status : Nat) : Run Nat := do
    modify fun s => s.store (named "OPTIND") (named (toString index))
    assign name [c]
    let length := ((words[index - 2]?).map List.length).getD 0
    modify fun s => { s with
      optionIndex := index
      optionOffset := if letters.isEmpty then none else some (length - letters.length) }
    return status
  let place := optionPlace s.optionIndex s.optionOffset words
  match place.letters with
  | none | some [] => finish '?' [] place.index 1
  | some (c :: rest) =>
    match optionKind? known c with
    | none =>
      if quiet then assign argument [c]
      else
        complain (named "Illegal option -" ++ [c, '\n'])
        forget argument
      finish '?' rest place.index 0
    | some false =>
      assign argument []
      finish c rest place.index 0
    | some true =>
      match rest, words[place.index - 1]? with
      | [], none =>
        if quiet then
          assign argument [c]
          finish ':' rest place.index 0
        else
          complain (named "No arg for -" ++ c :: named " option\n")
          forget argument
          finish '?' rest place.index 0
      | [], some word =>
        assign argument word
        finish c [] (place.index + 1) 0
      | rest, _ =>
        assign argument rest
        finish c [] place.index 0

def getOptions (words : Words) : Run Nat := do
  let params := (← get).params
  match ← plainWords words with
  | known :: name :: rest => nextOption known name (if rest.isEmpty then params else rest)
  | _ => failWith "Usage: getopts optstring var [arg]"

end PipelineShell.Script.Builtin
