import PipelineShell.Script.Builtin.Words

/-!
# Commands about directories and permissions

The directory of a script has a path by which it was reached; links on the way
stay in it.
-/

namespace PipelineShell.Script.Builtin

open Run

/-! ### Paths by their text -/

/-- Go up from a path that is written backwards and ends in a slash; so much of
it is the root. -/
def goUp (root : Nat) : List Char → List Char
  | [] => []
  | c :: rest =>
    if rest.length < root then c :: rest
    else if rest.head? == some '/' then rest
    else goUp root rest

/-- The names in a path. -/
def pathNames (path : List Char) : List (List Char) :=
  (path.splitOn '/').filter (!·.isEmpty)

/-- A path seen from another one, without dots.  Two slashes at the start of a
path stay. -/
def follow (current path : List Char) : List Char :=
  let hasTwo (p : List Char) : Bool := p.take 2 == ['/', '/'] && p[2]? != some '/'
  let isAbsolute := path.head? == some '/'
  let start := if isAbsolute then (if hasTwo path then ['/', '/'] else ['/'])
    else if current.getLast? == some '/' then current else current ++ ['/']
  let root := if start[1]? == some '/' then 2 else 1
  let step (done name : List Char) : List Char :=
    if name = ['.', '.'] then goUp root done
    else if name = ['.'] then done
    else '/' :: name.reverse ++ done
  let done := (pathNames path).foldl step start.reverse
  (if root < done.length then done.drop 1 else done).reverse

/-! ### Changing the directory -/

/-- Whether the options ask for the path without links. -/
def asksPhysical (o : Options) : Bool :=
  (o.given.foldl (fun (flag, last) (letter, _) =>
    if letter != last then (!flag, letter) else (flag, last)) (false, 'L')).1

/-- Set a variable that programs get. -/
def assignExported (name : Name) (value : List Char) : Run Unit := do
  assign name value
  modify fun s =>
    s.setVariable name { ((s.binding? name).getD { value := none }) with exported := true }

/-- Go to a directory; tells whether that is possible. -/
def enter (physical : Bool) (path : List Char) : Run Bool := do
  let s ← get
  let old := Octets.ofBytes s.directory
  let path := if physical || s.directory.isEmpty then path else follow old path
  match s.files.locateDirectory s.place (Octets.toBytes path) with
  | .error _ => return false
  | .ok place =>
    modify fun s => { s with place }
    assignExported (named "OLDPWD") old
    let directory := if physical || s.directory.isEmpty then Location.path place.location
      else Octets.toBytes path
    modify fun s => { s with
      directory, found := s.found.map fun (name, index, _) => (name, index, true) }
    assignExported (named "PWD") (Octets.ofBytes directory)
    return true

/-- The directories in which a directory is looked for, and whether one of them
is shown when it is entered. -/
def directoryChoices (s : State) (path : List Char) : List (List Char × Bool) :=
  let first := (path.splitOn '/').headD []
  let isFixed := path.head? == some '/' || first == ['.'] || first == ['.', '.']
  let path := if path.isEmpty then ['.'] else path
  match if isFixed then none else s.get? (named "CDPATH") with
  | none => []
  | some search =>
    (search.splitOn ':').filterMap fun entry =>
      let full := if entry.isEmpty then path else entry ++ '/' :: path
      match s.files.locateDirectory s.place (Octets.toBytes full) with
      | .ok _ => some (full, !entry.isEmpty)
      | .error _ => none

def changeDirectory (words : Words) : Run Nat := do
  let o ← options (letters "LP") words
  let s ← get
  let (path, shown) := match o.rest with
    | [] => (s.getD "HOME" "", false)
    | ['-'] :: _ => (s.getD "OLDPWD" "", true)
    | path :: _ => (path, false)
  let (full, found) := (directoryChoices s path).headD (path, false)
  let full := if full.isEmpty then ['.'] else full
  if ← enter (asksPhysical o) full then
    if shown || found then printLine (Octets.ofBytes (← get).directory)
    return 0
  else fail (named "can't cd to " ++ path)

def showDirectory (words : Words) : Run Nat := do
  let o ← options (letters "LP") words
  let s ← get
  printLine (Octets.ofBytes (if asksPhysical o then Location.path s.place.location else s.directory))
  return 0

/-! ### Permissions of new files -/

/-- A mask by the permissions that are left. -/
def shownMask (mask : Nat) : List Char :=
  let left := 0o777 ^^^ (mask &&& 0o777)
  let group (c : Char) (bits : Nat) : List Char :=
    c :: '=' :: ((if bits &&& 4 != 0 then ['r'] else []) ++ (if bits &&& 2 != 0 then ['w'] else []) ++
      if bits &&& 1 != 0 then ['x'] else [])
  [','].intercalate [group 'u' (left / 64), group 'g' (left / 8 % 8), group 'o' (left % 8)]

/-- Whose permissions letters name, one bit for each group. -/
def whose (cs : List Char) : Nat :=
  cs.foldl (fun n c => n ||| (match c with
    | 'a' => 0o111
    | 'u' => 0o100
    | 'g' => 0o010
    | _ => 0o001)) 0

/-- The permissions that letters name; `left` are those that are given. -/
def permissions (left : Nat) (cs : List Char) : Nat :=
  (cs.foldl (fun n c => n ||| (match c with
    | 'r' => 4
    | 'w' => 2
    | 'x' => 1
    | 'u' => left / 64
    | 'g' => left / 8
    | 'o' => left
    | 'X' => if left &&& 0o111 != 0 then 1 else 0
    | _ => 0)) 0) &&& 7

/-- Read changes of permissions; `none` if a letter has no meaning. -/
def changeMode (left : Nat) : (fuel : Nat) → (groups : Nat) → List Char → (result : Nat) → Option Nat
  | 0, _, _, result => some result
  | _, _, [], result => some result
  | fuel + 1, groups, cs, result =>
    let named := cs.takeWhile "augo".toList.contains
    let groups := groups ||| whose named
    let groups := if groups = 0 then 0o111 else groups
    match cs.drop named.length with
    | [] => some result
    | sign :: rest =>
      if !"=+-".toList.contains sign then none
      else
        let what := rest.takeWhile "rwxugoXs".toList.contains
        let bits := permissions left what * groups
        let result := match sign with
          | '-' => result &&& (0o777 ^^^ bits)
          | '+' => result ||| bits
          | _ => bits ||| (result &&& (0o777 ^^^ (groups * 7)))
        match rest.drop what.length with
        | ',' :: rest => changeMode left fuel 0 rest result
        | [] => some result
        | c :: rest =>
          if "=+-".toList.contains c then changeMode left fuel groups (c :: rest) result else none

def changeMask (words : Words) : Run Nat := do
  let o ← options (letters "S") words
  let mask := (← get).mask
  match o.rest with
  | [] =>
    let digits := Nat.toDigits 8 mask
    printLine (if o.has 'S' then shownMask mask else List.replicate (4 - digits.length) '0' ++ digits)
  | word :: _ =>
    if word.head?.any Char.isDigit then
      if !word.all fun c => '0' ≤ c && c ≤ '7' then fail (named "Illegal number: " ++ word)
      let n := word.foldl (fun n c => n * 8 + (c.toNat - 48)) 0
      modify fun s => { s with mask := n &&& 0o777 }
    else
      let left := 0o777 ^^^ mask
      match changeMode left (word.length + 1) 0 word left with
      | none => fail (named "Illegal mode: " ++ word)
      | some result => modify fun s => { s with mask := 0o777 ^^^ (result &&& 0o777) }
  return 0

end PipelineShell.Script.Builtin
