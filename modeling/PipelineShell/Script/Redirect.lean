import PipelineShell.Script.Expansion

/-!
# Redirections in scripts

A redirection lets a number mean another channel.  The words of all redirections
are expanded first; then they are carried out from left to right, up to the
first that fails.
-/

namespace PipelineShell.Script

/-- A redirection whose word is expanded. -/
structure Redirecting where
  number : Nat
  kind : RedirectionKind
  text : List Char

namespace Run

/-- What a script says about a file that cannot be opened. -/
def openFailure (creates : Bool) (e : OsError) : String :=
  match e with
  | .notFound | .notDirectory => if creates then "Directory nonexistent" else "No such file"
  | e => Program.failureText e

def cannotOpen {α : Type} (creates : Bool) (path : List Char) (e : OsError) : Run α :=
  fail (named (if creates then "cannot create " else "cannot open ") ++ path ++
    named (": " ++ openFailure creates e))

/-- A number that means no open channel. -/
def badNumber {α : Type} (text : List Char) : Run α :=
  fail (text ++ named (": " ++ Program.failureText .badDescriptor))

/-- Let a number mean what is open under the number that a path names. -/
def openDescriptor (number source : Nat) (path : List Char) (access : Access) : Run Unit := do
  let s ← get
  match s.descriptors.lookup source, s.channel? source with
  | some index, some c =>
    let reopened : Channel := match c with
      | .file (.atOffset loc _) _ | .file (.atEnd loc) _ => .file (.atOffset loc 0) access
      | .file handle _ => .file handle access
      | c => c
    match reopened with
    | .file _ _ => modify fun s => s.openChannel number reopened
    | _ => modify fun s => s.connect number (some index)
  | _, _ => cannotOpen access.writes path .notFound

def openToRead (number : Nat) (path : List Char) : Run Unit := do
  let s ← get
  match s.descriptorOf? (Octets.toBytes path) with
  | some source => openDescriptor number source path ⟨true, false⟩
  | none =>
    match s.files.locate s.place (Octets.toBytes path) with
    | .error e => cannotOpen false path e
    | .ok place =>
      match if place.detached then some .directory else s.files.get? place.location with
      | none => cannotOpen false path .notFound
      | some (.device d) => modify fun s => s.openChannel number (.file (.device d) ⟨true, false⟩)
      | some _ => modify fun s => s.openChannel number (.reading place.location)

/-- Take from new files the permissions that they do not get. -/
def maskNew (mask : Nat) (before after : FileSystem) (handle : FileSystem.Handle) : FileSystem :=
  match handle with
  | .atOffset loc _ | .atEnd loc =>
    match before.get? loc, after.get? loc with
    | none, some (.file content _) => after.insert loc (.file content (0o666 &&& (0o777 ^^^ mask)))
    | _, _ => after
  | .device _ => after

/-- Open a file to write to it; `access` tells whether it is read as well. -/
def openToWrite (number : Nat) (path : List Char) (append : Bool) (access : Access) :
    Run Unit := do
  let s ← get
  match s.descriptorOf? (Octets.toBytes path) with
  | some source => openDescriptor number source path access
  | none =>
    match s.files.openForWriting s.place (Octets.toBytes path) append with
    | .ok (handle, files) =>
      let handle := match handle with
        | .atEnd loc => if access.reads then FileSystem.Handle.atOffset loc 0 else .atEnd loc
        | handle => handle
      let files := maskNew s.mask s.files files handle
      modify fun s => ({ s with files }).openChannel number (.file handle access)
    | .error e => cannotOpen true path e

/-- Existing files stay as they are where the options demand it. -/
def checkExisting (path : List Char) : Run Unit := do
  let s ← get
  match s.files.find s.place (Octets.toBytes path) with
  | .ok (.file _ _) | .ok (.program _) => cannotOpen true path .alreadyExists
  | .error _ =>
    match s.files.findEntry s.place (Octets.toBytes path) with
    | .ok _ => cannotOpen true path .alreadyExists
    | .error _ => pure ()
  | .ok _ => pure ()

def duplicate (number : Nat) (text : List Char) : Run Unit := do
  match text with
  | ['-'] => modify fun s => s.connect number none
  | _ =>
    let source := Octets.decimal text
    if source != number then
      match (← get).descriptors.lookup source with
      | some index => modify fun s => s.connect number (some index)
      | none => badNumber text

section

variable (capture : Command → Run (List Char))

/-- Expand the word of a redirection. -/
def expandRedirection : Redirection → Run Redirecting
  | .mk number kind word => do
    match kind with
    | .document _ _ => return ⟨number, kind, []⟩
    | .duplicate =>
      let text ← expandText capture word
      match text with
      | [c] => if c.isDigit || c = '-' then return ⟨number, kind, text⟩
      | _ => pure ()
      modify fun s => { s with line := s.reached }
      failWith "Syntax error: Bad fd number"
    | _ => return ⟨number, kind, ← expandText capture word⟩

/-- Carry out a redirection. -/
def redirect (r : Redirecting) : Run Unit := do
  match r.kind with
  | .read => openToRead r.number r.text
  | .write overExisting =>
    if !overExisting && (← get).has "noclobber" then checkExisting r.text
    openToWrite r.number r.text false ⟨false, true⟩
  | .append => openToWrite r.number r.text true ⟨false, true⟩
  | .readWrite => openToWrite r.number r.text true ⟨true, true⟩
  | .duplicate => duplicate r.number r.text
  | .document index expanded =>
    let word := ((← get).documents[index]?).getD []
    let text ← if expanded then expandDocument capture word
      else pure (Region.textOf (word.map fun
        | .plain c | .escaped c => { glyphs := [.char c false] }
        | _ => { glyphs := [] }))
    modify fun s => s.openChannel r.number (.ofText (.ofBytes (Octets.toBytes text)))

def redirectAll (rs : List Redirecting) : Run Unit := do
  for r in rs do redirect capture r

/-- Carry out redirections; tells whether all of them succeeded. -/
def redirectSafely (rs : List Redirecting) : Run Bool := do
  try
    redirectAll capture rs
    return true
  catch
    | .error =>
      setStatus 2
      return false
    | stop => throw stop

end

end Run

end PipelineShell.Script
