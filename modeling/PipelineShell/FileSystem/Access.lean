import PipelineShell.FileSystem.Resolve
import PipelineShell.Stream

/-!
# Reading, creating and writing files

Opening a file for writing creates it if it is missing, also through a link
that leads nowhere yet.  An open file is written either at its end or at an
offset that moves with what is written.
-/

namespace PipelineShell

namespace FileSystem

/-- Permissions of a file that is created. -/
def newFileMode : Nat := 0o644

/-- How an executable of the system begins. -/
def programImage : Bytes :=
  [0x7F, 0x45, 0x4C, 0x46, 2, 1, 1, 0, 0, 0, 0, 0, 0, 0, 0, 0, 3, 0, 0x3E, 0, 1, 0, 0, 0, 0xB0, 0x24]

/-- What can be read from a node. -/
def nodeText : Node → Except OsError Stream
  | .file content _ => .ok (.ofBytes content)
  | .directory => .error .isDirectory
  | .link _ => .error .linkLoop
  | .device .full | .device .zero => .ok ⟨[], [0]⟩
  | .device _ => .ok .empty
  | .program _ => .ok (.ofBytes programImage)

/-- What can be read from a file. -/
def readStream (fs : FileSystem) (here : Place) (p : Path) : Except OsError Stream :=
  match fs.find here p with
  | .error e => .error e
  | .ok node => nodeText node

/-- The content of a file. -/
def readFile (fs : FileSystem) (here : Place) (p : Path) : Except OsError Bytes :=
  (fs.readStream here p).map (·.first)

/-- A regular file that somebody may execute. -/
def isExecutable (fs : FileSystem) (here : Place) (p : Path) : Bool :=
  match fs.find here p with
  | .ok (.file _ mode) => mode &&& 0o111 != 0
  | .ok (.program _) => true
  | _ => false

/-- The names in the directory to which a path leads. -/
def list (fs : FileSystem) (here : Place) (p : Path) : Except OsError (List Name) :=
  match fs.locateDirectory here p with
  | .error e => .error e
  | .ok place => .ok (if place.detached then [] else fs.children place.location)

/-- Where a file is that is opened for writing: the location of an existing
file or of one to be created. -/
def locateForWriting (fs : FileSystem) (links : Nat) (here : Place) (p : Path) :
    Except OsError Location :=
  match (p.parts.filter (fun part => !part.isEmpty)).reverse with
  | [] => .error .isDirectory
  | last :: before =>
    match fs.descend links (here.start p) before.reverse with
    | .error e => .error e
    | .ok (dir, linksLeft) =>
      if !dir.detached && !fs.isDirectory dir.location then .error .notDirectory
      else if p.getLast? == some Path.slash then .error .isDirectory
      else if last = Path.dot ∨ last = Path.dotDot then .error .isDirectory
      else if maxName < last.length then .error .nameTooLong
      else if dir.detached then .error .notFound
      else match fs.get? (last :: dir.location) with
        | some (.link target) =>
          match links, linksLeft with
          | links + 1, left + 1 => locateForWriting fs (min left links) dir target
          | _, _ => .error .linkLoop
        | _ => .ok (last :: dir.location)
termination_by links
decreasing_by omega

/-- An open file. -/
inductive Handle where
  /-- written at an offset -/
  | atOffset (location : Location) (offset : Nat)
  /-- written at its end -/
  | atEnd (location : Location)
  | device (device : Device)
  deriving DecidableEq, Repr

/-- Open a file for writing, emptied or at its end. -/
def openForWriting (fs : FileSystem) (here : Place) (p : Path) (append : Bool) :
    Except OsError (Handle × FileSystem) :=
  match checkPath p with
  | .error e => .error e
  | .ok () =>
    match fs.locateForWriting maxLinks here p with
    | .error e => .error e
    | .ok loc =>
      let handle := if append then Handle.atEnd loc else Handle.atOffset loc 0
      match fs.get? loc with
      | none => .ok (handle, fs.insert loc (.file [] newFileMode))
      | some (.file content mode) =>
        .ok (handle, fs.insert loc (.file (if append then content else []) mode))
      | some (.device d) => .ok (.device d, fs)
      | some .directory => .error .isDirectory
      | some (.link _) => .error .linkLoop
      | some (.program _) => .error .permissionDenied

/-- A content with bytes written over it at an offset. -/
def overwrite (content : Bytes) (offset : Nat) (text : Bytes) : Bytes :=
  if text.isEmpty then content else
    content.take offset ++ List.replicate (offset - content.length) 0 ++ text ++
      content.drop (offset + text.length)

/-- Write to an open file. -/
def write (fs : FileSystem) (handle : Handle) (text : Bytes) :
    Except OsError (Handle × FileSystem) :=
  match handle with
  | .device .null | .device .zero => .ok (handle, fs)
  | .device .full => if text.isEmpty then .ok (handle, fs) else .error .noSpace
  | .device (.outlet outlet) => .ok (handle, fs.reveal outlet text)
  | .atEnd loc =>
    match fs.get? loc with
    | some (.file content mode) => .ok (handle, fs.insert loc (.file (content ++ text) mode))
    | _ => .ok (handle, fs)
  | .atOffset loc offset =>
    match fs.get? loc with
    | some (.file content mode) =>
      .ok (.atOffset loc (offset + text.length),
        fs.insert loc (.file (overwrite content offset text) mode))
    | _ => .ok (handle, fs)

/-- Put bytes behind the content of the file at a location, if there is one.  The file
keeps its place in its directory. -/
def extend (fs : FileSystem) (loc : Location) (text : Bytes) : FileSystem :=
  { fs with nodes := fs.nodes.map fun
      | (other, .file content mode) =>
        (other, .file (if other = loc then content ++ text else content) mode)
      | entry => entry }

/-- Make one directory. -/
def makeDirectory (fs : FileSystem) (here : Place) (p : Path) : Except OsError FileSystem :=
  match checkPath p with
  | .error e => .error e
  | .ok () =>
    match (p.parts.filter (fun part => !part.isEmpty)).reverse with
    | [] => .error .alreadyExists
    | last :: before =>
      match fs.descend maxLinks (here.start p) before.reverse with
      | .error e => .error e
      | .ok (dir, _) =>
        if !dir.detached && !fs.isDirectory dir.location then .error .notDirectory
        else if last = Path.dot ∨ last = Path.dotDot then .error .alreadyExists
        else if maxName < last.length then .error .nameTooLong
        else if dir.detached then .error .notFound
        else match fs.get? (last :: dir.location) with
          | some _ => .error .alreadyExists
          | none => .ok (fs.insert (last :: dir.location) .directory)

/-- A path that leads to a directory. -/
def leadsToDirectory (fs : FileSystem) (here : Place) (p : Path) : Bool :=
  (fs.locateDirectory here p).isOk

/-- Make the first of a list of directories, each of which lies in the next.
Directories made before a failure stay. -/
def makeDirectoriesUpTo (fs : FileSystem) (here : Place) :
    List Path → FileSystem × Except OsError Unit
  | [] => (fs, .ok ())
  | p :: above =>
    match fs.makeDirectory here p with
    | .ok made => (made, .ok ())
    | .error .notFound =>
      match makeDirectoriesUpTo fs here above with
      | (below, .error e) => (below, .error e)
      | (below, .ok ()) =>
        match below.makeDirectory here p with
        | .ok made => (made, .ok ())
        | .error e => (below, if below.leadsToDirectory here p then .ok () else .error e)
    | .error e => (fs, if fs.leadsToDirectory here p then .ok () else .error e)

/-- Make a directory and what is missing above it. -/
def makeDirectories (fs : FileSystem) (here : Place) (p : Path) :
    FileSystem × Except OsError Unit :=
  fs.makeDirectoriesUpTo here p.ancestors

end FileSystem

end PipelineShell
