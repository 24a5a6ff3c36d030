import PipelineShell.FileSystem.Basic

/-!
# Following paths

A path is followed name by name from a starting place.  A link on the way is
replaced by its target, at most forty times for one path.
-/

namespace PipelineShell

/-- A directory from which relative paths are followed.  A directory that was
removed while it was in use is `detached`: it has no names in it, but the
directory above can still be reached. -/
structure Place where
  location : Location
  detached : Bool := false
  deriving DecidableEq, Repr

namespace Place

def root : Place := ⟨[], false⟩

/-- Where a path starts that is followed from here. -/
def start (here : Place) (p : Path) : Place :=
  if p.isAbsolute then root else here

end Place

namespace FileSystem

/-- The longest name that a directory can hold. -/
def maxName : Nat := 255

/-- The longest path that the system takes. -/
def maxPath : Nat := 4095

/-- The number of links that are followed for one path. -/
def maxLinks : Nat := 40

/-- How far names lead without following a link. -/
inductive Walk where
  | arrived (place : Place)
  | atLink (dir : Place) (target : Path) (rest : List Name)
  deriving DecidableEq, Repr

/-- Follow names up to the first link. -/
def walk (fs : FileSystem) (here : Place) : List Name → Except OsError Walk
  | [] => .ok (.arrived here)
  | name :: rest =>
    if !here.detached && !fs.isDirectory here.location then .error .notDirectory
    else if name = Path.dot then walk fs here rest
    else if name = Path.dotDot then walk fs ⟨here.location.tail, false⟩ rest
    else if maxName < name.length then .error .nameTooLong
    else if here.detached then .error .notFound
    else match fs.get? (name :: here.location) with
      | none => .error .notFound
      | some (.link target) => .ok (.atLink here target rest)
      | some _ => walk fs ⟨name :: here.location, false⟩ rest

/-- Follow names and the links among them; the number of links that may still
be followed is handed back. -/
def descend (fs : FileSystem) (links : Nat) (here : Place) (names : List Name) :
    Except OsError (Place × Nat) :=
  match fs.walk here names with
  | .error e => .error e
  | .ok (.arrived place) => .ok (place, links)
  | .ok (.atLink dir target rest) =>
    match links with
    | 0 => .error .linkLoop
    | links + 1 => descend fs links (dir.start target) (target.names ++ rest)

/-- The checks on a path before it is followed. -/
def checkPath (p : Path) : Except OsError Unit :=
  if p.contains 0 then .error .zeroInPath
  else if p.isEmpty then .error .notFound
  else if maxPath < p.length then .error .nameTooLong
  else .ok ()

/-- The place to which a path leads. -/
def locate (fs : FileSystem) (here : Place) (p : Path) : Except OsError Place :=
  match checkPath p with
  | .error e => .error e
  | .ok () => (fs.descend maxLinks (here.start p) p.names).map Prod.fst

/-- The node to which a path leads. -/
def find (fs : FileSystem) (here : Place) (p : Path) : Except OsError Node :=
  match fs.locate here p with
  | .error e => .error e
  | .ok place =>
    if place.detached then .ok .directory
    else match fs.get? place.location with
      | none => .error .notFound
      | some node => .ok node

/-- The node that a path names, which may be a link. -/
def findEntry (fs : FileSystem) (here : Place) (p : Path) : Except OsError Node :=
  match checkPath p with
  | .error e => .error e
  | .ok () =>
    match p.names.reverse with
    | [] => .ok .directory
    | last :: before =>
      if last = Path.dot ∨ last = Path.dotDot then fs.find here p
      else match fs.descend maxLinks (here.start p) before.reverse with
        | .error e => .error e
        | .ok (dir, _) =>
          if !dir.detached && !fs.isDirectory dir.location then .error .notDirectory
          else if maxName < last.length then .error .nameTooLong
          else if dir.detached then .error .notFound
          else match fs.get? (last :: dir.location) with
            | none => .error .notFound
            | some node => .ok node

/-- The directory to which a path leads. -/
def locateDirectory (fs : FileSystem) (here : Place) (p : Path) : Except OsError Place :=
  match fs.locate here p with
  | .error e => .error e
  | .ok place =>
    if place.detached || fs.isDirectory place.location then .ok place else .error .notDirectory

/-- The path from the root, without links, of what a path leads to.  It is
found name by name, so that only the answer is bound to the longest path. -/
def canonical (fs : FileSystem) (here : Place) (p : Path) : Except OsError Path :=
  if p.contains 0 then .error .zeroInPath
  else if p.isEmpty then .error .notFound
  else match fs.descend maxLinks (here.start p) p.names with
    | .error e => .error e
    | .ok (place, _) =>
      let answer := Location.path place.location
      if place.detached then .error .notFound
      else if maxPath < answer.length then .error .nameTooLong
      else .ok answer

end FileSystem

end PipelineShell
