import PipelineShell.Text.Bytes

/-!
# Paths

A path is a byte string cut at slashes.  The functions here only look at the
text of a path; what it leads to is decided by a file system.
-/

namespace PipelineShell

abbrev Path := Bytes

/-- A component of a path. -/
abbrev Name := Bytes

namespace Path

def slash : UInt8 := 47

/-- The name of a directory inside itself. -/
def dot : Name := [46]

/-- The name of the directory above. -/
def dotDot : Name := [46, 46]

def isAbsolute (p : Path) : Bool := p.head? == some slash

/-- A path seen from a base: an absolute path stands for itself. -/
def join (base rel : Path) : Path :=
  if rel.isAbsolute then rel
  else if base.isEmpty || base.getLast? == some slash then base ++ rel
  else base ++ slash :: rel

/-- The parts between slashes, empty ones included. -/
def parts (p : Path) : List Name := p.splitOn slash

/-- The names along a path.  A path that ends with a slash leads into the
directory that it names. -/
def names (p : Path) : List Name :=
  p.parts.filter (fun part => !part.isEmpty) ++
    if p.getLast? == some slash then [dot] else []

/-- Join parts by slashes. -/
def ofParts (parts : List Name) : Path := [slash].intercalate parts

/-- Drop parts that add nothing, the latest first; the first part of a path
is kept. -/
def dropTrivial : List Name → List Name
  | part :: next :: rest =>
    if part.isEmpty || part == dot then dropTrivial (next :: rest) else part :: next :: rest
  | parts => parts

/-- The path without its last component; `none` for the root and the empty path. -/
def parent? (p : Path) : Option Path :=
  match dropTrivial p.parts.reverse with
  | [] => none
  | [first] => if first.isEmpty then none else some []
  | _ :: before =>
    match dropTrivial before with
    | [[]] => some [slash]
    | kept => some (ofParts kept.reverse)

/-- A path and the paths above it, without the empty path. -/
def ancestors (p : Path) : List Path :=
  go p.length p
where
  go : Nat → Path → List Path
    | 0, _ => []
    | fuel + 1, p =>
      if p.isEmpty then [] else
        p :: match p.parent? with
          | none => []
          | some above => go fuel above

end Path

end PipelineShell
