import PipelineShell.Path
import PipelineShell.OsError

/-!
# File systems

A file system maps locations to nodes.  A location is a list of names, the
innermost first, so that the directory of `name :: dir` is `dir`; the empty
location is the root, which is always a directory.
-/

namespace PipelineShell

abbrev Location := List Name

/-- The two ways in which text reaches the user of a terminal. -/
inductive Outlet where
  | output
  | errors
  deriving DecidableEq, Repr

inductive Device where
  /-- takes everything and holds nothing -/
  | null
  /-- has no room for a single byte, and holds zeros without end -/
  | full
  /-- takes everything and holds zeros without end -/
  | zero
  /-- shows what is written to it -/
  | outlet (outlet : Outlet)
  deriving DecidableEq, Repr

inductive Node where
  | directory
  | file (content : Bytes) (mode : Nat)
  | link (target : Path)
  | device (device : Device)
  /-- an executable of the system, known by its name -/
  | program (name : String)
  deriving DecidableEq, Repr

structure FileSystem where
  nodes : List (Location × Node)
  /-- what has been written to outlets, latest first -/
  shown : List (Outlet × Bytes) := []
  deriving Repr

namespace FileSystem

def empty : FileSystem := { nodes := [] }

def get? (fs : FileSystem) (loc : Location) : Option Node :=
  if loc = [] then some .directory else fs.nodes.lookup loc

def insert (fs : FileSystem) (loc : Location) (node : Node) : FileSystem :=
  { fs with nodes := (loc, node) :: fs.nodes.filter (fun entry => entry.1 != loc) }

/-- Remove a node and everything below it. -/
def eraseTree (fs : FileSystem) (loc : Location) : FileSystem :=
  { fs with nodes := fs.nodes.filter (fun entry => !loc.isSuffixOf entry.1) }

/-- Show a text on an outlet. -/
def reveal (fs : FileSystem) (outlet : Outlet) (text : Bytes) : FileSystem :=
  if text.isEmpty then fs else { fs with shown := (outlet, text) :: fs.shown }

/-- The names in a directory, in no particular order. -/
def children (fs : FileSystem) (dir : Location) : List Name :=
  fs.nodes.filterMap fun
    | (name :: above, _) => if above = dir then some name else none
    | ([], _) => none

def isDirectory (fs : FileSystem) (loc : Location) : Bool :=
  fs.get? loc == some .directory

theorem get?_insert_self (fs : FileSystem) (loc : Location) (node : Node) (h : loc ≠ []) :
    (fs.insert loc node).get? loc = some node := by
  simp [get?, insert, h]

theorem get?_insert_of_ne (fs : FileSystem) {loc other : Location} (node : Node)
    (h : other ≠ loc) : (fs.insert loc node).get? other = fs.get? other := by
  have hlookup : ∀ nodes : List (Location × Node),
      (nodes.filter (fun entry => entry.1 != loc)).lookup other = nodes.lookup other := by
    intro nodes
    induction nodes with
    | nil => rfl
    | cons entry nodes ih =>
      obtain ⟨key, value⟩ := entry
      by_cases hkey : key = loc
      · subst hkey
        have hne : (other == key) = false := by simpa using h
        simp [List.lookup_cons, hne, ih]
      · by_cases hother : other = key
        · simp [hkey, hother]
        · have hne : (other == key) = false := by simpa using hother
          simp [hkey, List.lookup_cons, hne, ih]
  have hne : (other == loc) = false := by simpa using h
  simp [get?, insert, List.lookup_cons, hne, hlookup]

end FileSystem

/-- The path of a location from the root. -/
def Location.path (loc : Location) : Path :=
  if loc = [] then [Path.slash] else loc.reverse.flatMap (fun name => Path.slash :: name)

end PipelineShell
