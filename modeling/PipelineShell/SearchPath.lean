import PipelineShell.FileSystem.Access
import PipelineShell.Log

/-!
# Looking up commands

A search path is a list of directories.  A command is the first executable of
its name in them, in the order of the list; what else a directory holds, and in
which order it lists it, does not matter.
-/

namespace PipelineShell

structure SearchPath where
  directories : List Path
  deriving DecidableEq, Repr

namespace SearchPath

/-- The byte between two directories. -/
def colon : UInt8 := 58

def ofPath (p : Bytes) : SearchPath := ⟨p.splitOn colon⟩

/-- The search path of a variable that may be unset. -/
def ofVariable (value : Option Bytes) : SearchPath :=
  match value with
  | some p => ofPath p
  | none => ⟨[]⟩

/-- What reading the variable tells the log. -/
def variableRecords (value : Option Bytes) : List LogRecord :=
  match value with
  | some _ => []
  | none => [.error "PATH 环境变量不存在"]

/-- The first entry of a listing that has a name and that somebody may execute.  An
entry whose name is no text has no name that can be looked for. -/
def findAmong (fs : FileSystem) (here : Place) (name : String) (dir : Path)
    (entries : List Name) : Option Path :=
  entries.findSome? fun entry =>
    if entry.text? = some name ∧ fs.isExecutable here (dir.join entry) then some (dir.join entry)
    else none

/-- What directories list, or why they cannot be listed. -/
abbrev Listing := Path → Except OsError (List Name)

/-- The executable of a name in one directory as it is listed. -/
def findListed (fs : FileSystem) (here : Place) (listing : Listing) (name : String)
    (dir : Path) : Option Path :=
  match listing dir with
  | .error _ => none
  | .ok entries => findAmong fs here name dir entries

/-- The executable of a name in one directory. -/
def findIn (fs : FileSystem) (here : Place) (name : String) (dir : Path) : Option Path :=
  findListed fs here (fs.list here) name dir

/-- The executable of a name in the first directory that has one, with directories as they
are listed. -/
def lookupListed (search : SearchPath) (fs : FileSystem) (here : Place) (listing : Listing)
    (name : String) : Option Path :=
  search.directories.findSome? (findListed fs here listing name)

def lookup (search : SearchPath) (fs : FileSystem) (here : Place) (name : String) :
    Option Path :=
  search.lookupListed fs here (fs.list here) name

/-- What looking into one directory tells the log. -/
def findRecords (fs : FileSystem) (here : Place) (name : String) (dir : Path) :
    List LogRecord :=
  match fs.list here dir with
  | .error .notFound => []
  | .error e => [.error ("read_dir 失败: " ++ dir.display ++ ": " ++ e.message)]
  | .ok _ =>
    if (findIn fs here name dir).isSome then
      [.trace ("在 " ++ dir.display ++ " 中找到 " ++ name)]
    else []

/-- What a look-up tells the log: nothing is said about directories after the
one that has the command. -/
def lookupRecords (search : SearchPath) (fs : FileSystem) (here : Place) (name : String) :
    List LogRecord :=
  go search.directories
where
  go : List Path → List LogRecord
    | [] => []
    | dir :: rest =>
      findRecords fs here name dir ++
        if (findIn fs here name dir).isSome then [] else go rest

theorem findAmong_eq_some_iff {fs : FileSystem} {here : Place} {name : String} {dir : Path}
    {entries : List Name} {program : Path} :
    findAmong fs here name dir entries = some program ↔
      utf8 name ∈ entries ∧ fs.isExecutable here (dir.join (utf8 name)) = true ∧
        program = dir.join (utf8 name) := by
  have hfound : ∀ found, findAmong fs here name dir entries = some found →
      utf8 name ∈ entries ∧ fs.isExecutable here (dir.join (utf8 name)) = true ∧
        found = dir.join (utf8 name) := by
    intro found hfind
    obtain ⟨entry, hmem, hentry⟩ := List.exists_of_findSome?_eq_some hfind
    split at hentry
    · rename_i hmatch
      obtain rfl := Bytes.eq_utf8_of_text? hmatch.1
      exact ⟨hmem, hmatch.2, (Option.some.inj hentry).symm⟩
    · nomatch hentry
  constructor
  · exact hfound program
  · rintro ⟨hmem, hexecutable, rfl⟩
    cases hfind : findAmong fs here name dir entries with
    | some found => rw [(hfound found hfind).2.2]
    | none =>
        have hpassed := List.findSome?_eq_none_iff.1 hfind (utf8 name) hmem
        rw [if_pos ⟨Bytes.text?_utf8 name, hexecutable⟩] at hpassed
        nomatch hpassed

end SearchPath

end PipelineShell
