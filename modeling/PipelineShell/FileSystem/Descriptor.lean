import PipelineShell.FileSystem.Access

/-!
# Open files as files

What a process has open under a number can also be reached by a path, below a
directory that is the process's own.  For the shell itself the first three
numbers are the terminal.
-/

namespace PipelineShell.FileSystem

/-- The directory in which a process finds what it has open. -/
def descriptorDirectory : Location := [utf8 "fd", utf8 "self", utf8 "proc"]

def descriptorLocation (number : Nat) : Location := utf8 (toString number) :: descriptorDirectory

/-- The number of the open file at a location. -/
def descriptorAt? : Location → Option Nat
  | name :: dir =>
    if dir = descriptorDirectory ∧ !name.isEmpty ∧ name.all (fun b => 48 ≤ b && b ≤ 57) then
      some (name.foldl (fun n b => n * 10 + (b.toNat - 48)) 0)
    else none
  | [] => none

/-- The number of the open file that a path names, whether it is open or not. -/
def descriptorOf? (fs : FileSystem) (here : Place) (p : Path) : Option Nat :=
  match fs.locate here p with
  | .ok place => descriptorAt? place.location
  | .error _ =>
    match p.names.reverse with
    | [] => none
    | last :: before =>
      match fs.descend maxLinks (here.start p) before.reverse with
      | .ok (dir, _) => descriptorAt? (last :: dir.location)
      | .error _ => none

/-- The location of the input of the terminal. -/
def terminalInput : Location := descriptorLocation 0

/-- Lay the input of the terminal before the shell, as a file.  The file is a copy: what
the shell itself reads is `World.input`, and nothing that becomes of the one changes the
other.  A launcher for which they are one input has to see to it, as `Launch.inputChannel`
does. -/
def attachInput (fs : FileSystem) (input : Bytes) : FileSystem :=
  fs.insert terminalInput (.file input 0o600)

/-- The other names of what a process has open. -/
def descriptorLinks : List (String × String) :=
  [("fd", "/proc/self/fd"), ("stdin", "/proc/self/fd/0"), ("stdout", "/proc/self/fd/1"),
    ("stderr", "/proc/self/fd/2")]

/-- The devices, and the terminal without an input. -/
def attachDevices (fs : FileSystem) : FileSystem :=
  let devices : List (String × Device) := [("null", .null), ("full", .full), ("zero", .zero)]
  let fs := [[utf8 "dev"], [utf8 "proc"], descriptorDirectory.tail, descriptorDirectory].foldl
    (fun fs dir => fs.insert dir .directory) fs
  let fs := devices.foldl (fun fs (name, d) => fs.insert [utf8 name, utf8 "dev"] (.device d)) fs
  let fs := descriptorLinks.foldl
    (fun fs (name, target) => fs.insert [utf8 name, utf8 "dev"] (.link (utf8 target))) fs
  let fs := fs.insert (descriptorLocation 1) (.device (.outlet .output))
  (fs.insert (descriptorLocation 2) (.device (.outlet .errors))).attachInput []

end PipelineShell.FileSystem
