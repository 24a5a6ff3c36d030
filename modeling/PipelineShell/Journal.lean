import PipelineShell.FileSystem.Access
import PipelineShell.Log

/-!
# The log of a session

Records that the log admits become lines of its file.  Each of them is there before
anybody looks at the files again: a log keeps what it was told, and is brought up to
date (`flush`) before a stage acts, before a file is opened and before the history is
saved.  A log without a file keeps what it was told to itself.
-/

namespace PipelineShell

/-- When and where a record is made. -/
structure Stamp where
  process : Nat
  date : String
  time : String
  deriving DecidableEq, Repr

def Stamp.format (stamp : Stamp) (r : LogRecord) : Bytes :=
  utf8 ("[PID:" ++ toString stamp.process ++ "][" ++ r.level.name ++ "] " ++ stamp.date ++ " " ++
    stamp.time ++ " - " ++ r.message ++ "\n")

inductive LogTarget where
  | file (handle : FileSystem.Handle)
  | errors
  deriving DecidableEq, Repr

namespace LogTarget

/-- The file that gets the lines of the log.  A device keeps none. -/
def location? : LogTarget → Option Location
  | file (.atEnd loc) | file (.atOffset loc _) => some loc
  | file (.device _) | errors => none

/-- The outlet on which the lines of the log are shown. -/
def outlet? : LogTarget → Option Outlet
  | file (.device (.outlet outlet)) => some outlet
  | file _ => none
  | errors => some .errors

end LogTarget

/-- Where a log writes, and the least severe level that it takes. -/
structure LogSetup where
  target : LogTarget
  level : LogLevel
  deriving DecidableEq, Repr

namespace LogSetup

def admits (log : LogSetup) (r : LogRecord) : Bool := log.level.admits r.level

/-- The lines of the records that a log admits. -/
def lines (log : LogSetup) (stamp : Stamp) (records : List LogRecord) : Bytes :=
  (records.filter log.admits).flatMap stamp.format

/-- Write records to the file of a log, behind what is there. -/
def store (log : LogSetup) (stamp : Stamp) (fs : FileSystem) (records : List LogRecord) :
    FileSystem :=
  match log.target.location? with
  | some loc => fs.extend loc (log.lines stamp records)
  | none => fs

end LogSetup

/-- A log that is being written. -/
structure Journal where
  setup : LogSetup
  stamp : Stamp
  /-- what the log was told and has not written yet, latest first -/
  pending : List LogRecord := []
  deriving DecidableEq, Repr

namespace Journal

/-- A log without a file. -/
def apart : Journal := { setup := ⟨.errors, .info⟩, stamp := ⟨0, "", ""⟩ }

def tell (journal : Journal) (records : List LogRecord) : Journal :=
  { journal with pending := records.reverse ++ journal.pending }

/-- The files with all that the log was told in its file. -/
def stored (journal : Journal) (fs : FileSystem) : FileSystem :=
  journal.setup.store journal.stamp fs journal.pending.reverse

/-- The log has written all that it was told. -/
def settled (journal : Journal) : Journal := { journal with pending := [] }

/-- The file to which a log writes. -/
def location? (journal : Journal) : Option Location := journal.setup.target.location?

end Journal

end PipelineShell
