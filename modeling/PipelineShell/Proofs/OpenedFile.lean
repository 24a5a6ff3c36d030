import PipelineShell.Proofs.StoredFile
import PipelineShell.Proofs.Terminal

/-!
# Files that were opened

A file that was opened for a redirection is emptied, made or kept as it was.  What is written
to it comes behind what it has kept, and the path under which it was opened leads to it as
long as nothing else takes the path or the file away.
-/

namespace PipelineShell

namespace FileSystem

/-- A path leads to the same place as before, where the same node is. -/
def SameAt (here : Place) (p : Path) (fs after : FileSystem) : Prop :=
  after.locate here p = fs.locate here p ∧ after.find here p = fs.find here p

/-- A path leads to a regular file. -/
structure LeadsTo (fs : FileSystem) (here : Place) (p : Path) (loc : Location) (content : Bytes)
    (mode : Nat) : Prop where
  locate : fs.locate here p = .ok ⟨loc, false⟩
  get : fs.get? loc = some (.file content mode)

/-- How a file is written that was opened to be emptied or at its end. -/
def openedHandle (append : Bool) (loc : Location) : Handle :=
  if append then .atEnd loc else .atOffset loc 0

section

variable {fs after : FileSystem} {here : Place} {p : Path} {loc : Location} {content : Bytes}
  {mode : Nat}

theorem LeadsTo.find (hleads : fs.LeadsTo here p loc content mode) :
    fs.find here p = .ok (.file content mode) :=
  find_eq_ok_iff.2 ⟨⟨loc, false⟩, hleads.locate, hleads.get⟩

theorem LeadsTo.of_same (hleads : fs.LeadsTo here p loc content mode)
    (hsame : SameAt here p fs after) : after.LeadsTo here p loc content mode := by
  have hlocate : after.locate here p = .ok ⟨loc, false⟩ := hsame.1.trans hleads.locate
  obtain ⟨place, hplace, hget⟩ := find_eq_ok_iff.1 (hsame.2.trans hleads.find)
  obtain rfl := Except.ok.inj (hlocate.symm.trans hplace)
  exact ⟨hlocate, hget⟩

/-- What was written to outlets is no part of what paths lead to. -/
theorem LeadsTo.hide (hleads : fs.LeadsTo here p loc content mode) :
    ({ fs with shown := [] } : FileSystem).LeadsTo here p loc content mode := by
  have hkeeps : fs.Keeps { fs with shown := [] } := fun _ old hold => ⟨old, hold, .inl rfl⟩
  exact ⟨locate_of_keeps hkeeps hleads.locate, hleads.get⟩

/-- What another file holds is no part of it either. -/
theorem LeadsTo.of_sameBut (hleads : fs.LeadsTo here p loc content mode)
    {hidden : Option Location} (hsame : SameBut hidden fs after) (hother : hidden ≠ some loc) :
    after.LeadsTo here p loc content mode where
  locate := (hsame.locate here p).trans hleads.locate
  get := by
    rcases hsame.get? loc with hget | ⟨hhidden, -⟩
    · exact hget.trans hleads.get
    · exact absurd hhidden hother

theorem LeadsTo.insert (hleads : fs.LeadsTo here p loc content mode) (text : Bytes) :
    (fs.insert loc (.file text mode)).LeadsTo here p loc text mode where
  locate := locate_of_keeps (keeps_insert_of_file hleads.get ⟨_, _, rfl⟩ ⟨_, _, rfl⟩) hleads.locate
  get := get?_insert_self _ _ _ (ne_nil_of_get? hleads.get ⟨_, _, rfl⟩)

/-- What is written to an opened file comes behind what the file has kept. -/
theorem LeadsTo.store (hleads : fs.LeadsTo here p loc content mode) {append : Bool}
    (hkept : append = false → content = []) (text : Bytes) :
    ((Sink.file (openedHandle append loc)).store fs text).LeadsTo here p loc (content ++ text)
      mode := by
  cases append with
  | true =>
      have hwrite : fs.write (openedHandle true loc) text =
          .ok (.atEnd loc, fs.insert loc (.file (content ++ text) mode)) :=
        History.write_atEnd hleads.get text
      simp only [Sink.store, hwrite]
      exact (hleads.insert _).hide
  | false =>
      obtain rfl := hkept rfl
      have hwrite : fs.write (openedHandle false loc) text =
          .ok (.atOffset loc text.length, fs.insert loc (.file text mode)) :=
        History.write_atStart hleads.get text
      simp only [Sink.store, hwrite]
      exact (hleads.insert _).hide

/-- A file that is opened is kept or emptied, and made where there is nothing. -/
theorem openForWriting_of_locate {append : Bool} (hcheck : checkPath p = .ok ())
    (hlocate : fs.locateForWriting maxLinks here p = .ok loc)
    (hnode : fs.get? loc = some (.file content mode) ∨
      fs.get? loc = none ∧ content = [] ∧ mode = newFileMode) :
    fs.openForWriting here p append = .ok (openedHandle append loc,
      fs.insert loc (.file (if append then content else []) mode)) := by
  rw [openForWriting, hcheck]
  simp only [hlocate]
  rcases hnode with hfile | ⟨hvacant, rfl, rfl⟩
  · rw [hfile, openedHandle]
  · rw [hvacant, openedHandle, ite_self]

/-- What a file that is opened keeps of its content; a file that is made has none. -/
def keptContent (fs : FileSystem) (here : Place) (p : Path) (append : Bool) : Bytes :=
  if append then (fs.readFile here p).toOption.getD [] else []

theorem readFile_of_error {e : OsError} (hfind : fs.find here p = .error e) :
    fs.readFile here p = .error e := by
  simp [readFile, readStream, hfind, Except.map]

/-- A path that leads to a file or to nothing leads to the opened file. -/
theorem leadsTo_of_openForWriting {append : Bool} {handle : Handle}
    (hopen : fs.openForWriting here p append = .ok (handle, after))
    (hkind : ∀ node, fs.find here p = .ok node → node.IsFile) :
    ∃ loc mode, handle = openedHandle append loc ∧
      after.LeadsTo here p loc (fs.keptContent here p append) mode ∧
      ∀ old oldMode, fs.find here p = .ok (.file old oldMode) → mode = oldMode := by
  obtain ⟨hcheck, loc, hlocate, hopened⟩ := History.openForWriting_cases hopen
  rcases hopened with ⟨old, mode, hbefore, rfl, hkeeps, hget⟩ | ⟨d, rfl, rfl, hget⟩
  · obtain ⟨left, hdescend⟩ := descend_of_locateForWriting hkeeps hlocate hget (by simp)
    have hplace : after.locate here p = .ok ⟨loc, false⟩ :=
      locate_eq_ok_iff.2 ⟨hcheck, left, hdescend⟩
    have hfound : ∀ before, fs.find here p = .ok (.file before mode) →
        fs.readFile here p = .ok before := fun _ => History.readFile_of_find
    rcases hbefore with hfile | ⟨hvacant, rfl⟩
    · have hfind : fs.find here p = .ok (.file old mode) :=
        find_of_locateForWriting fs.keeps_refl hcheck hlocate hfile (by simp)
      refine ⟨loc, mode, rfl, ⟨hplace, ?_⟩, ?_⟩
      · rw [hget, keptContent, hfound old hfind]
        rfl
      · intro _ oldMode hold
        obtain ⟨-, rfl⟩ := Node.file.inj (Except.ok.inj (hfind.symm.trans hold))
        rfl
    · have hmissing : ∀ node, fs.find here p ≠ .ok node :=
        History.find_of_vacant hkeeps hlocate hvacant hget ⟨_, _, rfl⟩
      refine ⟨loc, mode, rfl, ⟨hplace, ?_⟩, ?_⟩
      · rw [hget, keptContent]
        cases hfind : fs.find here p with
        | error e =>
            rw [readFile_of_error hfind]
            cases append <;> rfl
        | ok node => exact absurd hfind (hmissing node)
      · intro _ _ hold
        exact absurd hold (hmissing _)
  · have hdevice : after.find here p = .ok (.device d) :=
      find_of_locateForWriting after.keeps_refl hcheck hlocate hget (by simp)
    obtain ⟨content, mode, hfile⟩ := hkind _ hdevice
    cases hfile

end

end FileSystem

namespace Moment

variable {m : Moment} {here : Place} {p : Path} {loc : Location} {content : Bytes} {mode : Nat}

/-- What the log writes does not come near the file of another path. -/
theorem leadsTo_record (hleads : m.files.LeadsTo here p loc content mode)
    (hother : m.journal.location? ≠ some loc) (records : List LogRecord) :
    (m.record records).files.LeadsTo here p loc content mode :=
  hleads.of_sameBut (Journal.sameBut_stored (m.journal.tell records) m.files) hother

theorem leadsTo_finish {outcome : BuiltinOutcome}
    (hleads : outcome.files.LeadsTo here p loc content mode)
    (hother : m.journal.location? ≠ some loc) :
    (m.finish outcome).files.LeadsTo here p loc content mode :=
  (leadsTo_record (m := { m with state := outcome.state, files := outcome.files }) hleads hother
    outcome.records).hide

end Moment

end PipelineShell
