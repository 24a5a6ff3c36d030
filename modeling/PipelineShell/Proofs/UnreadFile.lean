import PipelineShell.Builtin
import PipelineShell.Journal

/-!
# Files that are the same but for what one of them holds

What a file holds counts only for those who read it: paths lead to the same places
whatever it is, and a file is opened, written and listed in the same way.  So files that
are the same but for what one of them holds stay so, whatever is done with them, until
somebody reads that file.  Everything here goes through the files without what the one
holds: what an operation answers is a function of these.
-/

namespace PipelineShell

/-- Both fail for the same reason, or both succeed with answers that are related. -/
inductive SameAnswer {ε α : Type} (related : α → α → Prop) : Except ε α → Except ε α → Prop where
  | error (e : ε) : SameAnswer related (.error e) (.error e)
  | ok {a b : α} : related a b → SameAnswer related (.ok a) (.ok b)

theorem SameAnswer.error_or_ok {ε α : Type} {related : α → α → Prop} {x y : Except ε α}
    (hsame : SameAnswer related x y) :
    (∃ e, x = .error e ∧ y = .error e) ∨ ∃ a b, x = .ok a ∧ y = .ok b ∧ related a b := by
  cases hsame with
  | error e => exact .inl ⟨e, rfl, rfl⟩
  | ok hrelated => exact .inr ⟨_, _, rfl, rfl, hrelated⟩

namespace Node

/-- A node without what it holds, if it is a file. -/
def hollow : Node → Node
  | file _ mode => file [] mode
  | node => node

/-- The node at a location, without what it holds if it is the one that is hidden. -/
def hideAt (hidden : Option Location) (loc : Location) (node : Node) : Node :=
  if hidden = some loc then node.hollow else node

theorem hideAt_self (loc : Location) (node : Node) : hideAt (some loc) loc node = node.hollow :=
  if_pos rfl

/-- Only files hold something. -/
theorem hideAt_eq_or (hidden : Option Location) (loc : Location) (node : Node) :
    hideAt hidden loc node = node ∨
      hidden = some loc ∧ ∃ content mode, node = .file content mode ∧
        hideAt hidden loc node = .file [] mode := by
  by_cases hhidden : hidden = some loc
  · subst hhidden
    rw [hideAt_self]
    cases node with
    | file content mode => exact .inr ⟨rfl, content, mode, rfl, rfl⟩
    | directory | link | device | program => exact .inl rfl
  · exact .inl (if_neg hhidden)

end Node

namespace FileSystem

/-- The files without what one of them holds. -/
def without (fs : FileSystem) (hidden : Option Location) : FileSystem :=
  { fs with nodes := fs.nodes.map fun entry =>
      (entry.1, Node.hideAt hidden entry.1 entry.2) }

/-- Files that are the same but for what one of them holds. -/
def SameBut (hidden : Option Location) (fs fs' : FileSystem) : Prop :=
  fs'.without hidden = fs.without hidden

variable {hidden : Option Location}

theorem SameBut.refl (hidden : Option Location) (fs : FileSystem) : SameBut hidden fs fs := rfl

theorem SameBut.symm {fs fs' : FileSystem} (hsame : SameBut hidden fs fs') :
    SameBut hidden fs' fs := Eq.symm hsame

theorem SameBut.trans {fs mid fs' : FileSystem} (hfirst : SameBut hidden fs mid)
    (hrest : SameBut hidden mid fs') : SameBut hidden fs fs' := Eq.trans hrest hfirst

/-! ## What does not depend on it -/

section Reading

variable (fs : FileSystem)

theorem get?_without (loc : Location) :
    (fs.without hidden).get? loc = (fs.get? loc).map (Node.hideAt hidden loc) := by
  have hlookup : ∀ nodes : List (Location × Node),
      (nodes.map fun entry => (entry.1, Node.hideAt hidden entry.1 entry.2)).lookup loc =
        (nodes.lookup loc).map (Node.hideAt hidden loc) := by
    intro nodes
    induction nodes with
    | nil => rfl
    | cons entry nodes ih =>
        obtain ⟨key, node⟩ := entry
        by_cases hkey : loc = key
        · simp [hkey]
        · have hne : (loc == key) = false := by simpa using hkey
          simp [List.lookup_cons, hne, ih]
  by_cases hroot : loc = []
  · have hdirectory : Node.hideAt hidden loc .directory = .directory := by
      rw [Node.hideAt]
      split <;> rfl
    rw [get?, get?, if_pos hroot, if_pos hroot, Option.map_some, hdirectory]
  · rw [get?, get?, if_neg hroot, if_neg hroot, without, hlookup]

variable (hidden) in
/-- What is at a location, apart from what it holds. -/
theorem get?_without_cases (loc : Location) :
    (fs.without hidden).get? loc = fs.get? loc ∨
      hidden = some loc ∧ ∃ content mode, fs.get? loc = some (.file content mode) ∧
        (fs.without hidden).get? loc = some (.file [] mode) := by
  rw [get?_without]
  cases fs.get? loc with
  | none => exact .inl rfl
  | some node =>
      rcases Node.hideAt_eq_or hidden loc node with
        hsame | ⟨hhidden, content, mode, rfl, hhollow⟩
      · exact .inl (congrArg some hsame)
      · exact .inr ⟨hhidden, content, mode, rfl, congrArg some hhollow⟩

theorem isDirectory_without (loc : Location) :
    (fs.without hidden).isDirectory loc = fs.isDirectory loc := by
  rw [isDirectory, isDirectory]
  rcases fs.get?_without_cases hidden loc with hsame | ⟨-, content, mode, hfile, hhollow⟩
  · rw [hsame]
  · rw [hfile, hhollow]
    rfl

theorem walk_without (here : Place) (names : List Name) :
    (fs.without hidden).walk here names = fs.walk here names := by
  induction names generalizing here with
  | nil => rfl
  | cons name rest ih =>
      simp only [walk, isDirectory_without, ih]
      rcases fs.get?_without_cases hidden (name :: here.location) with
        hsame | ⟨-, content, mode, hfile, hhollow⟩
      · rw [hsame]
      · rw [hfile, hhollow]

theorem descend_without (links : Nat) (here : Place) (names : List Name) :
    (fs.without hidden).descend links here names = fs.descend links here names := by
  induction links generalizing here names with
  | zero => rw [descend, descend, walk_without]
  | succ links ih =>
      rw [descend, descend, walk_without]
      split
      · rfl
      · rfl
      · exact ih _ _

theorem locate_without (here : Place) (p : Path) :
    (fs.without hidden).locate here p = fs.locate here p := by
  simp only [locate, descend_without]

theorem leadsToDirectory_without (here : Place) (p : Path) :
    (fs.without hidden).leadsToDirectory here p = fs.leadsToDirectory here p := by
  simp only [leadsToDirectory, locateDirectory, locate_without, isDirectory_without]

theorem canonical_without (here : Place) (p : Path) :
    (fs.without hidden).canonical here p = fs.canonical here p := by
  simp only [canonical, descend_without]

theorem children_without (dir : Location) :
    (fs.without hidden).children dir = fs.children dir := by
  rw [children, children, without, List.filterMap_map]
  congr 1
  funext entry
  obtain ⟨loc, node⟩ := entry
  cases loc <;> rfl

theorem list_without (here : Place) (p : Path) :
    (fs.without hidden).list here p = fs.list here p := by
  simp only [list, locateDirectory, locate_without, isDirectory_without, children_without]

variable (hidden) in
/-- Whether a path leads to something, and to what kind of thing. -/
theorem find_without_cases (here : Place) (p : Path) :
    (fs.without hidden).find here p = fs.find here p ∨
      (∃ place, fs.locate here p = .ok place ∧ hidden = some place.location) ∧
        ∃ content mode, fs.find here p = .ok (.file content mode) ∧
          (fs.without hidden).find here p = .ok (.file [] mode) := by
  rw [find, find, locate_without]
  cases fs.locate here p with
  | error e => exact .inl rfl
  | ok place =>
      obtain ⟨loc, detached⟩ := place
      cases detached with
      | true => exact .inl rfl
      | false =>
          rcases fs.get?_without_cases hidden loc with
            hsame | ⟨hhidden, content, mode, hfile, hhollow⟩
          · exact .inl (by simp only [hsame])
          · exact .inr ⟨⟨_, rfl, hhidden⟩, content, mode, by simp [hfile], by simp [hhollow]⟩

theorem isExecutable_without (here : Place) (p : Path) :
    (fs.without hidden).isExecutable here p = fs.isExecutable here p := by
  rw [isExecutable, isExecutable]
  rcases fs.find_without_cases hidden here p with hsame | ⟨-, content, mode, hfile, hhollow⟩
  · rw [hsame]
  · rw [hfile, hhollow]

theorem locateForWriting_without (links : Nat) (here : Place) (p : Path) :
    (fs.without hidden).locateForWriting links here p = fs.locateForWriting links here p := by
  induction links using Nat.strongRecOn generalizing here p with
  | ind links ih =>
      rw [locateForWriting, locateForWriting]
      simp only [descend_without, isDirectory_without]
      split
      · rfl
      · rename_i last before _
        split
        · rfl
        · rename_i dir left _
          rcases fs.get?_without_cases hidden (last :: dir.location) with
            hsame | ⟨-, content, mode, hfile, hhollow⟩
          · rw [hsame]
            cases links with
            | zero => rfl
            | succ links =>
                cases left with
                | zero => rfl
                | succ left =>
                    simp only [ih (min left links) (Nat.lt_succ_of_le (Nat.min_le_right _ _))]
          · rw [hfile, hhollow]

end Reading

/-! ## Two file systems that are the same but for one file -/

section Same

variable {fs fs' : FileSystem} (hsame : SameBut hidden fs fs')

include hsame

theorem SameBut.locate (here : Place) (p : Path) : fs'.locate here p = fs.locate here p := by
  rw [← fs.locate_without here p, ← fs'.locate_without here p, hsame]

theorem SameBut.leadsToDirectory (here : Place) (p : Path) :
    fs'.leadsToDirectory here p = fs.leadsToDirectory here p := by
  rw [← fs.leadsToDirectory_without here p, ← fs'.leadsToDirectory_without here p, hsame]

theorem SameBut.canonical (here : Place) (p : Path) :
    fs'.canonical here p = fs.canonical here p := by
  rw [← fs.canonical_without here p, ← fs'.canonical_without here p, hsame]

theorem SameBut.list (here : Place) (p : Path) : fs'.list here p = fs.list here p := by
  rw [← fs.list_without here p, ← fs'.list_without here p, hsame]

theorem SameBut.isExecutable (here : Place) (p : Path) :
    fs'.isExecutable here p = fs.isExecutable here p := by
  rw [← fs.isExecutable_without here p, ← fs'.isExecutable_without here p, hsame]

theorem SameBut.locateForWriting (links : Nat) (here : Place) (p : Path) :
    fs'.locateForWriting links here p = fs.locateForWriting links here p := by
  rw [← fs.locateForWriting_without links here p, ← fs'.locateForWriting_without links here p,
    hsame]

theorem SameBut.shown : fs'.shown = fs.shown := by
  change (fs'.without hidden).shown = (fs.without hidden).shown
  rw [hsame]

theorem SameBut.withShown (shown : List (Outlet × Bytes)) :
    SameBut hidden { fs with shown } { fs' with shown } := by
  change { fs'.without hidden with shown } = { fs.without hidden with shown }
  rw [hsame]

theorem SameBut.get? (loc : Location) :
    fs'.get? loc = fs.get? loc ∨
      hidden = some loc ∧ ∃ content content' mode, fs.get? loc = some (.file content mode) ∧
        fs'.get? loc = some (.file content' mode) := by
  have hget : (fs'.without hidden).get? loc = (fs.without hidden).get? loc := by rw [hsame]
  rcases fs.get?_without_cases hidden loc with hfs | ⟨hhidden, content, mode, hfile, hhollow⟩ <;>
    rcases fs'.get?_without_cases hidden loc with
      hfs' | ⟨hhidden', content', mode', hfile', hhollow'⟩
  · exact .inl (hfs'.symm.trans (hget.trans hfs))
  · exact .inr ⟨hhidden', [], content', mode', hfs.symm.trans (hget.symm.trans hhollow'), hfile'⟩
  · exact .inr ⟨hhidden, content, [], mode, hfile, hfs'.symm.trans (hget.trans hhollow)⟩
  · have hmode : mode' = mode := by simpa [hhollow, hhollow'] using hget
    exact .inr ⟨hhidden, content, content', mode, hfile, hmode ▸ hfile'⟩

/-- A path that does not lead to the file that is hidden. -/
theorem SameBut.find {here : Place} {p : Path}
    (hother : ∀ place, fs.locate here p = .ok place → hidden ≠ some place.location) :
    fs'.find here p = fs.find here p := by
  have hfind : ∀ files : FileSystem, SameBut hidden fs files →
      (files.without hidden).find here p = files.find here p := by
    intro files hfiles
    rcases files.find_without_cases hidden here p with hequal | ⟨⟨place, hplace, hhidden⟩, -⟩
    · exact hequal
    · exact absurd hhidden (hother place ((hfiles.locate here p).symm.trans hplace))
  rw [← hfind fs (SameBut.refl hidden fs), ← hfind fs' hsame, hsame]

theorem SameBut.readFile {here : Place} {p : Path}
    (hother : ∀ place, fs.locate here p = .ok place → hidden ≠ some place.location) :
    fs'.readFile here p = fs.readFile here p := by
  rw [FileSystem.readFile, FileSystem.readFile, readStream, readStream, hsame.find hother]

end Same

/-! ## What is written -/

theorem without_insert (fs : FileSystem) (loc : Location) (node : Node) :
    (fs.insert loc node).without hidden =
      (fs.without hidden).insert loc (Node.hideAt hidden loc node) := by
  simp [without, insert, List.filter_map, Function.comp_def]

/-- What a log writes behind its file is hidden with the file. -/
theorem sameBut_extend (fs : FileSystem) (loc : Location) (text : Bytes) :
    SameBut (some loc) fs (fs.extend loc text) := by
  rw [SameBut, extend, without, without, List.map_map]
  congr 1
  apply List.map_congr_left
  rintro ⟨other, node⟩ -
  cases node with
  | file content mode =>
      by_cases hother : other = loc
      · simp [hother, Node.hideAt, Node.hollow]
      · simp [hother, Node.hideAt, Ne.symm hother]
  | directory | link | device | program => rfl

/-- Nodes that are the same but for what they hold, if they are the one that is hidden. -/
theorem SameBut.insert {fs fs' : FileSystem} (hsame : SameBut hidden fs fs') (loc : Location)
    {node node' : Node} (hnode : Node.hideAt hidden loc node' = Node.hideAt hidden loc node) :
    SameBut hidden (fs.insert loc node) (fs'.insert loc node') := by
  rw [SameBut, without_insert, without_insert, hsame, hnode]

theorem SameBut.insertFile {fs fs' : FileSystem} (hsame : SameBut hidden fs fs') {loc : Location}
    (hhidden : hidden = some loc) (content content' : Bytes) (mode : Nat) :
    SameBut hidden (fs.insert loc (.file content mode)) (fs'.insert loc (.file content' mode)) := by
  apply hsame.insert
  rw [hhidden, Node.hideAt_self, Node.hideAt_self]
  rfl

section Writing

variable {fs fs' : FileSystem} (hsame : SameBut hidden fs fs')

include hsame

theorem SameBut.openForWriting (here : Place) (p : Path) (append : Bool) :
    SameAnswer (fun opened opened' => opened'.1 = opened.1 ∧ SameBut hidden opened.2 opened'.2)
      (fs.openForWriting here p append) (fs'.openForWriting here p append) := by
  rw [FileSystem.openForWriting, FileSystem.openForWriting, hsame.locateForWriting]
  cases checkPath p with
  | error e => exact .error e
  | ok _ =>
      cases fs.locateForWriting maxLinks here p with
      | error e => exact .error e
      | ok loc =>
          rcases hsame.get? loc with hget | ⟨hhidden, content, content', mode, hfile, hfile'⟩
          · simp only [hget]
            split
            · exact .ok ⟨rfl, hsame.insert loc rfl⟩
            · exact .ok ⟨rfl, hsame.insert loc rfl⟩
            · exact .ok ⟨rfl, hsame⟩
            · exact .error _
            · exact .error _
            · exact .error _
          · simp only [hfile, hfile']
            exact .ok ⟨rfl, hsame.insertFile hhidden _ _ mode⟩

theorem SameBut.write (handle : Handle) (text : Bytes) :
    SameAnswer (fun written written' => written'.1 = written.1 ∧
        SameBut hidden written.2 written'.2)
      (fs.write handle text) (fs'.write handle text) := by
  cases handle with
  | atOffset loc offset | atEnd loc =>
      rw [FileSystem.write, FileSystem.write]
      rcases hsame.get? loc with hget | ⟨hhidden, content, content', mode, hfile, hfile'⟩
      · rw [hget]
        split
        · exact .ok ⟨rfl, hsame.insert loc rfl⟩
        · exact .ok ⟨rfl, hsame⟩
      · simp only [hfile, hfile']
        exact .ok ⟨rfl, hsame.insertFile hhidden _ _ mode⟩
  | device d =>
      cases d with
      | null | zero => exact .ok ⟨rfl, hsame⟩
      | outlet outlet =>
          rw [FileSystem.write, FileSystem.write, reveal, reveal, hsame.shown]
          split
          · exact .ok ⟨rfl, hsame⟩
          · exact .ok ⟨rfl, hsame.withShown _⟩
      | full =>
          rw [FileSystem.write, FileSystem.write]
          split
          · exact .ok ⟨rfl, hsame⟩
          · exact .error _

end Writing

end FileSystem

/-- What the log writes is hidden with its file. -/
theorem Journal.sameBut_stored (journal : Journal) (fs : FileSystem) :
    FileSystem.SameBut journal.location? fs (journal.stored fs) := by
  rw [Journal.stored, LogSetup.store, Journal.location?]
  cases journal.setup.target.location? with
  | none => exact FileSystem.SameBut.refl none fs
  | some loc => exact fs.sameBut_extend loc _

/-! ## What builtins do -/

namespace SearchPath

open FileSystem

variable {hidden : Option Location} {fs fs' : FileSystem} (hsame : SameBut hidden fs fs')
  (search : SearchPath) (here : Place) (name : String)

include hsame

theorem findIn_sameBut (dir : Path) : findIn fs' here name dir = findIn fs here name dir := by
  simp only [findIn, findListed, findAmong, hsame.list, hsame.isExecutable]

theorem lookup_sameBut : search.lookup fs' here name = search.lookup fs here name := by
  have hfind : (fun dir => findIn fs' here name dir) = fun dir => findIn fs here name dir :=
    funext fun dir => findIn_sameBut hsame here name dir
  exact congrArg (search.directories.findSome? ·) hfind

theorem lookupRecords_sameBut :
    search.lookupRecords fs' here name = search.lookupRecords fs here name := by
  have hgo : ∀ directories : List Path,
      lookupRecords.go fs' here name directories = lookupRecords.go fs here name directories := by
    intro directories
    induction directories with
    | nil => rfl
    | cons dir rest ih =>
        rw [lookupRecords.go, lookupRecords.go, ih, findRecords, findRecords, hsame.list,
          findIn_sameBut hsame]
  exact hgo search.directories

end SearchPath

namespace History

open FileSystem

theorem store_sameBut {hidden : Option Location} {fs fs' : FileSystem}
    (hsame : SameBut hidden fs fs') (here : Place) (p : Path) (append : Bool) (content : Bytes) :
    (store fs' here p append content).2 = (store fs here p append content).2 ∧
      SameBut hidden (store fs here p append content).1 (store fs' here p append content).1 := by
  rcases (hsame.openForWriting here p append).error_or_ok with
    ⟨e, hopen, hopen'⟩ | ⟨⟨handle, opened⟩, ⟨handle', opened'⟩, hopen, hopen', hhandle, hopened⟩
  · simp only [store, hopen, hopen']
    exact ⟨trivial, hsame⟩
  · obtain rfl : handle' = handle := hhandle
    rcases (hopened.write handle' content).error_or_ok with
      ⟨e, hwrite, hwrite'⟩ | ⟨written, written', hwrite, hwrite', -, hwritten⟩
    · simp only [store, hopen, hopen', hwrite, hwrite']
      exact ⟨trivial, hopened⟩
    · simp only [store, hopen, hopen', hwrite, hwrite']
      exact ⟨trivial, hwritten⟩

end History

/-- What builtins have done that found the same but for what one file holds. -/
structure BuiltinOutcome.SameBut (hidden : Option Location) (outcome outcome' : BuiltinOutcome) :
    Prop where
  output : outcome'.output = outcome.output
  error : outcome'.error = outcome.error
  state : outcome'.state = outcome.state
  records : outcome'.records = outcome.records
  files : FileSystem.SameBut hidden outcome.files outcome'.files

namespace Builtin

/-- A builtin reads the file that is hidden.  Only `history -r` reads a file. -/
def Reads (hidden : Option Location) (b : Builtin) (args : List String) (state : ShellState)
    (around : Surroundings) : Prop :=
  ∃ file rest place, b = .history ∧ args = "-r" :: file :: rest ∧
    around.files.locate around.here (state.cwd.join (utf8 file)) = .ok place ∧
    hidden = some place.location

section Performing

variable {hidden : Option Location} {files files' : FileSystem} {here : Place}
  {search : SearchPath} {args : List String} {state : ShellState}
  (hsame : FileSystem.SameBut hidden files files')

include hsame

theorem describe_sameBut (word : String) :
    describe ⟨files', here, search⟩ word = describe ⟨files, here, search⟩ word := by
  simp only [describe, SearchPath.lookup_sameBut hsame]

theorem describeRecords_sameBut (word : String) :
    describeRecords ⟨files', here, search⟩ word = describeRecords ⟨files, here, search⟩ word := by
  simp only [describeRecords, SearchPath.lookupRecords_sameBut hsame]

theorem runType_sameBut :
    (runType args state ⟨files, here, search⟩).SameBut hidden
      (runType args state ⟨files', here, search⟩) where
  output := by
    have hdescribe : describe ⟨files', here, search⟩ = describe ⟨files, here, search⟩ :=
      funext (describe_sameBut hsame)
    exact congrArg (fun describe => String.join (args.map describe)) hdescribe
  error := rfl
  state := rfl
  records := by
    have hrecords : describeRecords ⟨files', here, search⟩ =
        describeRecords ⟨files, here, search⟩ := funext (describeRecords_sameBut hsame)
    exact congrArg (args.flatMap ·) hrecords
  files := hsame

/-- Whether there is something where a path leads. -/
theorem find_sameBut (here : Place) (p : Path) :
    SameAnswer (fun _ _ => True) (files.find here p) (files'.find here p) := by
  rw [FileSystem.find, FileSystem.find, hsame.locate]
  cases files.locate here p with
  | error e => exact .error e
  | ok place =>
      simp only
      split
      · exact .ok trivial
      · rcases hsame.get? place.location with hget | ⟨-, content, content', mode, hfile, hfile'⟩
        · rw [hget]
          cases files.get? place.location with
          | none => exact .error _
          | some node => exact .ok trivial
        · rw [hfile, hfile']
          exact .ok trivial

theorem runPwd_sameBut :
    (runPwd state ⟨files, here, search⟩).SameBut hidden (runPwd state ⟨files', here, search⟩) := by
  rcases (find_sameBut hsame here state.cwd).error_or_ok with
    ⟨e, hfind, hfind'⟩ | ⟨node, node', hfind, hfind', -⟩
  · simp only [runPwd, hfind, hfind']
    exact ⟨rfl, rfl, rfl, rfl, hsame⟩
  · simp only [runPwd, hfind, hfind']
    exact ⟨rfl, rfl, rfl, rfl, hsame⟩

theorem runCd_sameBut :
    (runCd args state ⟨files, here, search⟩).SameBut hidden
      (runCd args state ⟨files', here, search⟩) := by
  simp only [runCd, hsame.canonical, hsame.leadsToDirectory]
  split
  · split <;> exact ⟨rfl, rfl, rfl, rfl, hsame⟩
  · exact ⟨rfl, rfl, rfl, rfl, hsame⟩

theorem withFile_sameBut {flag : HistoryFlag} {p : Path}
    (hunread : flag = .read → ∀ place, files.locate here p = .ok place →
      hidden ≠ some place.location) :
    let done := withFile flag p state ⟨files, here, search⟩
    let done' := withFile flag p state ⟨files', here, search⟩
    done'.1 = done.1 ∧ FileSystem.SameBut hidden done.2.1 done'.2.1 ∧ done'.2.2 = done.2.2 := by
  cases flag with
  | read =>
      have hread := hsame.readFile (hunread rfl)
      simp only [withFile, History.readFrom, hread]
      exact ⟨trivial, hsame, trivial⟩
  | write =>
      obtain ⟨hresult, hfiles⟩ := History.store_sameBut hsame here p false
        (History.render state.history.entries)
      exact ⟨rfl, hfiles, hresult⟩
  | append =>
      obtain ⟨hresult, hfiles⟩ := History.store_sameBut hsame here p true
        (History.render (state.history.entries.drop state.history.appended))
      simp only [withFile, History.appendTo]
      split <;> rename_i happended <;> split <;> rename_i happended' <;>
        rw [happended, happended'] at hresult hfiles
      · exact ⟨rfl, hfiles, rfl⟩
      · cases hresult
      · cases hresult
      · exact ⟨rfl, hfiles, hresult⟩

theorem runHistory_sameBut (hunread : ¬history.Reads hidden args state ⟨files, here, search⟩) :
    (runHistory args state ⟨files, here, search⟩).SameBut hidden
      (runHistory args state ⟨files', here, search⟩) := by
  rw [runHistory.eq_def, runHistory.eq_def]
  split
  · exact ⟨rfl, rfl, rfl, rfl, hsame⟩
  rename_i first rest
  split
  · exact ⟨rfl, rfl, rfl, rfl, hsame⟩
  · rename_i flag file after hflag
    have hother : flag = .read → ∀ place,
        files.locate here (state.cwd.join (utf8 file)) = .ok place →
          hidden ≠ some place.location := by
      rintro rfl place hplace hhidden
      have hfirst : first = "-r" := by
        rw [HistoryFlag.ofWord?.eq_def] at hflag
        split at hflag
        · rfl
        all_goals cases hflag
      exact hunread ⟨file, after, place, rfl, by rw [hfirst], hplace, hhidden⟩
    obtain ⟨hstate, hfiles, hresult⟩ :=
      @withFile_sameBut hidden files files' here search state hsame flag _ hother
    generalize withFile flag (state.cwd.join (utf8 file)) state ⟨files, here, search⟩ = done
      at hstate hfiles hresult
    generalize withFile flag (state.cwd.join (utf8 file)) state ⟨files', here, search⟩ = done'
      at hstate hfiles hresult
    obtain ⟨updated, written, result⟩ := done
    obtain ⟨updated', written', result'⟩ := done'
    obtain rfl : updated' = updated := hstate
    obtain rfl : result' = result := hresult
    cases result' with
    | ok _ => exact ⟨rfl, rfl, rfl, rfl, hfiles⟩
    | error e => exact ⟨rfl, rfl, rfl, rfl, hfiles⟩
  · split <;> exact ⟨rfl, rfl, rfl, rfl, hsame⟩

/-- A builtin that does not read the file that is hidden does the same whatever that
holds. -/
theorem perform_sameBut {b : Builtin}
    (hunread : ¬b.Reads hidden args state ⟨files, here, search⟩) :
    (b.perform args state ⟨files, here, search⟩).SameBut hidden
      (b.perform args state ⟨files', here, search⟩) := by
  cases b with
  | exit | echo => exact ⟨rfl, rfl, rfl, rfl, hsame⟩
  | type => exact runType_sameBut hsame
  | pwd => exact runPwd_sameBut hsame
  | cd => exact runCd_sameBut hsame
  | history => exact runHistory_sameBut hsame hunread

end Performing

end Builtin

end PipelineShell
