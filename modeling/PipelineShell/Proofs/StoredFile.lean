import PipelineShell.History
import PipelineShell.Proofs.UnreadFile

/-!
# What is stored can be read back

A file that is made or written anew changes nothing on the way of a path that
leads somewhere.  So a path leads to what was stored under it, through all the
links on the way, unless it leads to a device, which keeps nothing.
-/

namespace PipelineShell

def Node.IsFile (node : Node) : Prop := ∃ content mode, node = .file content mode

namespace FileSystem

/-! ## Ways that stay -/

/-- What there was is there still.  A file may have another content. -/
def Keeps (fs after : FileSystem) : Prop :=
  ∀ loc old, fs.get? loc = some old →
    ∃ new, after.get? loc = some new ∧ (new = old ∨ old.IsFile ∧ new.IsFile)

theorem keeps_refl (fs : FileSystem) : fs.Keeps fs := fun _ old hold => ⟨old, hold, .inl rfl⟩

theorem Keeps.trans {fs mid after : FileSystem} (hfirst : fs.Keeps mid) (hrest : mid.Keeps after) :
    fs.Keeps after := by
  intro loc old hold
  obtain ⟨between, hbetween, hkept⟩ := hfirst loc old hold
  obtain ⟨new, hnew, hrekept⟩ := hrest loc between hbetween
  refine ⟨new, hnew, ?_⟩
  rcases hkept with rfl | ⟨hfile, hbetweenFile⟩
  · exact hrekept
  · rcases hrekept with rfl | ⟨-, hnewFile⟩
    · exact .inr ⟨hfile, hbetweenFile⟩
    · exact .inr ⟨hfile, hnewFile⟩

/-- Only what one file holds has changed. -/
theorem SameBut.keeps {hidden : Option Location} {fs fs' : FileSystem}
    (hsame : SameBut hidden fs fs') : fs.Keeps fs' := by
  intro loc old hold
  rcases hsame.get? loc with hget | ⟨-, content, content', mode, hfile, hfile'⟩
  · exact ⟨old, hget.trans hold, .inl rfl⟩
  · obtain rfl : .file content mode = old := Option.some.inj (hfile.symm.trans hold)
    exact ⟨_, hfile', .inr ⟨⟨_, _, rfl⟩, ⟨_, _, rfl⟩⟩⟩

section Insert

variable {fs : FileSystem} {loc : Location}

theorem ne_nil_of_get? {node : Node} (hfile : fs.get? loc = some node) (hnode : node.IsFile) :
    loc ≠ [] := by
  rintro rfl
  obtain ⟨content, mode, rfl⟩ := hnode
  nomatch hfile

theorem ne_nil_of_vacant (hvacant : fs.get? loc = none) : loc ≠ [] := by
  rintro rfl
  nomatch hvacant

theorem keeps_insert_of_vacant (hvacant : fs.get? loc = none) (node : Node) :
    fs.Keeps (fs.insert loc node) := by
  intro other old hold
  have hne : other ≠ loc := by
    rintro rfl
    exact absurd (hvacant.symm.trans hold) nofun
  exact ⟨old, (get?_insert_of_ne _ _ hne).trans hold, .inl rfl⟩

theorem keeps_insert_of_file {old new : Node} (hget : fs.get? loc = some old)
    (hold : old.IsFile) (hnew : new.IsFile) : fs.Keeps (fs.insert loc new) := by
  intro other node hnode
  by_cases hother : other = loc
  · subst hother
    obtain rfl : old = node := Option.some.inj (hget.symm.trans hnode)
    exact ⟨new, get?_insert_self _ _ _ (ne_nil_of_get? hget hold), .inr ⟨hold, hnew⟩⟩
  · exact ⟨node, (get?_insert_of_ne _ _ hother).trans hnode, .inl rfl⟩

end Insert

section Ways

variable {fs after : FileSystem}

/-- Only files change. -/
theorem Keeps.get? (hkeeps : fs.Keeps after) {loc : Location} {node : Node}
    (hget : fs.get? loc = some node) (hnode : ¬node.IsFile) : after.get? loc = some node := by
  obtain ⟨new, hnew, rfl | ⟨hfile, -⟩⟩ := hkeeps loc node hget
  · exact hnew
  · exact absurd hfile hnode

theorem Keeps.isDirectory (hkeeps : fs.Keeps after) {dir : Location}
    (hdir : fs.isDirectory dir = true) : after.isDirectory dir = true := by
  have hget : fs.get? dir = some .directory := by simpa [FileSystem.isDirectory] using hdir
  simpa [FileSystem.isDirectory] using hkeeps.get? hget (by simp [Node.IsFile])

theorem walk_of_keeps (hkeeps : fs.Keeps after) {here : Place} {names : List Name} {w : Walk}
    (hwalk : fs.walk here names = .ok w) : after.walk here names = .ok w := by
  induction names generalizing here with
  | nil => simpa [walk] using hwalk
  | cons name rest ih =>
      have hdirectory : fs.isDirectory here.location = true →
          after.isDirectory here.location = true := hkeeps.isDirectory
      have hnode : ∀ old, fs.get? (name :: here.location) = some old →
          ∃ new, after.get? (name :: here.location) = some new ∧
            (new = old ∨ (∃ content mode, old = .file content mode) ∧
              ∃ content mode, new = .file content mode) := hkeeps _
      simp only [walk] at hwalk ⊢
      grind

/-- A path that leads somewhere leads there still. -/
theorem descend_of_keeps (hkeeps : fs.Keeps after) {links left : Nat} {here place : Place}
    {names : List Name} (hdescend : fs.descend links here names = .ok (place, left)) :
    after.descend links here names = .ok (place, left) := by
  induction links generalizing here names with
  | zero =>
      rw [descend] at hdescend ⊢
      split at hdescend <;> rename_i hwalk
      · cases hdescend
      · rw [walk_of_keeps hkeeps hwalk]
        exact hdescend
      · cases hdescend
  | succ links ih =>
      rw [descend] at hdescend ⊢
      split at hdescend <;> rename_i hwalk
      · cases hdescend
      · rw [walk_of_keeps hkeeps hwalk]
        exact hdescend
      · rw [walk_of_keeps hkeeps hwalk]
        exact ih hdescend

theorem locate_eq_ok_iff {here place : Place} {p : Path} :
    fs.locate here p = .ok place ↔ checkPath p = .ok () ∧
      ∃ left, fs.descend maxLinks (here.start p) p.names = .ok (place, left) := by
  rw [locate]
  cases hcheck : checkPath p with
  | error e => simp
  | ok checked =>
      cases hdescend : fs.descend maxLinks (here.start p) p.names with
      | error e => simp [Except.map]
      | ok found =>
          obtain ⟨reached, left⟩ := found
          simp [Except.map]

/-- The place to which a path leads is a directory that was removed, or there is the
node that the path leads to. -/
theorem find_eq_ok_iff {here : Place} {p : Path} {node : Node} :
    fs.find here p = .ok node ↔ ∃ place, fs.locate here p = .ok place ∧
      if place.detached then node = .directory else fs.get? place.location = some node := by
  rw [find]
  cases hlocate : fs.locate here p with
  | error e => simp
  | ok place =>
      cases hdetached : place.detached with
      | true => simpa [hdetached] using eq_comm
      | false => cases hget : fs.get? place.location <;> simp [hdetached, hget]

theorem locate_of_keeps (hkeeps : fs.Keeps after) {here place : Place} {p : Path}
    (hlocate : fs.locate here p = .ok place) : after.locate here p = .ok place := by
  obtain ⟨hcheck, left, hdescend⟩ := locate_eq_ok_iff.1 hlocate
  exact locate_eq_ok_iff.2 ⟨hcheck, left, descend_of_keeps hkeeps hdescend⟩

/-- What a path leads to is there still. -/
theorem find_of_keeps (hkeeps : fs.Keeps after) {here : Place} {p : Path} {old : Node}
    (hfind : fs.find here p = .ok old) :
    ∃ new, after.find here p = .ok new ∧ (new = old ∨ old.IsFile ∧ new.IsFile) := by
  obtain ⟨place, hlocate, hnode⟩ := find_eq_ok_iff.1 hfind
  have hstill := locate_of_keeps hkeeps hlocate
  by_cases hdetached : place.detached = true
  · rw [if_pos hdetached] at hnode
    exact ⟨old, find_eq_ok_iff.2 ⟨place, hstill, by rwa [if_pos hdetached]⟩, .inl rfl⟩
  · rw [if_neg hdetached] at hnode
    obtain ⟨new, hnew, hkept⟩ := hkeeps _ _ hnode
    exact ⟨new, find_eq_ok_iff.2 ⟨place, hstill, by rwa [if_neg hdetached]⟩, hkept⟩

end Ways

/-! ## Ways in two parts -/

section Parts

variable {fs : FileSystem}

/-- A name leads nowhere, to a place or to a link, whatever names come after it. -/
theorem walk_cons_cases (fs : FileSystem) (here : Place) (name : Name) :
    (∃ e, ∀ names, fs.walk here (name :: names) = .error e) ∨
    (∃ next, ∀ names, fs.walk here (name :: names) = fs.walk next names) ∨
    ∃ target, ∀ names, fs.walk here (name :: names) = .ok (.atLink here target names) := by
  simp only [walk]
  by_cases hdir : (!here.detached && !fs.isDirectory here.location) = true
  · exact .inl ⟨_, fun _ => if_pos hdir⟩
  by_cases hdot : name = Path.dot
  · exact .inr (.inl ⟨here, fun _ => by rw [if_neg hdir, if_pos hdot]⟩)
  by_cases hdotDot : name = Path.dotDot
  · exact .inr (.inl ⟨_, fun _ => by rw [if_neg hdir, if_neg hdot, if_pos hdotDot]⟩)
  by_cases hlong : maxName < name.length
  · exact .inl ⟨_, fun _ => by rw [if_neg hdir, if_neg hdot, if_neg hdotDot, if_pos hlong]⟩
  by_cases hdetached : here.detached = true
  · exact .inl ⟨_, fun _ => by
      rw [if_neg hdir, if_neg hdot, if_neg hdotDot, if_neg hlong, if_pos hdetached]⟩
  simp only [if_neg hdir, if_neg hdot, if_neg hdotDot, if_neg hlong, if_neg hdetached]
  cases fs.get? (name :: here.location) with
  | none => exact .inl ⟨_, fun _ => rfl⟩
  | some node =>
      cases node with
      | link target => exact .inr (.inr ⟨target, fun _ => rfl⟩)
      | directory | file content mode | device d | program name =>
          exact .inr (.inl ⟨_, fun _ => rfl⟩)

theorem walk_append_of_arrived {here place : Place} {front : List Name} (rest : List Name)
    (hwalk : fs.walk here front = .ok (.arrived place)) :
    fs.walk here (front ++ rest) = fs.walk place rest := by
  induction front generalizing here with
  | nil =>
      obtain rfl : here = place := Walk.arrived.inj (Except.ok.inj hwalk)
      rfl
  | cons name front ih =>
      rw [List.cons_append]
      rcases fs.walk_cons_cases here name with ⟨e, h⟩ | ⟨next, h⟩ | ⟨target, h⟩ <;>
        rw [h] at hwalk ⊢
      · nomatch hwalk
      · exact ih hwalk
      · nomatch hwalk

theorem walk_append_of_atLink {here dir : Place} {target : Path} {front left : List Name}
    (rest : List Name) (hwalk : fs.walk here front = .ok (.atLink dir target left)) :
    fs.walk here (front ++ rest) = .ok (.atLink dir target (left ++ rest)) := by
  induction front generalizing here with
  | nil => nomatch hwalk
  | cons name front ih =>
      rw [List.cons_append]
      rcases fs.walk_cons_cases here name with ⟨e, h⟩ | ⟨next, h⟩ | ⟨target, h⟩ <;>
        rw [h] at hwalk ⊢
      · nomatch hwalk
      · exact ih hwalk
      · obtain ⟨rfl, rfl, rfl⟩ := Walk.atLink.inj (Except.ok.inj hwalk)
        rfl

theorem descend_append {links left : Nat} {here place : Place} {front : List Name}
    (rest : List Name) (hdescend : fs.descend links here front = .ok (place, left)) :
    fs.descend links here (front ++ rest) = fs.descend left place rest := by
  induction links generalizing here front with
  | zero =>
      rw [descend] at hdescend
      split at hdescend <;> rename_i hwalk
      · cases hdescend
      · obtain ⟨rfl, rfl⟩ := Prod.mk.inj (Except.ok.inj hdescend)
        rw [descend.eq_def, walk_append_of_arrived rest hwalk, descend.eq_def]
      · cases hdescend
  | succ links ih =>
      rw [descend] at hdescend
      split at hdescend <;> rename_i hwalk
      · cases hdescend
      · obtain ⟨rfl, rfl⟩ := Prod.mk.inj (Except.ok.inj hdescend)
        rw [descend.eq_def, walk_append_of_arrived rest hwalk, descend.eq_def]
      · rw [descend, walk_append_of_atLink rest hwalk]
        simp only [← List.append_assoc]
        exact ih hdescend

theorem left_le_of_descend {links left : Nat} {here place : Place} {names : List Name}
    (hdescend : fs.descend links here names = .ok (place, left)) : left ≤ links := by
  induction links generalizing here names with
  | zero =>
      rw [descend] at hdescend
      split at hdescend
      · cases hdescend
      · exact Nat.le_of_eq (Prod.mk.inj (Except.ok.inj hdescend)).2.symm
      · cases hdescend
  | succ links ih =>
      rw [descend] at hdescend
      split at hdescend
      · cases hdescend
      · exact Nat.le_of_eq (Prod.mk.inj (Except.ok.inj hdescend)).2.symm
      · exact Nat.le_succ_of_le (ih hdescend)

/-- How far the last name of a path leads. -/
def lastWalk (dir : Place) (name : Name) : Node → Walk
  | .link target => .atLink dir target []
  | _ => .arrived ⟨name :: dir.location, false⟩

theorem walk_last {dir : Place} {name : Name} {node : Node}
    (hdir : fs.isDirectory dir.location = true) (hdetached : dir.detached = false)
    (hdots : ¬(name = Path.dot ∨ name = Path.dotDot)) (hlong : ¬maxName < name.length)
    (hget : fs.get? (name :: dir.location) = some node) :
    fs.walk dir [name] = .ok (lastWalk dir name node) := by
  have hnames := not_or.1 hdots
  cases node <;> simp [walk, lastWalk, hdir, hdetached, hnames, hlong, hget]

end Parts

/-! ## The place of a file that is written -/

/-- Where a file is made or written, there its path leads once it is there. -/
theorem descend_of_locateForWriting {fs after : FileSystem} (hkeeps : fs.Keeps after)
    {links : Nat} {here : Place} {p : Path} {loc : Location}
    (hlocate : fs.locateForWriting links here p = .ok loc) {node : Node}
    (hget : after.get? loc = some node) (hnode : ∀ target, node ≠ .link target) :
    ∃ left, after.descend links (here.start p) p.names = .ok (⟨loc, false⟩, left) := by
  induction links using Nat.strongRecOn generalizing here p with
  | ind links ih =>
      rw [locateForWriting] at hlocate
      split at hlocate
      · cases hlocate
      rename_i last before hparts
      split at hlocate
      · cases hlocate
      rename_i dir linksLeft hdescend
      by_cases hdir : (!dir.detached && !fs.isDirectory dir.location) = true
      · simp [hdir] at hlocate
      by_cases hslash : (p.getLast? == some Path.slash) = true
      · simp [hdir, hslash] at hlocate
      by_cases hdots : last = Path.dot ∨ last = Path.dotDot
      · simp [hdir, hslash, hdots] at hlocate
      by_cases hlong : maxName < last.length
      · simp [hdir, hslash, hdots, hlong] at hlocate
      by_cases hdetached : dir.detached = true
      · simp [hslash, hdots, hlong, hdetached] at hlocate
      simp only [if_neg hdir, if_neg hslash, if_neg hdots, if_neg hlong, if_neg hdetached]
        at hlocate
      have hdirectory : after.isDirectory dir.location = true :=
        hkeeps.isDirectory (by simpa [hdetached] using hdir)
      have hnames : p.names = before.reverse ++ [last] := by
        rw [Path.names, if_neg hslash, List.append_nil, ← List.reverse_cons, ← hparts,
          List.reverse_reverse]
      have hlast : ∀ {found : Node}, after.get? (last :: dir.location) = some found →
          after.walk dir [last] = .ok (lastWalk dir last found) :=
        walk_last hdirectory (by simpa using hdetached) hdots hlong
      rw [hnames, descend_append [last] (descend_of_keeps hkeeps hdescend)]
      split at hlocate
      · rename_i target hlink
        cases linksLeft with
        | zero => cases links <;> cases hlocate
        | succ left =>
            cases links with
            | zero => cases hlocate
            | succ links =>
                have hle : left ≤ links := Nat.le_of_succ_le_succ (left_le_of_descend hdescend)
                simp only [Nat.min_eq_left hle] at hlocate
                obtain ⟨more, hmore⟩ := ih left (Nat.lt_succ_of_le hle) hlocate
                refine ⟨more, ?_⟩
                have hlinkNode : ¬(Node.link target).IsFile := by simp [Node.IsFile]
                rw [descend, hlast (hkeeps.get? hlink hlinkNode)]
                simpa [lastWalk] using hmore
      · obtain rfl : last :: dir.location = loc := Except.ok.inj hlocate
        refine ⟨linksLeft, ?_⟩
        rw [descend.eq_def, hlast hget]
        cases node with
        | link target => exact absurd rfl (hnode target)
        | directory | file content mode | device d | program name => rfl

theorem find_of_locateForWriting {fs after : FileSystem} (hkeeps : fs.Keeps after) {here : Place}
    {p : Path} (hcheck : checkPath p = .ok ()) {loc : Location}
    (hlocate : fs.locateForWriting maxLinks here p = .ok loc) {node : Node}
    (hget : after.get? loc = some node) (hnode : ∀ target, node ≠ .link target) :
    after.find here p = .ok node := by
  obtain ⟨left, hdescend⟩ := descend_of_locateForWriting hkeeps hlocate hget hnode
  exact find_eq_ok_iff.2 ⟨⟨loc, false⟩, locate_eq_ok_iff.2 ⟨hcheck, left, hdescend⟩, hget⟩

/-! ## Making the directories above a file -/

theorem keeps_makeDirectory {fs made : FileSystem} {here : Place} {p : Path}
    (hmake : fs.makeDirectory here p = .ok made) : fs.Keeps made := by
  rw [makeDirectory] at hmake
  repeat' split at hmake
  all_goals cases hmake
  rename_i hvacant
  exact keeps_insert_of_vacant hvacant _

theorem keeps_makeDirectoriesUpTo (fs : FileSystem) (here : Place) (paths : List Path) :
    fs.Keeps (fs.makeDirectoriesUpTo here paths).1 := by
  induction paths with
  | nil => exact fs.keeps_refl
  | cons p above ih =>
      rw [makeDirectoriesUpTo]
      split
      · rename_i made hmake
        exact keeps_makeDirectory hmake
      · split <;> rename_i below hbelow <;> rw [hbelow] at ih
        · exact ih
        · split
          · rename_i made hmake
            exact ih.trans (keeps_makeDirectory hmake)
          · exact ih
      · exact fs.keeps_refl

theorem keeps_makeDirectories (fs : FileSystem) (here : Place) (p : Path) :
    fs.Keeps (fs.makeDirectories here p).1 := keeps_makeDirectoriesUpTo fs here p.ancestors

end FileSystem

namespace History

open FileSystem

/-! ## Reading back -/

theorem overwrite_nil (text : Bytes) : overwrite [] 0 text = text := by
  cases text <;> simp [overwrite]

/-- Writing at the start of an empty file. -/
theorem write_atStart {fs : FileSystem} {loc : Location} {mode : Nat}
    (hget : fs.get? loc = some (.file [] mode)) (text : Bytes) :
    fs.write (.atOffset loc 0) text =
      .ok (.atOffset loc text.length, fs.insert loc (.file text mode)) := by
  simp [write, hget, overwrite_nil]

/-- Writing to a device changes no file. -/
theorem get?_of_write_device {fs written : FileSystem} {d : Device} {text : Bytes} {handle : Handle}
    (hwrite : fs.write (.device d) text = .ok (handle, written)) : written.get? = fs.get? := by
  cases d with
  | null | zero =>
      obtain ⟨-, rfl⟩ := Prod.mk.inj (Except.ok.inj hwrite)
      rfl
  | full =>
      simp only [write] at hwrite
      split at hwrite <;> cases hwrite
      rfl
  | outlet outlet =>
      obtain ⟨-, rfl⟩ := Prod.mk.inj (Except.ok.inj hwrite)
      unfold reveal
      split <;> rfl

/-- A device stays what it is. -/
theorem handle_of_write_device {fs written : FileSystem} {d : Device} {text : Bytes}
    {handle : Handle} (hwrite : fs.write (.device d) text = .ok (handle, written)) :
    handle = .device d := by
  cases d with
  | null | zero | outlet outlet => exact (Prod.mk.inj (Except.ok.inj hwrite)).1.symm
  | full =>
      simp only [write] at hwrite
      split at hwrite <;> cases hwrite
      rfl

/-- Writing at the end of a file. -/
theorem write_atEnd {fs : FileSystem} {loc : Location} {content : Bytes} {mode : Nat}
    (hget : fs.get? loc = some (.file content mode)) (text : Bytes) :
    fs.write (.atEnd loc) text = .ok (.atEnd loc, fs.insert loc (.file (content ++ text) mode)) := by
  simp [write, hget]

/-- A file that is opened is emptied or as it was, and made if there is none; a device
is as it was. -/
theorem openForWriting_cases {fs opened : FileSystem} {here : Place} {p : Path} {append : Bool}
    {handle : Handle} (hopen : fs.openForWriting here p append = .ok (handle, opened)) :
    checkPath p = .ok () ∧ ∃ loc, fs.locateForWriting maxLinks here p = .ok loc ∧
      ((∃ old mode, (fs.get? loc = some (.file old mode) ∨ fs.get? loc = none ∧ old = []) ∧
          handle = (if append then .atEnd loc else .atOffset loc 0) ∧ fs.Keeps opened ∧
          opened.get? loc = some (.file (if append then old else []) mode)) ∨
        ∃ d, handle = .device d ∧ opened = fs ∧ fs.get? loc = some (.device d)) := by
  rw [openForWriting] at hopen
  split at hopen
  · cases hopen
  rename_i checked hcheck
  split at hopen
  · cases hopen
  rename_i loc hlocate
  refine ⟨hcheck, loc, hlocate, ?_⟩
  simp only at hopen
  split at hopen <;> rename_i hget <;> cases hopen
  · refine .inl ⟨[], newFileMode, .inr ⟨hget, rfl⟩, rfl, keeps_insert_of_vacant hget _, ?_⟩
    rw [ite_self]
    exact get?_insert_self _ _ _ (ne_nil_of_vacant hget)
  · exact .inl ⟨_, _, .inl hget, rfl, keeps_insert_of_file hget ⟨_, _, rfl⟩ ⟨_, _, rfl⟩,
      get?_insert_self _ _ _ (ne_nil_of_get? hget ⟨_, _, rfl⟩)⟩
  · exact .inr ⟨_, rfl, rfl, hget⟩

theorem keeps_openForWriting {fs opened : FileSystem} {here : Place} {p : Path} {append : Bool}
    {handle : Handle} (hopen : fs.openForWriting here p append = .ok (handle, opened)) :
    fs.Keeps opened := by
  obtain ⟨-, loc, -, hopened⟩ := openForWriting_cases hopen
  rcases hopened with ⟨old, mode, -, -, hkeeps, -⟩ | ⟨d, -, rfl, -⟩
  · exact hkeeps
  · exact opened.keeps_refl

theorem keeps_of_write_device {fs written : FileSystem} {d : Device} {text : Bytes} {handle : Handle}
    (hwrite : fs.write (.device d) text = .ok (handle, written)) : fs.Keeps written := by
  intro other old hold
  exact ⟨old, by rwa [get?_of_write_device hwrite], .inl rfl⟩

/-- Storing a text fails before anything is changed. -/
theorem eq_of_store_error {fs after : FileSystem} {here : Place} {p : Path} {append : Bool}
    {content : Bytes} {e : OsError} (hstore : store fs here p append content = (after, .error e)) :
    after = fs := by
  rw [store] at hstore
  split at hstore
  · exact (Prod.mk.inj hstore).1.symm
  rename_i handle opened hopen
  obtain ⟨-, loc, -, hopened⟩ := openForWriting_cases hopen
  rcases hopened with ⟨old, mode, -, rfl, -, hget⟩ | ⟨d, rfl, rfl, -⟩
  · -- a file takes every text
    cases append with
    | true =>
        rw [if_pos rfl, write_atEnd hget] at hstore
        cases hstore
    | false =>
        rw [if_neg Bool.false_ne_true, write_atStart hget] at hstore
        cases hstore
  · split at hstore
    · exact (Prod.mk.inj hstore).1.symm
    · cases hstore

/-- A text that replaces a file is what its path leads to, unless that is a
device. -/
theorem find_of_store {fs written : FileSystem} {here : Place} {p : Path} {content : Bytes}
    (hstore : store fs here p false content = (written, .ok ())) :
    fs.Keeps written ∧ ((∃ mode, written.find here p = .ok (.file content mode)) ∨
      ∃ d, fs.find here p = .ok (.device d) ∧ written.find here p = .ok (.device d)) := by
  rw [store] at hstore
  split at hstore
  · cases hstore
  rename_i handle opened hopen
  obtain ⟨hcheck, loc, hlocate, hopened⟩ := openForWriting_cases hopen
  rcases hopened with ⟨old, mode, -, rfl, hkeeps, hget⟩ | ⟨d, rfl, rfl, hget⟩
  · rw [if_neg Bool.false_ne_true] at hget hstore
    rw [write_atStart hget] at hstore
    obtain ⟨rfl, -⟩ := Prod.mk.inj hstore
    have hwritten : fs.Keeps (opened.insert loc (.file content mode)) :=
      hkeeps.trans (keeps_insert_of_file hget ⟨_, _, rfl⟩ ⟨_, _, rfl⟩)
    refine ⟨hwritten, .inl ⟨mode, find_of_locateForWriting hwritten hcheck hlocate
      (get?_insert_self _ _ _ (ne_nil_of_get? hget ⟨_, _, rfl⟩)) (by simp)⟩⟩
  · split at hstore
    · cases hstore
    rename_i moved after hwrite
    obtain ⟨rfl, -⟩ := Prod.mk.inj hstore
    have hkeeps := keeps_of_write_device hwrite
    exact ⟨hkeeps, .inr ⟨d, find_of_locateForWriting opened.keeps_refl hcheck hlocate hget (by simp),
      find_of_locateForWriting hkeeps hcheck hlocate
        (by rwa [get?_of_write_device hwrite]) (by simp)⟩⟩

/-- A text is added to what a path leads to: to the end of a file, which is made if
there is nothing, or a device takes it. -/
def Gains (fs written : FileSystem) (here : Place) (p : Path) (text : Bytes) : Prop :=
  (∃ old mode, written.find here p = .ok (.file (old ++ text) mode) ∧
    (fs.find here p = .ok (.file old mode) ∨ (∀ node, fs.find here p ≠ .ok node) ∧ old = [])) ∨
  ∃ d, fs.find here p = .ok (.device d) ∧ fs.write (.device d) text = .ok (.device d, written)

/-- Where a file is yet to be made, there is nothing. -/
theorem find_of_vacant {fs after : FileSystem} (hkeeps : fs.Keeps after) {here : Place} {p : Path}
    {loc : Location} (hlocate : fs.locateForWriting maxLinks here p = .ok loc)
    (hvacant : fs.get? loc = none) {made : Node} (hget : after.get? loc = some made)
    (hmade : made.IsFile) (node : Node) : fs.find here p ≠ .ok node := by
  intro hfind
  obtain ⟨content, mode, rfl⟩ := hmade
  obtain ⟨left, hdescend⟩ := descend_of_locateForWriting hkeeps hlocate hget nofun
  obtain ⟨place, hplace, hnode⟩ := find_eq_ok_iff.1 hfind
  obtain ⟨-, more, hway⟩ := locate_eq_ok_iff.1 hplace
  -- the way that there was leads to the place of the file
  obtain ⟨rfl, -⟩ := Prod.mk.inj
    (Except.ok.inj ((descend_of_keeps hkeeps hway).symm.trans hdescend))
  exact absurd (hvacant.symm.trans hnode) nofun

/-- A text that is stored behind a file is gained by what the path leads to. -/
theorem gains_of_store {fs written : FileSystem} {here : Place} {p : Path} {text : Bytes}
    (hstore : store fs here p true text = (written, .ok ())) :
    fs.Keeps written ∧ Gains fs written here p text := by
  rw [store] at hstore
  split at hstore
  · cases hstore
  rename_i handle opened hopen
  obtain ⟨hcheck, loc, hlocate, hopened⟩ := openForWriting_cases hopen
  rcases hopened with ⟨old, mode, hbefore, rfl, hkeeps, hget⟩ | ⟨d, rfl, rfl, hget⟩
  · rw [if_pos rfl] at hget hstore
    rw [write_atEnd hget] at hstore
    obtain ⟨rfl, -⟩ := Prod.mk.inj hstore
    have hafter : (opened.insert loc (.file (old ++ text) mode)).get? loc =
        some (.file (old ++ text) mode) :=
      get?_insert_self _ _ _ (ne_nil_of_get? hget ⟨_, _, rfl⟩)
    have hwritten : fs.Keeps (opened.insert loc (.file (old ++ text) mode)) :=
      hkeeps.trans (keeps_insert_of_file hget ⟨_, _, rfl⟩ ⟨_, _, rfl⟩)
    refine ⟨hwritten, .inl ⟨old, mode,
      find_of_locateForWriting hwritten hcheck hlocate hafter (by simp), ?_⟩⟩
    rcases hbefore with hfile | ⟨hvacant, rfl⟩
    · exact .inl (find_of_locateForWriting fs.keeps_refl hcheck hlocate hfile (by simp))
    · exact .inr ⟨find_of_vacant hwritten hlocate hvacant hafter ⟨_, _, rfl⟩, rfl⟩
  · split at hstore
    · cases hstore
    rename_i moved after hwrite
    obtain ⟨rfl, -⟩ := Prod.mk.inj hstore
    refine ⟨keeps_of_write_device hwrite, .inr ⟨d,
      find_of_locateForWriting opened.keeps_refl hcheck hlocate hget (by simp), ?_⟩⟩
    rw [hwrite, handle_of_write_device hwrite]

theorem keeps_store (fs : FileSystem) (here : Place) (p : Path) (append : Bool) (text : Bytes) :
    fs.Keeps (store fs here p append text).1 := by
  cases hstore : store fs here p append text with
  | mk after result =>
      cases result with
      | error e =>
          rw [eq_of_store_error hstore]
          exact fs.keeps_refl
      | ok done =>
          cases append with
          | true => exact (gains_of_store hstore).1
          | false => exact (find_of_store hstore).1

/-- The entries that the next append writes. -/
def pending (h : History) : List String := h.entries.drop h.appended

/-- An append stores what is pending; it moves the mark if that does not fail, and does
nothing if it fails. -/
theorem appendTo_cases (h : History) (fs : FileSystem) (here : Place) (p : Path) :
    (∃ written, store fs here p true (render h.pending) = (written, .ok ()) ∧
      h.appendTo fs here p = ((h.settle, written), .ok ())) ∨
    ∃ e, h.appendTo fs here p = ((h, fs), .error e) := by
  rw [appendTo]
  cases hstore : store fs here p true (render (h.entries.drop h.appended)) with
  | mk after result =>
      cases result with
      | ok done => exact .inl ⟨after, hstore, rfl⟩
      | error e =>
          rw [eq_of_store_error hstore]
          exact .inr ⟨e, rfl⟩

/-- A saved history is what its file holds, unless the path leads to a device. -/
theorem find_of_save {h : History} {fs written : FileSystem} {here : Place} {p : Path}
    (hsave : h.save fs here p = (written, .ok ())) :
    fs.Keeps written ∧ ((∃ mode, written.find here p = .ok (.file (render h.entries) mode)) ∨
      ∃ d, written.find here p = .ok (.device d)) := by
  rw [save] at hsave
  split at hsave
  · obtain ⟨hkeeps, hfind⟩ := find_of_store hsave
    exact ⟨hkeeps, hfind.imp_right fun ⟨d, _, hdevice⟩ => ⟨d, hdevice⟩⟩
  rename_i above habove
  have hmade := keeps_makeDirectories fs here above
  split at hsave
  · nomatch hsave
  rename_i made hmake
  rw [hmake] at hmade
  obtain ⟨hkeeps, hfind⟩ := find_of_store hsave
  exact ⟨hmade.trans hkeeps, hfind.imp_right fun ⟨d, _, hdevice⟩ => ⟨d, hdevice⟩⟩

theorem readFile_of_find {fs : FileSystem} {here : Place} {p : Path} {content : Bytes} {mode : Nat}
    (hfind : fs.find here p = .ok (.file content mode)) : fs.readFile here p = .ok content := by
  simp [readFile, readStream, hfind, nodeText, Except.map, Stream.ofBytes]

end History

end PipelineShell
