import PipelineShell.Proofs.Splitting
import PipelineShell.Proofs.StoredFile

/-!
# Writing over a file that is there

Where a path leads to a file, the file can be opened for writing, and making the
directory above it changes nothing: its way is the way to the file without the last
name.  So storing a text, or saving a history, under a path that leads to a file does
not fail.  All this needs of a file system is that every node lies in a directory.
-/

namespace PipelineShell

namespace FileSystem

variable {fs : FileSystem}

/-! ## File systems whose nodes lie in directories -/

/-- Every node lies in a directory, and so does the place from which paths are followed. -/
structure Rooted (fs : FileSystem) (here : Place) : Prop where
  above : ∀ name dir node, fs.get? (name :: dir) = some node → fs.isDirectory dir = true
  here : fs.isDirectory here.location.tail = true

/-- A file system of which each entry lies in a directory. -/
theorem rooted_of_nodes {here : Place}
    (hnodes : ∀ entry ∈ fs.nodes, fs.isDirectory entry.1.tail = true)
    (hhere : fs.isDirectory here.location.tail = true) : fs.Rooted here := by
  refine ⟨fun name dir node hget => ?_, hhere⟩
  rw [get?, if_neg (List.cons_ne_nil name dir)] at hget
  obtain ⟨before, after, hsplit, -⟩ := List.lookup_eq_some_iff.1 hget
  apply hnodes (name :: dir, node)
  rw [hsplit]
  exact List.mem_append_right _ List.mem_cons_self

theorem Rooted.tail {here : Place} (hrooted : fs.Rooted here) {dir : Location}
    (hdir : fs.isDirectory dir = true) : fs.isDirectory dir.tail = true := by
  cases dir with
  | nil => exact hdir
  | cons name dir =>
      have hget : fs.get? (name :: dir) = some .directory := by
        simpa [FileSystem.isDirectory] using hdir
      exact hrooted.above name dir _ hget

/-- The place from which an absolute path or a relative one is followed. -/
theorem Rooted.start {here : Place} (hrooted : fs.Rooted here) (p : Path) :
    fs.Rooted (here.start p) := by
  rw [Place.start]
  split
  · exact ⟨hrooted.above, rfl⟩
  · exact hrooted

/-- Names lead from a place in a directory to places in directories. -/
theorem Rooted.walk {here : Place} (hrooted : fs.Rooted here) {names : List Name} :
    (∀ place, fs.walk here names = .ok (.arrived place) → fs.Rooted place) ∧
      ∀ dir target rest, fs.walk here names = .ok (.atLink dir target rest) → fs.Rooted dir := by
  induction names generalizing here with
  | nil =>
      refine ⟨fun place hwalk => ?_, by simp [FileSystem.walk]⟩
      obtain rfl : here = place := Walk.arrived.inj (Except.ok.inj hwalk)
      exact hrooted
  | cons name names ih =>
      rw [FileSystem.walk]
      by_cases hdir : (!here.detached && !fs.isDirectory here.location) = true
      · rw [if_pos hdir]
        simp
      by_cases hdot : name = Path.dot
      · rw [if_neg hdir, if_pos hdot]
        exact ih hrooted
      by_cases hdotDot : name = Path.dotDot
      · rw [if_neg hdir, if_neg hdot, if_pos hdotDot]
        exact ih ⟨hrooted.above, hrooted.tail hrooted.here⟩
      rw [if_neg hdir, if_neg hdot, if_neg hdotDot]
      by_cases hlong : maxName < name.length
      · rw [if_pos hlong]
        simp
      by_cases hdetached : here.detached = true
      · rw [if_neg hlong, if_pos hdetached]
        simp
      rw [if_neg hlong, if_neg hdetached]
      have hdirectory : fs.isDirectory here.location = true := by simpa [hdetached] using hdir
      cases fs.get? (name :: here.location) with
      | none => simp
      | some node =>
          cases node with
          | link target =>
              refine ⟨by simp, fun dir _ _ hwalk => ?_⟩
              obtain rfl := (Walk.atLink.inj (Except.ok.inj hwalk)).1
              exact hrooted
          | directory | file content mode | device d | program name =>
              exact ih ⟨hrooted.above, hdirectory⟩

theorem Rooted.descend {here place : Place} (hrooted : fs.Rooted here) {links left : Nat}
    {names : List Name} (hdescend : fs.descend links here names = .ok (place, left)) :
    fs.Rooted place := by
  induction links generalizing here names with
  | zero =>
      rw [FileSystem.descend] at hdescend
      split at hdescend <;> rename_i hwalk
      · cases hdescend
      · obtain ⟨rfl, -⟩ := Prod.mk.inj (Except.ok.inj hdescend)
        exact hrooted.walk.1 _ hwalk
      · cases hdescend
  | succ links ih =>
      rw [FileSystem.descend] at hdescend
      split at hdescend <;> rename_i hwalk
      · cases hdescend
      · obtain ⟨rfl, -⟩ := Prod.mk.inj (Except.ok.inj hdescend)
        exact hrooted.walk.1 _ hwalk
      · exact ih ((hrooted.walk.2 _ _ _ hwalk).start _) hdescend

/-! ## The last name of a way -/

theorem walk_append_of_error {here : Place} {front : List Name} {e : OsError} (rest : List Name)
    (hwalk : fs.walk here front = .error e) : fs.walk here (front ++ rest) = .error e := by
  induction front generalizing here with
  | nil => nomatch hwalk
  | cons name front ih =>
      rw [List.cons_append]
      rcases fs.walk_cons_cases here name with ⟨e', h⟩ | ⟨next, h⟩ | ⟨target, h⟩ <;>
        rw [h] at hwalk ⊢
      · exact hwalk
      · exact ih hwalk
      · nomatch hwalk

/-- A way along two lists of names is a way along the first and then one along the
second. -/
theorem exists_descend_of_append {links left : Nat} {here place : Place} {front rest : List Name}
    (hdescend : fs.descend links here (front ++ rest) = .ok (place, left)) :
    ∃ mid more, fs.descend links here front = .ok (mid, more) ∧
      fs.descend more mid rest = .ok (place, left) := by
  induction links generalizing here front with
  | zero =>
      cases hwalk : fs.walk here front with
      | error e =>
          rw [descend, walk_append_of_error rest hwalk] at hdescend
          cases hdescend
      | ok found =>
          cases found with
          | arrived mid =>
              have hfront : fs.descend 0 here front = .ok (mid, 0) := by rw [descend, hwalk]
              exact ⟨mid, 0, hfront, (descend_append rest hfront).symm.trans hdescend⟩
          | atLink dir target more =>
              rw [descend, walk_append_of_atLink rest hwalk] at hdescend
              cases hdescend
  | succ links ih =>
      cases hwalk : fs.walk here front with
      | error e =>
          rw [descend, walk_append_of_error rest hwalk] at hdescend
          cases hdescend
      | ok found =>
          cases found with
          | arrived mid =>
              have hfront : fs.descend (links + 1) here front = .ok (mid, links + 1) := by
                rw [descend, hwalk]
              exact ⟨mid, links + 1, hfront, (descend_append rest hfront).symm.trans hdescend⟩
          | atLink dir target more =>
              rw [descend, walk_append_of_atLink rest hwalk] at hdescend
              simp only [← List.append_assoc] at hdescend
              obtain ⟨mid, linksLeft, hfront, hrest⟩ := ih hdescend
              exact ⟨mid, linksLeft, by rw [descend, hwalk]; exact hfront, hrest⟩

/-- A place where a file is. -/
def HasFile (fs : FileSystem) (place : Place) : Prop :=
  place.detached = false ∧ ∃ content mode, fs.get? place.location = some (.file content mode)

theorem not_hasFile_of_isDirectory {place : Place} (hdir : fs.isDirectory place.location = true) :
    ¬fs.HasFile place := by
  rintro ⟨-, content, mode, hget⟩
  simp [FileSystem.isDirectory, hget] at hdir

theorem hasFile_of_find {here : Place} {p : Path} {content : Bytes} {mode : Nat}
    (hfind : fs.find here p = .ok (.file content mode)) :
    ∃ place, fs.locate here p = .ok place ∧ fs.HasFile place := by
  obtain ⟨place, hlocate, hnode⟩ := find_eq_ok_iff.1 hfind
  cases hdetached : place.detached with
  | true =>
      rw [hdetached, if_pos rfl] at hnode
      nomatch hnode
  | false =>
      rw [hdetached, if_neg Bool.false_ne_true] at hnode
      exact ⟨place, hlocate, hdetached, content, mode, hnode⟩

/-- The last name on the way to a file. -/
structure LastName (fs : FileSystem) (links : Nat) (dir : Place) (name : Name) (place : Place)
    (left : Nat) : Prop where
  isDirectory : fs.isDirectory dir.location = true
  attached : dir.detached = false
  plain : ¬(name = Path.dot ∨ name = Path.dotDot)
  short : ¬maxName < name.length
  /-- the name is that of the file, or of a link that leads there -/
  leads : (place = ⟨name :: dir.location, false⟩) ∨
    ∃ target more, fs.get? (name :: dir.location) = some (.link target) ∧ links = more + 1 ∧
      fs.descend more (dir.start target) target.names = .ok (place, left)

theorem lastName_of_descend {links left : Nat} {dir place : Place} {name : Name}
    (hrooted : fs.Rooted dir) (hdescend : fs.descend links dir [name] = .ok (place, left))
    (hfile : fs.HasFile place) : LastName fs links dir name place left := by
  have harrived : ∀ reached, fs.walk dir [name] = .ok (.arrived reached) → reached = place := by
    intro reached hwalk
    rw [descend.eq_def, hwalk] at hdescend
    exact (Prod.mk.inj (Except.ok.inj hdescend)).1
  by_cases hdir : (!dir.detached && !fs.isDirectory dir.location) = true
  · rw [descend.eq_def, walk, if_pos hdir] at hdescend
    cases hdescend
  by_cases hdot : name = Path.dot
  · -- the place is the directory itself
    obtain rfl : dir = place :=
      harrived dir (by rw [walk, if_neg hdir, if_pos hdot]; rfl)
    have hdirectory : fs.isDirectory dir.location = true := by simpa [hfile.1] using hdir
    exact absurd hfile (not_hasFile_of_isDirectory hdirectory)
  by_cases hdotDot : name = Path.dotDot
  · obtain rfl : (⟨dir.location.tail, false⟩ : Place) = place :=
      harrived _ (by rw [walk, if_neg hdir, if_neg hdot, if_pos hdotDot]; rfl)
    exact absurd hfile (not_hasFile_of_isDirectory hrooted.here)
  by_cases hlong : maxName < name.length
  · rw [descend.eq_def, walk, if_neg hdir, if_neg hdot, if_neg hdotDot, if_pos hlong] at hdescend
    cases hdescend
  by_cases hdetached : dir.detached = true
  · rw [descend.eq_def, walk, if_neg hdir, if_neg hdot, if_neg hdotDot, if_neg hlong,
      if_pos hdetached] at hdescend
    cases hdescend
  have hattached : dir.detached = false := by simpa using hdetached
  have hdirectory : fs.isDirectory dir.location = true := by simpa [hattached] using hdir
  have hplain := not_or.2 ⟨hdot, hdotDot⟩
  refine ⟨hdirectory, hattached, hplain, hlong, ?_⟩
  cases hget : fs.get? (name :: dir.location) with
  | none =>
      rw [descend.eq_def, walk, if_neg hdir, if_neg hdot, if_neg hdotDot, if_neg hlong,
        if_neg hdetached, hget] at hdescend
      cases hdescend
  | some node =>
      have hwalk := walk_last hdirectory hattached hplain hlong hget
      cases node with
      | link target =>
          rw [descend.eq_def, hwalk] at hdescend
          cases links with
          | zero => cases hdescend
          | succ more =>
              refine .inr ⟨target, more, rfl, rfl, ?_⟩
              simpa [lastWalk] using hdescend
      | directory | file content mode | device d | program name =>
          exact .inl (harrived _ hwalk).symm

/-! ## Opening the file -/

/-- A path with a last name that is no dot does not end in a slash. -/
theorem parts_of_names {p : Path} {front : List Name} {last : Name}
    (hnames : p.names = front ++ [last]) (hdot : last ≠ Path.dot) :
    ¬(p.getLast? == some Path.slash) = true ∧
      p.parts.filter (fun part => !part.isEmpty) = front ++ [last] := by
  by_cases hslash : (p.getLast? == some Path.slash) = true
  · rw [Path.names, if_pos hslash] at hnames
    exact absurd (List.append_inj_right' hnames rfl) (by simpa using hdot.symm)
  · rw [Path.names, if_neg hslash, List.append_nil] at hnames
    exact ⟨hslash, hnames⟩

/-- What is opened for writing under a path that leads to a file is that file. -/
theorem locateForWriting_of_hasFile {here place : Place} (hrooted : fs.Rooted here)
    {links left : Nat} {p : Path} (hp : p.names ≠ [])
    (hdescend : fs.descend links (here.start p) p.names = .ok (place, left))
    (hfile : fs.HasFile place) : fs.locateForWriting links here p = .ok place.location := by
  induction links using Nat.strongRecOn generalizing here p with
  | ind links ih =>
      obtain ⟨front, last, hnames⟩ := (List.eq_nil_or_concat p.names).resolve_left hp
      rw [List.concat_eq_append] at hnames
      rw [hnames] at hdescend
      obtain ⟨dir, more, hfront, hlast⟩ := exists_descend_of_append hdescend
      have hdirRooted := (hrooted.start p).descend hfront
      have hname := lastName_of_descend hdirRooted hlast hfile
      obtain ⟨hslash, hparts⟩ := parts_of_names hnames (not_or.1 hname.plain).1
      have hdir : ¬(!dir.detached && !fs.isDirectory dir.location) = true := by
        simp [hname.isDirectory]
      have hdetached : ¬dir.detached = true := by simp [hname.attached]
      rw [locateForWriting, hparts, List.reverse_append, List.reverse_singleton,
        List.singleton_append]
      simp only [List.reverse_reverse, hfront, if_neg hdir, if_neg hslash, if_neg hname.plain,
        if_neg hname.short, if_neg hdetached]
      rcases hname.leads with rfl | ⟨target, moreLeft, hlink, rfl, htarget⟩
      · obtain ⟨-, content, mode, hget⟩ := hfile
        simp only [hget]
      · -- the last name is a link, whose target leads to the file with fewer links
        have hle := left_le_of_descend hfront
        obtain ⟨links, rfl⟩ := Nat.exists_eq_add_one_of_ne_zero (n := links) (by omega)
        have hne : target.names ≠ [] := by
          intro hempty
          rw [hempty, descend.eq_def, walk] at htarget
          obtain ⟨rfl, -⟩ := Prod.mk.inj (Except.ok.inj htarget)
          rw [Place.start] at hfile
          split at hfile
          · exact not_hasFile_of_isDirectory rfl hfile
          · exact not_hasFile_of_isDirectory hname.isDirectory hfile
        simp only [hlink]
        rw [Nat.min_eq_left (Nat.le_of_succ_le_succ hle)]
        exact ih moreLeft (by omega) hdirRooted hne htarget

theorem ofParts_parts (p : Path) : Path.ofParts p.parts = p := List.intercalate_splitOn Path.slash

/-- A path that is not empty has names. -/
theorem names_ne_nil {p : Path} (hp : p ≠ []) : p.names ≠ [] := by
  intro hnames
  obtain ⟨hparts, hlast⟩ := List.append_eq_nil_iff.1 hnames
  have hempty : ∀ part ∈ p.parts, part = [] := by
    intro part hpart
    simpa using List.filter_eq_nil_iff.1 hparts part hpart
  obtain ⟨front, last, rfl⟩ := (List.eq_nil_or_concat p).resolve_left hp
  have hmem : last ∈ Path.ofParts (Path.parts (front.concat last)) := by
    rw [ofParts_parts, List.concat_eq_append]
    exact List.mem_concat_self
  have hslash : last = Path.slash := List.mem_singleton.1 (mem_of_mem_intercalate hempty hmem)
  simp [hslash] at hlast

theorem ne_nil_of_checkPath {p : Path} (hcheck : checkPath p = .ok ()) : p ≠ [] := by
  rintro rfl
  nomatch hcheck

/-- A file that a path leads to can be opened for writing. -/
theorem openForWriting_of_file {here : Place} (hrooted : fs.Rooted here) {p : Path} {old : Bytes}
    {mode : Nat} (hfind : fs.find here p = .ok (.file old mode)) (append : Bool) :
    ∃ loc opened, fs.openForWriting here p append =
      .ok (if append then .atEnd loc else .atOffset loc 0, opened) := by
  obtain ⟨place, hlocate, hfile⟩ := hasFile_of_find hfind
  obtain ⟨hcheck, left, hdescend⟩ := locate_eq_ok_iff.1 hlocate
  have hopens := locateForWriting_of_hasFile hrooted (names_ne_nil (ne_nil_of_checkPath hcheck))
    hdescend hfile
  obtain ⟨-, content, fileMode, hget⟩ := hfile
  rw [openForWriting, hcheck]
  simp only [hopens, hget]
  exact ⟨_, _, rfl⟩

/-! ## The directory above the file -/

theorem dropTrivial_isSuffix (parts : List Name) : Path.dropTrivial parts <:+ parts := by
  fun_induction Path.dropTrivial parts with
  | case1 part next rest htrivial ih => exact ih.trans (List.suffix_cons part _)
  | case2 part next rest htrivial => exact List.suffix_refl _
  | case3 parts hshort => exact List.suffix_refl _

theorem dropTrivial_of_plain {part : Name} (rest : List Name) (hempty : part ≠ [])
    (hdot : part ≠ Path.dot) : Path.dropTrivial (part :: rest) = part :: rest := by
  cases rest with
  | nil => rfl
  | cons next rest =>
      have htrivial : ¬(part.isEmpty || part == Path.dot) = true := by simp [hempty, hdot]
      rw [Path.dropTrivial, if_neg htrivial]

/-- The last part of a path that does not end in a slash is its last name. -/
theorem parts_eq_append {p : Path} {front : List Name} {last : Name}
    (hnames : p.names = front ++ [last]) (hdot : last ≠ Path.dot) :
    last ≠ [] ∧ ∃ before, p.parts = before ++ [last] ∧
      before.filter (fun part => !part.isEmpty) = front := by
  obtain ⟨hslash, hfilter⟩ := parts_of_names hnames hdot
  have hne : p.parts ≠ [] := List.splitOn_ne_nil Path.slash p
  obtain ⟨before, final, hparts⟩ := (List.eq_nil_or_concat p.parts).resolve_left hne
  rw [List.concat_eq_append] at hparts
  have hfinal : final ≠ [] := by
    rintro rfl
    have hp := ofParts_parts p
    rw [hparts] at hp hfilter
    by_cases hbefore : before = []
    · rw [hbefore] at hfilter
      exact absurd hfilter.symm (List.append_ne_nil_of_right_ne_nil _ (List.cons_ne_nil _ _))
    · rw [Path.ofParts, intercalate_append _ hbefore (List.cons_ne_nil _ _)] at hp
      rw [← hp] at hslash
      exact hslash (by simp)
  have hkept : [final].filter (fun part => !part.isEmpty) = [final] := by simpa using hfinal
  rw [hparts, List.filter_append, hkept] at hfilter
  obtain ⟨hbefore, hlast⟩ := List.append_inj' hfilter rfl
  obtain rfl : final = last := (List.cons.inj hlast).1
  exact ⟨hfinal, before, hparts, hbefore⟩

/-- The path above a path is empty, the root, or the beginning of the path up to some
name before the last one. -/
theorem parent?_cases {p above : Path} {front : List Name} {last : Name}
    (hnames : p.names = front ++ [last]) (hdot : last ≠ Path.dot)
    (habove : p.parent? = some above) :
    above = [] ∨ above = [Path.slash] ∨
      above <+: p ∧ ∃ rest, front = above.parts.filter (fun part => !part.isEmpty) ++ rest := by
  obtain ⟨hlast, before, hparts, hfront⟩ := parts_eq_append hnames hdot
  rw [Path.parent?, hparts, List.reverse_append, List.reverse_singleton, List.singleton_append,
    dropTrivial_of_plain _ hlast hdot] at habove
  obtain ⟨dropped, hbefore⟩ := dropTrivial_isSuffix before.reverse
  split at habove
  · nomatch habove
  · split at habove
    · nomatch habove
    · exact .inl (Option.some.inj habove).symm
  rename_i hlonger hcons
  obtain ⟨-, rfl⟩ := List.cons.inj hcons
  split at habove
  · exact .inr (.inl (Option.some.inj habove).symm)
  rename_i kept hkept
  obtain rfl := Option.some.inj habove
  generalize Path.dropTrivial before.reverse = kept at hbefore ⊢
  have hsplit : before = kept.reverse ++ dropped.reverse := by
    rw [← List.reverse_append, hbefore, List.reverse_reverse]
  by_cases hnil : kept = []
  · exact .inl (by rw [hnil]; rfl)
  have hnil' : kept.reverse ≠ [] := by simpa using hnil
  refine .inr (.inr ⟨?_, dropped.reverse.filter (fun part => !part.isEmpty), ?_⟩)
  · rw [hsplit, List.append_assoc] at hparts
    have hp := intercalate_append [Path.slash] hnil'
      (List.append_ne_nil_of_right_ne_nil dropped.reverse (List.cons_ne_nil last []))
    rw [← hparts, List.append_assoc] at hp
    exact ⟨_, hp.symm.trans (ofParts_parts p)⟩
  · have hfree : ∀ part ∈ kept.reverse, Path.slash ∉ part := by
      intro part hpart
      have hmem : part ∈ p.parts := by
        rw [hparts, hsplit]
        exact List.mem_append_left _ (List.mem_append_left _ hpart)
      exact not_mem_of_mem_splitOn hmem
    have habove : (Path.ofParts kept.reverse).parts = kept.reverse :=
      List.splitOn_intercalate Path.slash hfree hnil'
    rw [habove, ← List.filter_append, ← hsplit, hfront]

/-- From a place that is no directory no name leads anywhere. -/
theorem passable_of_descend {links left : Nat} {here place : Place} {name : Name}
    {names : List Name} (hdescend : fs.descend links here (name :: names) = .ok (place, left)) :
    (here.detached || fs.isDirectory here.location) = true := by
  by_contra hpassable
  have hdir : (!here.detached && !fs.isDirectory here.location) = true := by simpa using hpassable
  rw [descend.eq_def, walk, if_pos hdir] at hdescend
  cases hdescend

theorem descend_dot {links : Nat} {here : Place}
    (hpassable : (here.detached || fs.isDirectory here.location) = true) :
    fs.descend links here [Path.dot] = .ok (here, links) := by
  have hdir : ¬(!here.detached && !fs.isDirectory here.location) = true := by
    rw [← Bool.not_or, hpassable]
    exact Bool.false_ne_true
  rw [descend.eq_def, walk, if_neg hdir, if_pos rfl, walk]

/-- Where a path leads to a directory, no directory is made. -/
theorem makeDirectory_of_descend {here mid : Place} {p : Path} {more : Nat}
    (hcheck : checkPath p = .ok ())
    (hdescend : fs.descend maxLinks (here.start p) (p.parts.filter fun part => !part.isEmpty) =
      .ok (mid, more)) :
    ∃ e, fs.makeDirectory here p = .error e ∧ e ≠ .notFound := by
  rw [makeDirectory, hcheck]
  simp only
  split
  · exact ⟨_, rfl, by decide⟩
  rename_i last before hparts
  have hnames : p.parts.filter (fun part => !part.isEmpty) = before.reverse ++ [last] := by
    rw [← List.reverse_cons, ← hparts, List.reverse_reverse]
  rw [hnames] at hdescend
  obtain ⟨dir, left, hfront, hlast⟩ := exists_descend_of_append hdescend
  simp only [hfront]
  by_cases hdir : (!dir.detached && !fs.isDirectory dir.location) = true
  · rw [if_pos hdir]
    exact ⟨_, rfl, by decide⟩
  by_cases hdots : last = Path.dot ∨ last = Path.dotDot
  · rw [if_neg hdir, if_pos hdots]
    exact ⟨_, rfl, by decide⟩
  by_cases hlong : maxName < last.length
  · rw [if_neg hdir, if_neg hdots, if_pos hlong]
    exact ⟨_, rfl, by decide⟩
  -- the last name leads somewhere, so that its directory is there and holds it
  obtain ⟨hdot, hdotDot⟩ := not_or.1 hdots
  rw [descend.eq_def, walk, if_neg hdir, if_neg hdot, if_neg hdotDot, if_neg hlong] at hlast
  by_cases hdetached : dir.detached = true
  · rw [if_pos hdetached] at hlast
    cases hlast
  rw [if_neg hdetached] at hlast
  rw [if_neg hdir, if_neg hdots, if_neg hlong, if_neg hdetached]
  cases hget : fs.get? (last :: dir.location) with
  | none =>
      rw [hget] at hlast
      cases hlast
  | some node => exact ⟨_, rfl, by decide⟩

theorem makeDirectories_of_existing {here : Place} {p : Path} {e : OsError}
    (hmake : fs.makeDirectory here p = .error e) (he : e ≠ .notFound)
    (hleads : fs.leadsToDirectory here p = true) :
    fs.makeDirectories here p = (fs, .ok ()) := by
  cases p with
  | nil => rfl
  | cons b rest =>
      rw [makeDirectories, Path.ancestors, List.length_cons, Path.ancestors.go,
        if_neg (by simp), makeDirectoriesUpTo, hmake]
      cases e with
      | notFound => exact absurd rfl he
      | _ => simp only [hleads, if_true]

theorem checkPath_of_prefix {p above : Path} (hcheck : checkPath p = .ok ()) (hbegins : above <+: p)
    (habove : above ≠ []) : checkPath above = .ok () := by
  obtain ⟨rest, rfl⟩ := hbegins
  have hempty : ¬above.isEmpty = true := by simpa using habove
  have hzero : ¬above.contains 0 = true := by
    intro hzero
    rw [checkPath, if_pos (by simpa using .inl (by simpa using hzero))] at hcheck
    nomatch hcheck
  have hlong : ¬maxPath < above.length := by
    intro hlong
    rw [checkPath] at hcheck
    split at hcheck
    · nomatch hcheck
    split at hcheck
    · nomatch hcheck
    rw [if_pos (by rw [List.length_append]; omega)] at hcheck
    nomatch hcheck
  rw [checkPath, if_neg hzero, if_neg hempty, if_neg hlong]

theorem start_of_prefix (here : Place) {p above : Path} (hbegins : above <+: p)
    (habove : above ≠ []) : here.start above = here.start p := by
  obtain ⟨rest, rfl⟩ := hbegins
  obtain ⟨b, bytes, rfl⟩ := List.exists_cons_of_ne_nil habove
  rfl

/-- The path above a path that leads to a file leads to a directory. -/
theorem makeDirectories_above {here : Place} (hrooted : fs.Rooted here) {p above : Path}
    {content : Bytes} {mode : Nat} (hfind : fs.find here p = .ok (.file content mode))
    (habove : p.parent? = some above) : fs.makeDirectories here above = (fs, .ok ()) := by
  obtain ⟨place, hlocate, hfile⟩ := hasFile_of_find hfind
  obtain ⟨hcheck, left, hdescend⟩ := locate_eq_ok_iff.1 hlocate
  obtain ⟨front, last, hnames⟩ :=
    (List.eq_nil_or_concat p.names).resolve_left (names_ne_nil (ne_nil_of_checkPath hcheck))
  rw [List.concat_eq_append] at hnames
  rw [hnames] at hdescend
  obtain ⟨dir, before, hfront, hlast⟩ := exists_descend_of_append hdescend
  have hname := lastName_of_descend ((hrooted.start p).descend hfront) hlast hfile
  rcases parent?_cases hnames (not_or.1 hname.plain).1 habove with
    rfl | rfl | ⟨hbegins, rest, hsplit⟩
  · rfl
  · exact makeDirectories_of_existing (e := .alreadyExists) rfl nofun rfl
  by_cases hempty : above = []
  · rw [hempty]
    rfl
  have hcheckAbove := checkPath_of_prefix hcheck hbegins hempty
  have hstart := start_of_prefix here hbegins hempty
  -- the way to the file goes on from the directory at least with the last name
  rw [hsplit, List.append_assoc, ← hstart] at hdescend
  obtain ⟨mid, more, hmid, hrest⟩ := exists_descend_of_append hdescend
  have hpassable : (mid.detached || fs.isDirectory mid.location) = true := by
    obtain ⟨name, names, hcons⟩ :=
      List.exists_cons_of_ne_nil (List.append_ne_nil_of_right_ne_nil rest (List.cons_ne_nil last []))
    rw [hcons] at hrest
    exact passable_of_descend hrest
  have habove : fs.descend maxLinks (here.start above) above.names = .ok (mid, more) := by
    rw [Path.names]
    split
    · rw [descend_append _ hmid]
      exact descend_dot hpassable
    · rw [List.append_nil]
      exact hmid
  obtain ⟨e, hmake, he⟩ := makeDirectory_of_descend hcheckAbove hmid
  apply makeDirectories_of_existing hmake he
  rw [leadsToDirectory, locateDirectory, locate_eq_ok_iff.2 ⟨hcheckAbove, more, habove⟩]
  simp only [hpassable, if_true]
  rfl

end FileSystem

namespace History

open FileSystem

variable {fs : FileSystem} {here : Place} {p : Path} {old : Bytes} {mode : Nat}

/-- Storing a text under a path that leads to a file does not fail. -/
theorem store_of_file (hrooted : fs.Rooted here) (hfind : fs.find here p = .ok (.file old mode))
    (append : Bool) (text : Bytes) : ∃ written, store fs here p append text = (written, .ok ()) := by
  obtain ⟨loc, opened, hopen⟩ := openForWriting_of_file hrooted hfind append
  have hwrite : ∃ moved after,
      opened.write (if append then .atEnd loc else .atOffset loc 0) text = .ok (moved, after) := by
    cases append with
    | true =>
        rw [if_pos rfl, FileSystem.write]
        split <;> exact ⟨_, _, rfl⟩
    | false =>
        rw [if_neg Bool.false_ne_true, FileSystem.write]
        split <;> exact ⟨_, _, rfl⟩
  obtain ⟨moved, after, hwrite⟩ := hwrite
  rw [store, hopen]
  simp only [hwrite]
  exact ⟨after, rfl⟩

/-- Saving a history under a path that leads to a file does not fail. -/
theorem save_of_file (hrooted : fs.Rooted here) (hfind : fs.find here p = .ok (.file old mode))
    (h : History) : ∃ written, h.save fs here p = (written, .ok ()) := by
  rw [save]
  split
  · exact store_of_file hrooted hfind false _
  · rename_i above habove
    rw [makeDirectories_above hrooted hfind habove]
    exact store_of_file hrooted hfind false _

end History

end PipelineShell
