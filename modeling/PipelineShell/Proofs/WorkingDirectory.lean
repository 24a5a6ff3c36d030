import PipelineShell.Proofs.ExecutedFile
import PipelineShell.Proofs.ExistingFile
import PipelineShell.Proofs.InputLines

/-!
# The working directory

A change of directory keeps the path of a directory from the root, on which no link and
no dot lies.  Following names from the root leads only to what directories hold under
names that are no dots, so such a path leads back to the directory that it was made of.
That is why a directory that was entered can be entered again, as itself.
-/

namespace PipelineShell

/-! ## Paths of plain names -/

namespace Path

/-- A name that a directory can hold. -/
def IsName (name : Name) : Prop := name ≠ [] ∧ slash ∉ name

/-- A name that leads into a directory and not out of it. -/
def IsPlain (name : Name) : Prop := IsName name ∧ name ≠ dot ∧ name ≠ dotDot

/-- The absolute path along some names. -/
def ofNames (names : List Name) : Path := names.flatMap (slash :: ·)

theorem isName_of_mem_names {p : Path} {name : Name} (hname : name ∈ p.names) : IsName name := by
  rw [names, List.mem_append, List.mem_filter] at hname
  rcases hname with ⟨hpart, hkept⟩ | hdot
  · exact ⟨by simpa using hkept, not_mem_of_mem_splitOn hpart⟩
  · split at hdot
    · obtain rfl := List.mem_singleton.1 hdot
      exact ⟨by decide, by decide⟩
    · cases hdot

theorem ofNames_eq_intercalate (names : List Name) :
    ofNames names = [slash].intercalate ([] :: names) := by
  have hrest : ∀ (name : Name) (rest : List Name),
      [slash].intercalate (name :: rest) = name ++ ofNames rest := by
    intro name rest
    induction rest generalizing name with
    | nil => simp [ofNames]
    | cons next rest ih =>
        rw [List.intercalate_cons_cons, ih, ofNames, ofNames, List.flatMap_cons, List.append_assoc]
        rfl
  exact (hrest [] names).symm

theorem parts_ofNames {names : List Name} (hnames : ∀ name ∈ names, IsName name) :
    (ofNames names).parts = [] :: names := by
  rw [parts, ofNames_eq_intercalate]
  apply List.splitOn_intercalate
  · intro part hpart
    rcases List.mem_cons.1 hpart with rfl | hmem
    · exact List.not_mem_nil
    · exact (hnames part hmem).2
  · exact List.cons_ne_nil _ _

/-- A path of names does not end in a slash. -/
theorem getLast?_ofNames {names : List Name} (hnames : ∀ name ∈ names, IsName name) :
    (ofNames names).getLast? ≠ some slash := by
  rcases List.eq_nil_or_concat names with rfl | ⟨front, last, rfl⟩
  · nofun
  · rw [List.concat_eq_append] at hnames ⊢
    obtain ⟨hempty, hslash⟩ := hnames last List.mem_concat_self
    obtain ⟨before, final, rfl⟩ := (List.eq_nil_or_concat last).resolve_left hempty
    rw [List.concat_eq_append] at hslash ⊢
    have hpath : ofNames (front ++ [before ++ [final]]) =
        ofNames front ++ slash :: before ++ [final] := by
      simp [ofNames]
    rw [hpath, List.getLast?_concat]
    intro hfinal
    exact hslash (by simp [Option.some.inj hfinal])

theorem names_ofNames {names : List Name} (hnames : ∀ name ∈ names, IsName name) :
    (ofNames names).names = names := by
  have hend : ¬((ofNames names).getLast? == some slash) = true := by
    simpa using getLast?_ofNames hnames
  have hkept : ∀ name ∈ names, (!name.isEmpty) = true := by
    intro name hmem
    simpa using (hnames name hmem).1
  rw [Path.names, if_neg hend, parts_ofNames hnames, List.append_nil,
    List.filter_cons_of_neg (by simp), List.filter_eq_self.2 hkept]

theorem locationPath_of_ne_nil {loc : Location} (hloc : loc ≠ []) :
    Location.path loc = ofNames loc.reverse := if_neg hloc

/-- The path of a location seen from itself. -/
theorem locationPath_join_dot {loc : Location} (hloc : ∀ name ∈ loc, IsName name) :
    (Location.path loc).join dot = ofNames (loc.reverse ++ [dot]) := by
  by_cases hnil : loc = []
  · rw [hnil]
    rfl
  · have hnames : ∀ name ∈ loc.reverse, IsName name := fun name hmem =>
      hloc name (List.mem_reverse.1 hmem)
    have hne : ofNames loc.reverse ≠ [] := by
      obtain ⟨name, names, hcons⟩ := List.exists_cons_of_ne_nil (List.reverse_ne_nil_iff.2 hnil)
      rw [hcons, ofNames, List.flatMap_cons]
      nofun
    have hbase : ¬((ofNames loc.reverse).isEmpty ||
        (ofNames loc.reverse).getLast? == some slash) = true := by
      simpa [hne] using getLast?_ofNames hnames
    rw [locationPath_of_ne_nil hnil, join, if_neg (by decide), if_neg hbase]
    simp [ofNames]

theorem zero_not_mem_join {base rel : Path} (hbase : 0 ∉ base) (hrel : 0 ∉ rel) :
    0 ∉ base.join rel := by
  have hslash : (0 : UInt8) ≠ slash := by decide
  rw [join]
  split
  · exact hrel
  · split <;> simp [hbase, hrel, hslash]

theorem join_ne_nil {base rel : Path} (hrel : rel ≠ []) : base.join rel ≠ [] := by
  rw [join]
  split
  · exact hrel
  · split <;> simp [hrel]

end Path

/-! ## What can be reached from the root -/

namespace FileSystem

variable {fs : FileSystem}

/-- A node that is no link and that the root reaches through directories alone. -/
inductive Stands (fs : FileSystem) : Location → Prop where
  | root : Stands fs []
  | held {name : Name} {dir : Location} {node : Node} : Stands fs dir →
      fs.isDirectory dir = true → Path.IsPlain name → ¬maxName < name.length →
      fs.get? (name :: dir) = some node → (∀ target, node ≠ .link target) →
      Stands fs (name :: dir)

/-- A place in use at which a node stands. -/
def StandsAt (fs : FileSystem) (place : Place) : Prop :=
  place.detached = false ∧ fs.Stands place.location

theorem Stands.tail {loc : Location} (hstands : fs.Stands loc) : fs.Stands loc.tail := by
  cases hstands with
  | root => exact .root
  | held hdir => exact hdir

theorem Stands.isPlain {loc : Location} (hstands : fs.Stands loc) :
    ∀ name ∈ loc, Path.IsPlain name := by
  induction hstands with
  | root => nofun
  | held hdir hdirectory hplain hshort hget hnode ih =>
      exact List.forall_mem_cons.2 ⟨hplain, ih⟩

/-- There is no link on the way to a directory. -/
theorem Stands.isDirectory {loc : Location} (hstands : fs.Stands loc)
    (hloc : fs.isDirectory loc = true) : ∀ dir, dir <:+ loc → fs.isDirectory dir = true := by
  induction hstands with
  | root =>
      intro dir hsuffix
      rwa [List.suffix_nil.1 hsuffix]
  | held hdir hdirectory hplain hshort hget hnode ih =>
      intro dir hsuffix
      rcases List.suffix_cons_iff.1 hsuffix with rfl | habove
      · exact hloc
      · exact ih hdirectory dir habove

/-- Names lead from a place that stands to places that stand. -/
theorem StandsAt.walk {here : Place} (hhere : fs.StandsAt here) {names : List Name}
    (hnames : ∀ name ∈ names, Path.IsName name) :
    (∀ place, fs.walk here names = .ok (.arrived place) → fs.StandsAt place) ∧
      ∀ dir target rest, fs.walk here names = .ok (.atLink dir target rest) →
        fs.StandsAt dir ∧ ∀ name ∈ rest, Path.IsName name := by
  induction names generalizing here with
  | nil =>
      refine ⟨fun place hwalk => ?_, by simp [FileSystem.walk]⟩
      obtain rfl : here = place := Walk.arrived.inj (Except.ok.inj hwalk)
      exact hhere
  | cons name names ih =>
      obtain ⟨hname, hrest⟩ := List.forall_mem_cons.1 hnames
      obtain ⟨hattached, hstands⟩ := hhere
      rw [FileSystem.walk]
      by_cases hdir : (!here.detached && !fs.isDirectory here.location) = true
      · rw [if_pos hdir]
        simp
      by_cases hdot : name = Path.dot
      · rw [if_neg hdir, if_pos hdot]
        exact ih ⟨hattached, hstands⟩ hrest
      by_cases hdotDot : name = Path.dotDot
      · rw [if_neg hdir, if_neg hdot, if_pos hdotDot]
        exact ih ⟨rfl, hstands.tail⟩ hrest
      rw [if_neg hdir, if_neg hdot, if_neg hdotDot]
      by_cases hlong : maxName < name.length
      · rw [if_pos hlong]
        simp
      rw [if_neg hlong, if_neg (by simp [hattached])]
      have hdirectory : fs.isDirectory here.location = true := by simpa [hattached] using hdir
      cases hget : fs.get? (name :: here.location) with
      | none => simp
      | some node =>
          cases node with
          | link target =>
              refine ⟨by simp, fun dir found rest hwalk => ?_⟩
              obtain ⟨rfl, -, rfl⟩ := Walk.atLink.inj (Except.ok.inj hwalk)
              exact ⟨⟨hattached, hstands⟩, hrest⟩
          | directory | file content mode | device d | program title =>
              exact ih ⟨rfl, .held hstands hdirectory ⟨hname, hdot, hdotDot⟩ hlong hget
                (fun _ hlink => by cases hlink)⟩ hrest

theorem StandsAt.start {here : Place} (hhere : fs.StandsAt here) (p : Path) :
    fs.StandsAt (here.start p) := by
  rw [Place.start]
  split
  · exact ⟨rfl, .root⟩
  · exact hhere

theorem StandsAt.descend {here place : Place} (hhere : fs.StandsAt here) {links left : Nat}
    {names : List Name} (hnames : ∀ name ∈ names, Path.IsName name)
    (hdescend : fs.descend links here names = .ok (place, left)) : fs.StandsAt place := by
  induction links generalizing here names with
  | zero =>
      rw [FileSystem.descend] at hdescend
      split at hdescend <;> rename_i hwalk
      · cases hdescend
      · obtain ⟨rfl, -⟩ := Prod.mk.inj (Except.ok.inj hdescend)
        exact (hhere.walk hnames).1 _ hwalk
      · cases hdescend
  | succ links ih =>
      rw [FileSystem.descend] at hdescend
      split at hdescend <;> rename_i hwalk
      · cases hdescend
      · obtain ⟨rfl, -⟩ := Prod.mk.inj (Except.ok.inj hdescend)
        exact (hhere.walk hnames).1 _ hwalk
      · obtain ⟨hdir, hrest⟩ := (hhere.walk hnames).2 _ _ _ hwalk
        apply ih (hdir.start _) _ hdescend
        intro name hmem
        rcases List.mem_append.1 hmem with htarget | hbehind
        · exact Path.isName_of_mem_names htarget
        · exact hrest name hbehind

/-- The names of a node that stands lead to it. -/
theorem Stands.walk_reverse {loc : Location} (hstands : fs.Stands loc) :
    fs.walk Place.root loc.reverse = .ok (.arrived ⟨loc, false⟩) := by
  induction hstands with
  | root => rfl
  | @held name dir node hdir hdirectory hplain hshort hget hnode ih =>
      have hlast : lastWalk ⟨dir, false⟩ name node = .arrived ⟨name :: dir, false⟩ := by
        cases node with
        | link target => exact absurd rfl (hnode target)
        | directory | file content mode | device d | program title => rfl
      have hwalk : fs.walk ⟨dir, false⟩ [name] = .ok (lastWalk ⟨dir, false⟩ name node) :=
        walk_last hdirectory rfl (not_or.2 hplain.2) hshort hget
      rw [List.reverse_cons, walk_append_of_arrived [name] ih, hwalk, hlast]

theorem Stands.descend_reverse {loc : Location} (hstands : fs.Stands loc) (links : Nat) :
    fs.descend links Place.root loc.reverse = .ok (⟨loc, false⟩, links) := by
  rw [FileSystem.descend.eq_def, hstands.walk_reverse]

/-- A directory that stands is reached by its own path. -/
theorem Stands.locate_path {loc : Location} (hstands : fs.Stands loc)
    (hcheck : checkPath (Location.path loc) = .ok ()) (here : Place) :
    fs.locate here (Location.path loc) = .ok ⟨loc, false⟩ := by
  have hstart : here.start (Location.path loc) = Place.root :=
    if_pos (Path.isAbsolute_locationPath loc)
  have hway : fs.descend maxLinks Place.root (Location.path loc).names =
      .ok (⟨loc, false⟩, maxLinks) := by
    by_cases hnil : loc = []
    · rw [hnil]
      exact descend_dot rfl
    · have hnames : ∀ name ∈ loc.reverse, Path.IsName name := fun name hmem =>
        (hstands.isPlain name (List.mem_reverse.1 hmem)).1
      rw [Path.locationPath_of_ne_nil hnil, Path.names_ofNames hnames]
      exact hstands.descend_reverse maxLinks
  rw [← hstart] at hway
  exact locate_eq_ok_iff.2 ⟨hcheck, maxLinks, hway⟩

/-! ## Canonical paths -/

theorem checkPath_eq_ok_iff {p : Path} :
    checkPath p = .ok () ↔ 0 ∉ p ∧ p ≠ [] ∧ p.length ≤ maxPath := by
  rw [checkPath]
  by_cases hzero : 0 ∈ p <;> by_cases hempty : p = [] <;> by_cases hlong : maxPath < p.length <;>
    simp_all

section Canonical

variable {here : Place} {p answer : Path} {loc : Location}

theorem canonical_eq_ok_iff : fs.canonical here p = .ok answer ↔ 0 ∉ p ∧ p ≠ [] ∧
    ∃ place left, fs.descend maxLinks (here.start p) p.names = .ok (place, left) ∧
      place.detached = false ∧ answer = Location.path place.location ∧ answer.length ≤ maxPath := by
  rw [canonical]
  by_cases hzero : 0 ∈ p
  · simp [hzero]
  by_cases hempty : p = []
  · simp [hempty]
  rw [if_neg (by simpa using hzero), if_neg (by simpa using hempty)]
  cases fs.descend maxLinks (here.start p) p.names with
  | error e => simp
  | ok found => grind

/-- The path from the root of a directory that there is, without links and dots. -/
structure IsCanonicalDirectory (fs : FileSystem) (here : Place) (p : Path) (loc : Location) :
    Prop where
  path : p = Location.path loc
  absolute : p.isAbsolute = true
  leads : fs.locateDirectory here p = .ok ⟨loc, false⟩
  linkless : ∀ dir, dir <:+ loc → fs.get? dir = some .directory
  dotless : ∀ part ∈ p.parts, part ≠ Path.dot ∧ part ≠ Path.dotDot

/-- What an absolute path leads to stands where the canonical path says. -/
theorem stands_of_canonical (hp : p.isAbsolute = true)
    (hcanonical : fs.canonical here p = .ok answer) : ∃ loc left, answer = Location.path loc ∧
      fs.Stands loc ∧ fs.descend maxLinks (here.start p) p.names = .ok (⟨loc, false⟩, left) := by
  obtain ⟨-, -, ⟨loc, detached⟩, left, hway, rfl, hanswer, -⟩ := canonical_eq_ok_iff.1 hcanonical
  have hroot : fs.StandsAt (here.start p) := by
    rw [Place.start, if_pos hp]
    exact ⟨rfl, .root⟩
  have hstands := hroot.descend (fun _ hname => Path.isName_of_mem_names hname) hway
  exact ⟨loc, left, hanswer, hstands.2, hway⟩

theorem locateDirectory_of_leadsToDirectory (hleads : fs.leadsToDirectory here p = true) :
    checkPath p = .ok () ∧ ∃ place, fs.locate here p = .ok place ∧
      fs.locateDirectory here p = .ok place ∧
      (place.detached || fs.isDirectory place.location) = true := by
  rw [leadsToDirectory, locateDirectory] at hleads
  rw [locateDirectory]
  cases hlocate : fs.locate here p with
  | error e =>
      rw [hlocate] at hleads
      cases hleads
  | ok place =>
      simp only [hlocate] at hleads ⊢
      by_cases hdirectory : (place.detached || fs.isDirectory place.location) = true
      · exact ⟨(locate_eq_ok_iff.1 hlocate).1, place, rfl, if_pos hdirectory, hdirectory⟩
      · rw [if_neg hdirectory] at hleads
        cases hleads

theorem isDirectory_of_leadsToDirectory (hstands : fs.Stands loc)
    (hleads : fs.leadsToDirectory here (Location.path loc) = true) :
    checkPath (Location.path loc) = .ok () ∧ fs.isDirectory loc = true ∧
      fs.locateDirectory here (Location.path loc) = .ok ⟨loc, false⟩ := by
  obtain ⟨hcheck, place, hlocate, hthere, hdirectory⟩ :=
    locateDirectory_of_leadsToDirectory hleads
  obtain rfl : ⟨loc, false⟩ = place :=
    Except.ok.inj ((hstands.locate_path hcheck here).symm.trans hlocate)
  exact ⟨hcheck, by simpa using hdirectory, hthere⟩

theorem isCanonicalDirectory_of_stands (hstands : fs.Stands loc)
    (hleads : fs.leadsToDirectory here (Location.path loc) = true) :
    fs.IsCanonicalDirectory here (Location.path loc) loc := by
  obtain ⟨hcheck, hdirectory, hthere⟩ := isDirectory_of_leadsToDirectory hstands hleads
  refine ⟨rfl, Path.isAbsolute_locationPath loc, hthere, ?_, ?_⟩
  · intro dir hsuffix
    simpa [FileSystem.isDirectory] using hstands.isDirectory hdirectory dir hsuffix
  · intro part hpart
    by_cases hnil : loc = []
    · have hroot : (Location.path []).parts = [[], []] := by decide +kernel
      rw [hnil, hroot] at hpart
      obtain rfl : part = [] := by simpa using hpart
      decide
    · have hnames : ∀ name ∈ loc.reverse, Path.IsName name := fun name hmem =>
        (hstands.isPlain name (List.mem_reverse.1 hmem)).1
      rw [Path.locationPath_of_ne_nil hnil, Path.parts_ofNames hnames] at hpart
      rcases List.mem_cons.1 hpart with rfl | hmem
      · decide
      · exact (hstands.isPlain part (List.mem_reverse.1 hmem)).2

/-- A directory that stands is found again from inside. -/
theorem canonical_join_dot (hstands : fs.Stands loc) (hdirectory : fs.isDirectory loc = true)
    (hcheck : checkPath (Location.path loc) = .ok ()) (here : Place) :
    fs.canonical here ((Location.path loc).join Path.dot) = .ok (Location.path loc) := by
  have hplain : ∀ name ∈ loc, Path.IsName name := fun name hmem => (hstands.isPlain name hmem).1
  have hnames : ∀ name ∈ loc.reverse ++ [Path.dot], Path.IsName name := by
    intro name hmem
    rcases List.mem_append.1 hmem with hname | hdot
    · exact hplain name (List.mem_reverse.1 hname)
    · rw [List.mem_singleton.1 hdot]
      exact ⟨by decide, by decide⟩
  have hstart : here.start ((Location.path loc).join Path.dot) = Place.root :=
    if_pos (Path.isAbsolute_join (Path.isAbsolute_locationPath loc) _)
  obtain ⟨hzero, -, hfits⟩ := checkPath_eq_ok_iff.1 hcheck
  apply canonical_eq_ok_iff.2
  refine ⟨?_, ?_, ⟨loc, false⟩, maxLinks, ?_, rfl, rfl, hfits⟩
  · exact Path.zero_not_mem_join hzero (by decide)
  · exact Path.join_ne_nil (List.cons_ne_nil _ _)
  · rw [hstart, Path.locationPath_join_dot hplain, Path.names_ofNames hnames,
      descend_append [Path.dot] (hstands.descend_reverse maxLinks)]
    apply descend_dot
    rw [hdirectory, Bool.or_true]

end Canonical

end FileSystem

namespace Builtin

/-! ## The word of a change of directory -/

/-- What a word stands for: a tilde that is the whole word or comes before a slash is the
home directory, if there is one and it is a text; every other word stands for itself. -/
inductive Expands (home : Option Path) : String → Path → Prop where
  | alone {dir : String} : home = some (utf8 dir) → Expands home "~" (utf8 dir)
  | below {dir rest : String} : home = some (utf8 dir) →
      Expands home ("~/" ++ rest) (utf8 (dir ++ "/" ++ rest))
  | same {word : String} :
      ¬((word = "~" ∨ ∃ rest, word = "~/" ++ rest) ∧ ∃ dir, home = some (utf8 dir)) →
      Expands home word (utf8 word)

theorem utf8_tilde : utf8 "~" = [126] := rfl

theorem utf8_slash : utf8 "/" = [Path.slash] := rfl

theorem utf8_tildeSlash : utf8 "~/" = [126, Path.slash] := rfl

theorem expandTilde_alone (dir : String) : expandTilde (some (utf8 dir)) "~" = utf8 dir := by
  simp [expandTilde, utf8_tilde, Bytes.text?_utf8]

theorem expandTilde_below (dir rest : String) :
    expandTilde (some (utf8 dir)) ("~/" ++ rest) = utf8 (dir ++ "/" ++ rest) := by
  simp [expandTilde, utf8_append, utf8_tildeSlash, utf8_slash, Bytes.text?_utf8]

/-- A text that begins with the byte of an ASCII character begins with the character. -/
theorem eq_append_of_utf8_eq_cons {word front : String} {b : UInt8} {rest : Bytes}
    (hascii : b < 128) (hfront : utf8 front = [b]) (hword : utf8 word = b :: rest) :
    ∃ after, word = front ++ after ∧ rest = utf8 after := by
  have hcut : utf8 word = [] ++ b :: rest := hword
  obtain ⟨before, c, after, htext, hbefore, hchar, hrest⟩ := utf8_cut hascii hcut
  refine ⟨String.ofList after, utf8_injective ?_, hrest⟩
  rw [utf8_append, hfront, hword, hrest]
  rfl

theorem expandTilde_same {home : Option Path} {word : String}
    (hword : ¬((word = "~" ∨ ∃ rest, word = "~/" ++ rest) ∧ ∃ dir, home = some (utf8 dir))) :
    expandTilde home word = utf8 word := by
  rw [expandTilde]
  split
  · rename_i rest dir htilde hhome
    obtain ⟨bytes, rfl, htext⟩ := Option.bind_eq_some_iff.1 hhome
    have hdir : ∃ dir, some bytes = some (utf8 dir) := ⟨dir, by rw [Bytes.eq_utf8_of_text? htext]⟩
    obtain ⟨after, rfl, rfl⟩ := eq_append_of_utf8_eq_cons (by decide) utf8_tilde htilde
    apply if_neg
    intro hends
    apply hword
    refine ⟨?_, hdir⟩
    rcases Bool.or_eq_true_iff.1 hends with hempty | hslash
    · have hafter : after = "" := utf8_injective (List.isEmpty_iff.1 hempty)
      exact .inl (by rw [hafter, String.append_empty])
    · obtain ⟨more, hmore⟩ := List.head?_eq_some_iff.1 (by simpa using hslash)
      obtain ⟨behind, rfl, -⟩ := eq_append_of_utf8_eq_cons (by decide) utf8_slash hmore
      exact .inr ⟨behind, (String.append_assoc).symm⟩
  · rfl

/-- The word of a change of directory stands for exactly one path. -/
theorem expands_iff {home : Option Path} {word : String} {rel : Path} :
    Expands home word rel ↔ rel = expandTilde home word := by
  constructor
  · intro hexpands
    cases hexpands with
    | alone hhome => rw [hhome, expandTilde_alone]
    | below hhome => rw [hhome, expandTilde_below]
    | same hword => rw [expandTilde_same hword]
  · rintro rfl
    by_cases hword : (word = "~" ∨ ∃ rest, word = "~/" ++ rest) ∧ ∃ dir, home = some (utf8 dir)
    · obtain ⟨rfl | ⟨rest, rfl⟩, dir, rfl⟩ := hword
      · rw [expandTilde_alone]
        exact .alone rfl
      · rw [expandTilde_below]
        exact .below rfl
    · rw [expandTilde_same hword]
      exact .same hword

/-! ## Changing the directory -/

/-- What `cd` does: it enters the directory to which its word leads, under the canonical
path, or it changes nothing and names the word as it was typed. -/
inductive Enters (state : ShellState) (around : Surroundings) (args : List String) :
    BuiltinOutcome → Prop where
  | entered {rel cwd : Path} {loc : Location} {left : Nat} {records : List LogRecord} :
      Expands state.home (args.headD "~") rel →
      around.files.canonical around.here (state.cwd.join rel) = .ok cwd →
      around.files.descend FileSystem.maxLinks (around.here.start (state.cwd.join rel))
        (state.cwd.join rel).names = .ok (⟨loc, false⟩, left) →
      around.files.IsCanonicalDirectory around.here cwd loc →
      Enters state around args ⟨"", none, { state with cwd }, around.files, records⟩
  | refused {rel : Path} {records : List LogRecord} :
      Expands state.home (args.headD "~") rel →
      (∀ cwd loc, around.files.canonical around.here (state.cwd.join rel) = .ok cwd →
        ¬around.files.IsCanonicalDirectory around.here cwd loc) →
      Enters state around args ⟨"",
        some ("cd: " ++ args.headD "~" ++ ": No such file or directory\n"), state, around.files,
        records⟩

section Directory

variable {state : ShellState} {around : Surroundings}

/-- What the log is told does not matter. -/
theorem Enters.log {args : List String} {outcome : BuiltinOutcome}
    (henters : Enters state around args outcome) (records : List LogRecord) :
    Enters state around args { outcome with records } := by
  cases henters with
  | entered hexpands hcanonical hway hdirectory =>
      exact .entered hexpands hcanonical hway hdirectory
  | refused hexpands hnowhere => exact .refused hexpands hnowhere

theorem enters_runCd (hcwd : state.cwd.isAbsolute = true) (args : List String) :
    Enters state around args (runCd args state around) := by
  have hexpands := expands_iff.2 (Eq.refl (expandTilde state.home (args.headD "~")))
  have habsolute := Path.isAbsolute_join hcwd (expandTilde state.home (args.headD "~"))
  rw [runCd]
  split
  · rename_i dir hcanonical
    obtain ⟨loc, left, rfl, hstands, hway⟩ := FileSystem.stands_of_canonical habsolute hcanonical
    split
    · rename_i hleads
      exact .entered hexpands hcanonical hway
        (FileSystem.isCanonicalDirectory_of_stands hstands hleads)
    · rename_i hleads
      apply Enters.refused hexpands
      intro cwd loc' hcwd' hdirectory
      obtain rfl := Except.ok.inj (hcanonical.symm.trans hcwd')
      rw [FileSystem.leadsToDirectory, hdirectory.leads] at hleads
      exact hleads rfl
  · rename_i e hcanonical
    apply Enters.refused hexpands
    intro cwd loc hcwd'
    cases hcanonical.symm.trans hcwd'

/-- A directory that was entered can be entered again, and it is the same. -/
theorem runCd_dot_of_entered (hcwd : state.cwd.isAbsolute = true) {args : List String}
    (hentered : (runCd args state around).error = none) :
    let after := (runCd args state around).state
    ∃ records, runCd ["."] after around = ⟨"", none, after, around.files, records⟩ := by
  have habsolute := Path.isAbsolute_join hcwd (expandTilde state.home (args.headD "~"))
  have hdot : expandTilde state.home "." = Path.dot := by
    apply expandTilde_same
    rintro ⟨hword | ⟨rest, hword⟩, -⟩
    · exact absurd hword (by decide)
    · have hlist := congrArg String.toList hword
      simp at hlist
  rw [runCd] at hentered ⊢
  split at hentered
  · rename_i dir hcanonical
    obtain ⟨loc, left, rfl, hstands, -⟩ := FileSystem.stands_of_canonical habsolute hcanonical
    split at hentered
    · rename_i hleads
      obtain ⟨hcheck, hdirectory, -⟩ := FileSystem.isDirectory_of_leadsToDirectory hstands hleads
      have hagain := FileSystem.canonical_join_dot hstands hdirectory hcheck around.here
      simp only [hleads, if_true, runCd, List.headD_cons, hdot, hagain]
      exact ⟨_, rfl⟩
    · cases hentered
  · cases hentered

end Directory

/-! ## Many builtins, one after another -/

/-- Whatever builtins were run, the working directory is an absolute path.  A change of
directory enters the directory that its word means, under the canonical path, and can be
repeated from inside; or it changes nothing and names the word as it was typed. -/
theorem enters_afterCalls {start : ShellState} (hstart : start.cwd.isAbsolute = true)
    (calls : List Call) (args : List String) (around : Surroundings) :
    let state := afterCalls start calls
    let outcome := Builtin.cd.run args state around
    state.cwd.isAbsolute = true ∧ Enters state around args outcome ∧
      (outcome.error = none → ∃ records, Builtin.cd.run ["."] outcome.state around =
        ⟨"", none, outcome.state, around.files, records⟩) := by
  intro state outcome
  have hcwd : state.cwd.isAbsolute = true := isAbsolute_cwd_afterCalls hstart calls
  refine ⟨hcwd, ?_, ?_⟩
  · exact (enters_runCd hcwd args).log _
  · intro hentered
    obtain ⟨records, hagain⟩ := runCd_dot_of_entered hcwd hentered
    exact ⟨_, congrArg (fun again : BuiltinOutcome =>
      { again with records := Builtin.cd.startRecord ["."] :: again.records }) hagain⟩

theorem enters_afterCalls_linked :
    let files : FileSystem := { nodes := [([utf8 "link"], .link (utf8 "home/./docs")),
      ([utf8 "docs", utf8 "home"], .directory), ([utf8 "home"], .directory)] }
    let around : Surroundings := ⟨files, Place.root, ⟨[]⟩⟩
    let start : ShellState := ⟨utf8 "/", some (utf8 "/home"), History.empty, false⟩
    let state := afterCalls start [⟨.cd, ["link"], around⟩, ⟨.cd, ["~user"], around⟩]
    let outcome := Builtin.cd.run ["~/docs/.."] state around
    start.cwd.isAbsolute = true ∧ state.cwd = utf8 "/home/docs" ∧
      Enters state around ["~/docs/.."] outcome ∧ outcome.state.cwd = utf8 "/home" ∧
      ∃ records, Builtin.cd.run ["."] outcome.state around =
        ⟨"", none, outcome.state, around.files, records⟩ := by
  intro files around start state outcome
  have hstart : start.cwd.isAbsolute = true := by decide
  obtain ⟨-, henters, hagain⟩ := enters_afterCalls hstart
    [⟨.cd, ["link"], around⟩, ⟨.cd, ["~user"], around⟩] ["~/docs/.."] around
  exact ⟨hstart, by decide +kernel, henters, by decide +kernel, hagain (by decide +kernel)⟩

end Builtin

end PipelineShell
