import PipelineShell.Proofs.WorkingDirectory

/-!
# The first match of a look-up

A directory provides a command if it can be listed, the name of the command is among its
entries, and that entry leads to a regular file that somebody may execute.  The order of
the listing is no part of this, so that a look-up does not depend on it: it finds the command
in the first directory of the search path that provides it, and passes over the others
whatever they hold instead.
-/

namespace PipelineShell

/-! ## File systems and their listings -/

/-- The bits of a mode that let others, the group and the owner execute a file. -/
def executeBits : List Nat := [0, 3, 6]

theorem testBit_executeMask (bit : Nat) : Nat.testBit 0o111 bit = true ↔ bit ∈ executeBits := by
  by_cases hsmall : bit < 7
  · have hbits : ∀ bit < 7, Nat.testBit 0o111 bit = true ↔ bit ∈ executeBits := by decide
    exact hbits bit hsmall
  · have hmask : Nat.testBit 0o111 bit = false := by
      apply Nat.testBit_lt_two_pow
      calc 0o111 < 2 ^ 7 := by decide
        _ ≤ 2 ^ bit := Nat.pow_le_pow_right (by decide) (Nat.le_of_not_lt hsmall)
    have hbits : ∀ small ∈ executeBits, small < 7 := by decide
    rw [hmask]
    exact iff_of_false Bool.false_ne_true fun hmem => hsmall (hbits bit hmem)

theorem and_executeMask_ne_zero_iff (mode : Nat) :
    mode &&& 0o111 ≠ 0 ↔ ∃ bit ∈ executeBits, mode.testBit bit = true := by
  constructor
  · intro hne
    obtain ⟨bit, hbit⟩ := Nat.exists_testBit_of_ne_zero hne
    rw [Nat.testBit_and, Bool.and_eq_true] at hbit
    exact ⟨bit, (testBit_executeMask bit).1 hbit.2, hbit.1⟩
  · rintro ⟨bit, hbit, hset⟩ hzero
    have hboth : (mode &&& 0o111).testBit bit = true := by
      rw [Nat.testBit_and, hset, (testBit_executeMask bit).2 hbit]
      rfl
    rw [hzero, Nat.zero_testBit] at hboth
    nomatch hboth

namespace FileSystem

variable {fs : FileSystem} {here : Place}

/-- What a file system keeps has names that a directory can hold. -/
def Named (fs : FileSystem) : Prop :=
  ∀ entry ∈ fs.nodes, ∀ name ∈ entry.1, Path.IsName name

theorem Named.isName_of_list (hnamed : fs.Named) {dir : Path} {entries : List Name}
    (hlist : fs.list here dir = .ok entries) {name : Name} (hname : name ∈ entries) :
    Path.IsName name := by
  rw [list] at hlist
  split at hlist
  · cases hlist
  · rename_i place hplace
    obtain rfl := Except.ok.inj hlist
    split at hname
    · cases hname
    · obtain ⟨⟨loc, node⟩, hentry, hchild⟩ := List.mem_filterMap.1 hname
      split at hchild
      · rename_i found above node heq
        split at hchild
        · obtain rfl := Option.some.inj hchild
          obtain ⟨rfl, rfl⟩ := Prod.mk.inj heq
          exact hnamed _ hentry _ List.mem_cons_self
        · cases hchild
      · cases hchild

/-- The empty path leads nowhere. -/
theorem list_nil (fs : FileSystem) (here : Place) : fs.list here [] = .error .notFound := rfl

/-- A path that ends in a slash leads to a directory. -/
theorem eq_directory_of_find_slash {p : Path} (hslash : p.getLast? = some Path.slash) {node : Node}
    (hfind : fs.find here p = .ok node) : node = .directory := by
  obtain ⟨place, hlocate, hnode⟩ := find_eq_ok_iff.1 hfind
  obtain ⟨-, left, hdescend⟩ := locate_eq_ok_iff.1 hlocate
  rw [Path.names, if_pos (by simp [hslash])] at hdescend
  obtain ⟨mid, more, -, hdot⟩ := exists_descend_of_append hdescend
  have hpassable := passable_of_descend hdot
  rw [descend_dot hpassable] at hdot
  obtain ⟨rfl, -⟩ := Prod.mk.inj (Except.ok.inj hdot)
  cases hdetached : mid.detached with
  | true => simpa [hdetached] using hnode
  | false =>
      have hdirectory : fs.get? mid.location = some .directory := by
        simpa [hdetached, FileSystem.isDirectory] using hpassable
      rw [hdetached, hdirectory] at hnode
      exact (Option.some.inj hnode).symm

/-- A directory is not found under the empty name in it. -/
theorem not_isExecutable_join_nil (fs : FileSystem) (here : Place) (dir : Path) :
    fs.isExecutable here (dir.join []) = false := by
  apply Bool.eq_false_iff.2
  intro hexecutable
  obtain ⟨node, hfind, hnode⟩ := isExecutable_iff.1 hexecutable
  by_cases hdir : dir = []
  · rw [hdir] at hfind
    cases hfind
  · have hslash : (dir.join []).getLast? = some Path.slash := by
      rw [Path.join, if_neg (by decide)]
      split
      · rename_i hends
        simpa [hdir] using hends
      · exact List.getLast?_concat
    obtain rfl := eq_directory_of_find_slash hslash hfind
    rcases hnode with ⟨content, mode, hsame, -⟩ | ⟨name, hsame⟩ <;> cases hsame

end FileSystem

namespace SearchPath

open FileSystem

/-! ## Directories that provide a command -/

section Provide

variable (fs : FileSystem) (here : Place) (name : String)

/-- What a directory has to be for a command to be found in it. -/
structure Provides (dir : Path) : Prop where
  listed : ∃ entries, fs.list here dir = .ok entries ∧ utf8 name ∈ entries
  /-- links are followed, and an executable of the system may be executed by everybody -/
  runs : (∃ content mode, fs.find here (dir.join (utf8 name)) = .ok (.file content mode) ∧
      ∃ bit ∈ executeBits, mode.testBit bit = true) ∨
    ∃ program, fs.find here (dir.join (utf8 name)) = .ok (.program program)

/-- Why a command is not found in a directory. -/
inductive PassedOver (dir : Path) : Prop where
  /-- it is missing, or it is no directory -/
  | unlisted {e : OsError} : fs.list here dir = .error e → PassedOver dir
  | absent {entries : List Name} : fs.list here dir = .ok entries → utf8 name ∉ entries →
      PassedOver dir
  /-- the entry is a link that leads nowhere -/
  | dangling {e : OsError} : fs.find here (dir.join (utf8 name)) = .error e → PassedOver dir
  /-- the entry leads to a directory, or to a device -/
  | irregular {node : Node} : fs.find here (dir.join (utf8 name)) = .ok node →
      (∀ content mode, node ≠ .file content mode) → (∀ program, node ≠ .program program) →
      PassedOver dir
  | notExecutable {content : Bytes} {mode : Nat} :
      fs.find here (dir.join (utf8 name)) = .ok (.file content mode) →
      (∀ bit ∈ executeBits, mode.testBit bit = false) → PassedOver dir

variable {fs here name} {dir : Path}

theorem runs_iff_isExecutable {p : Path} :
    fs.isExecutable here p = true ↔
      (∃ content mode, fs.find here p = .ok (.file content mode) ∧
        ∃ bit ∈ executeBits, mode.testBit bit = true) ∨
      ∃ program, fs.find here p = .ok (.program program) := by
  rw [isExecutable_iff]
  constructor
  · rintro ⟨node, hfind, ⟨content, mode, rfl, hmode⟩ | ⟨program, rfl⟩⟩
    · exact .inl ⟨content, mode, hfind, (and_executeMask_ne_zero_iff mode).1 hmode⟩
    · exact .inr ⟨program, hfind⟩
  · rintro (⟨content, mode, hfind, hbits⟩ | ⟨program, hfind⟩)
    · exact ⟨_, hfind, .inl ⟨content, mode, rfl, (and_executeMask_ne_zero_iff mode).2 hbits⟩⟩
    · exact ⟨_, hfind, .inr ⟨program, rfl⟩⟩

/-- A directory is passed over exactly if it does not provide the command. -/
theorem passedOver_iff : PassedOver fs here name dir ↔ ¬Provides fs here name dir := by
  constructor
  · rintro hpassed ⟨⟨entries, hlist, hmem⟩, hruns⟩
    cases hpassed with
    | unlisted hunlisted => nomatch hlist.symm.trans hunlisted
    | absent hlisted habsent =>
        obtain rfl := Except.ok.inj (hlist.symm.trans hlisted)
        exact habsent hmem
    | dangling hfind => simp [hfind] at hruns
    | irregular hfind hfile hprogram =>
        rcases hruns with ⟨content, mode, hfound, -⟩ | ⟨program, hfound⟩
        · exact hfile content mode (Except.ok.inj (hfind.symm.trans hfound))
        · exact hprogram program (Except.ok.inj (hfind.symm.trans hfound))
    | notExecutable hfind hbits =>
        rcases hruns with ⟨content, mode, hfound, bit, hbit, hset⟩ | ⟨program, hfound⟩
        · obtain ⟨rfl, rfl⟩ := Node.file.inj (Except.ok.inj (hfind.symm.trans hfound))
          rw [hbits bit hbit] at hset
          nomatch hset
        · nomatch hfind.symm.trans hfound
  · intro hprovides
    cases hlist : fs.list here dir with
    | error e => exact .unlisted hlist
    | ok entries =>
        by_cases hmem : utf8 name ∈ entries
        · cases hfind : fs.find here (dir.join (utf8 name)) with
          | error e => exact .dangling hfind
          | ok node =>
              cases node with
              | file content mode =>
                  apply PassedOver.notExecutable hfind
                  intro bit hbit
                  apply Bool.eq_false_iff.2
                  intro hset
                  exact hprovides
                    ⟨⟨entries, hlist, hmem⟩, .inl ⟨content, mode, hfind, bit, hbit, hset⟩⟩
              | program program =>
                  exact absurd ⟨⟨entries, hlist, hmem⟩, .inr ⟨program, hfind⟩⟩ hprovides
              | directory | link target | device d => exact .irregular hfind nofun nofun
        · exact .absent hlist hmem

/-- An empty element of a search path provides nothing. -/
theorem not_provides_nil : ¬Provides fs here name [] := by
  rintro ⟨⟨entries, hlist, -⟩, -⟩
  nomatch (fs.list_nil here).symm.trans hlist

theorem not_provides_of_empty (hname : name = "") : ¬Provides fs here name dir := by
  rintro ⟨-, hruns⟩
  have hexecutable := runs_iff_isExecutable.2 hruns
  rw [hname] at hexecutable
  exact Bool.false_ne_true ((fs.not_isExecutable_join_nil here dir).symm.trans hexecutable)

theorem not_provides_of_slash (hnamed : fs.Named) (hslash : '/' ∈ name.toList) :
    ¬Provides fs here name dir := by
  rintro ⟨⟨entries, hlist, hmem⟩, -⟩
  exact (hnamed.isName_of_list hlist hmem).2
    (mem_utf8_of_mem (show String.utf8EncodeChar '/' = [Path.slash] from rfl) hslash)

end Provide

/-! ## Listings in any order -/

/-- A directory that is listed twice: the entries may come in another order. -/
inductive Reordered : Except OsError (List Name) → Except OsError (List Name) → Prop where
  | unlisted (e : OsError) : Reordered (.error e) (.error e)
  | listed {entries others : List Name} : entries.Perm others → Reordered (.ok entries) (.ok others)

theorem Reordered.refl (fs : FileSystem) (here : Place) (dir : Path) :
    Reordered (fs.list here dir) (fs.list here dir) := by
  cases fs.list here dir with
  | error e => exact .unlisted e
  | ok entries => exact .listed (.refl entries)

/-- A listing without the entries whose names are no texts. -/
def Listing.texts (listing : Listing) : Listing := fun dir =>
  (listing dir).map (List.filter fun entry => entry.text?.isSome)

section Look

variable {fs : FileSystem} {here : Place} {listing : Listing} {name : String}

theorem findListed_eq_some_iff {dir program : Path}
    (hlisting : Reordered (fs.list here dir) (listing dir)) :
    findListed fs here listing name dir = some program ↔
      Provides fs here name dir ∧ program = dir.join (utf8 name) := by
  rw [findListed]
  constructor
  · intro hfind
    split at hfind
    · cases hfind
    · rename_i others hothers
      obtain ⟨hmem, hexecutable, rfl⟩ := findAmong_eq_some_iff.1 hfind
      rw [hothers] at hlisting
      generalize hlist : fs.list here dir = listed at hlisting
      cases hlisting with
      | listed hperm =>
          exact ⟨⟨⟨_, hlist, hperm.mem_iff.2 hmem⟩, runs_iff_isExecutable.1 hexecutable⟩, rfl⟩
  · rintro ⟨⟨⟨entries, hlist, hmem⟩, hruns⟩, rfl⟩
    rw [hlist] at hlisting
    generalize listing dir = listed at hlisting ⊢
    cases hlisting with
    | listed hperm =>
        exact findAmong_eq_some_iff.2
          ⟨hperm.mem_iff.1 hmem, runs_iff_isExecutable.2 hruns, rfl⟩

theorem findListed_eq_none_iff {dir : Path}
    (hlisting : Reordered (fs.list here dir) (listing dir)) :
    findListed fs here listing name dir = none ↔ ¬Provides fs here name dir := by
  rw [Option.eq_none_iff_forall_ne_some]
  constructor
  · intro hnone hprovides
    exact hnone _ ((findListed_eq_some_iff hlisting).2 ⟨hprovides, rfl⟩)
  · intro hprovides program hfind
    exact hprovides ((findListed_eq_some_iff hlisting).1 hfind).1

/-- Entries that are no texts may as well not be there. -/
theorem findListed_texts (fs : FileSystem) (here : Place) (listing : Listing) (name : String)
    (dir : Path) :
    findListed fs here listing.texts name dir = findListed fs here listing name dir := by
  rw [findListed, findListed, Listing.texts]
  cases listing dir with
  | error e => rfl
  | ok entries =>
      change findAmong fs here name dir (entries.filter _) = findAmong fs here name dir entries
      apply Option.ext
      intro program
      rw [findAmong_eq_some_iff, findAmong_eq_some_iff, List.mem_filter]
      simp [Bytes.text?_utf8]

end Look

/-! ## The look-up -/

section LooksUp

variable (fs : FileSystem) (here : Place) (listing : Listing) (search : Bytes) (name : String)

/-- What can be relied on whatever a look-up has found. -/
structure LooksUp (found : Option Path) : Prop where
  first : ∀ program, found = some program ↔
    ∃ earlier dir later, search.splitOn colon = earlier ++ dir :: later ∧
      (∀ other ∈ earlier, ¬Provides fs here name other) ∧ Provides fs here name dir ∧
      program = dir.join (utf8 name)
  nowhere : found = none ↔ ∀ dir ∈ search.splitOn colon, ¬Provides fs here name dir
  /-- the order of the listings does not matter -/
  unordered : found = (ofPath search).lookup fs here name
  /-- what is passed over hides nothing behind it -/
  unhidden : ∀ earlier later, search.splitOn colon = earlier ++ later →
    (∀ dir ∈ earlier, PassedOver fs here name dir) →
    found = (⟨later⟩ : SearchPath).lookupListed fs here listing name
  empty : PassedOver fs here name []
  nameless : name = "" → found = none
  slashed : fs.Named → '/' ∈ name.toList → found = none
  /-- entries that are no texts neither are found nor keep others from it -/
  texts : found = (ofPath search).lookupListed fs here listing.texts name

variable {fs here listing} {search name}

theorem lookupListed_eq_none_iff {directories : List Path}
    (hlisting : ∀ dir, Reordered (fs.list here dir) (listing dir)) :
    (⟨directories⟩ : SearchPath).lookupListed fs here listing name = none ↔
      ∀ dir ∈ directories, ¬Provides fs here name dir := by
  rw [lookupListed, List.findSome?_eq_none_iff]
  exact forall₂_congr fun dir _ => findListed_eq_none_iff (hlisting dir)

theorem lookupListed_eq_some_iff {directories : List Path} {program : Path}
    (hlisting : ∀ dir, Reordered (fs.list here dir) (listing dir)) :
    (⟨directories⟩ : SearchPath).lookupListed fs here listing name = some program ↔
      ∃ earlier dir later, directories = earlier ++ dir :: later ∧
        (∀ other ∈ earlier, ¬Provides fs here name other) ∧ Provides fs here name dir ∧
        program = dir.join (utf8 name) := by
  rw [lookupListed, List.findSome?_eq_some_iff]
  constructor
  · rintro ⟨earlier, dir, later, hdirectories, hdir, hearlier⟩
    obtain ⟨hprovides, rfl⟩ := (findListed_eq_some_iff (hlisting dir)).1 hdir
    refine ⟨earlier, dir, later, hdirectories, fun other hother => ?_, hprovides, rfl⟩
    exact (findListed_eq_none_iff (hlisting other)).1 (hearlier other hother)
  · rintro ⟨earlier, dir, later, hdirectories, hearlier, hprovides, rfl⟩
    refine ⟨earlier, dir, later, hdirectories, ?_, fun other hother => ?_⟩
    · exact (findListed_eq_some_iff (hlisting dir)).2 ⟨hprovides, rfl⟩
    · exact (findListed_eq_none_iff (hlisting other)).2 (hearlier other hother)

/-- Listings that differ in order alone find the same. -/
theorem lookupListed_eq_lookup (directories : List Path)
    (hlisting : ∀ dir, Reordered (fs.list here dir) (listing dir)) :
    (⟨directories⟩ : SearchPath).lookupListed fs here listing name =
      (⟨directories⟩ : SearchPath).lookup fs here name := by
  apply Option.ext
  intro program
  rw [lookup, lookupListed_eq_some_iff hlisting, lookupListed_eq_some_iff (.refl fs here)]

theorem lookupListed_append {earlier later : List Path}
    (hlisting : ∀ dir, Reordered (fs.list here dir) (listing dir))
    (hpassed : ∀ dir ∈ earlier, PassedOver fs here name dir) :
    (⟨earlier ++ later⟩ : SearchPath).lookupListed fs here listing name =
      (⟨later⟩ : SearchPath).lookupListed fs here listing name := by
  have hearlier : earlier.findSome? (findListed fs here listing name) = none :=
    (lookupListed_eq_none_iff hlisting).2 fun dir hdir => passedOver_iff.1 (hpassed dir hdir)
  rw [lookupListed, lookupListed, List.findSome?_append, hearlier, Option.none_or]

/-- However directories are listed, a look-up finds the command in the first directory of
the search path that provides it, and nothing if there is none. -/
theorem lookup_first_match (fs : FileSystem) (here : Place) (search : Bytes) (name : String)
    {listing : Listing} (hlisting : ∀ dir, Reordered (fs.list here dir) (listing dir)) :
    LooksUp fs here listing search name
      ((ofPath search).lookupListed fs here listing name) where
  first program := lookupListed_eq_some_iff hlisting
  nowhere := lookupListed_eq_none_iff hlisting
  unordered := lookupListed_eq_lookup _ hlisting
  unhidden earlier later hsplit hpassed := by
    rw [ofPath, hsplit]
    exact lookupListed_append hlisting hpassed
  empty := passedOver_iff.2 not_provides_nil
  nameless hname := (lookupListed_eq_none_iff hlisting).2 fun _ _ => not_provides_of_empty hname
  slashed hnamed hslash :=
    (lookupListed_eq_none_iff hlisting).2 fun _ _ => not_provides_of_slash hnamed hslash
  texts := by
    rw [lookupListed, lookupListed, funext (findListed_texts fs here listing name)]

end LooksUp

/-- Directories with entries of one name, of which only the last two can be executed. -/
def manyTools : FileSystem where
  nodes := [([utf8 "folder"], .directory), ([utf8 "tool", utf8 "folder"], .directory),
    ([utf8 "plain"], .directory), ([utf8 "tool", utf8 "plain"], .file [] 0o644),
    ([utf8 "broken"], .directory), ([utf8 "tool", utf8 "broken"], .link (utf8 "gone")),
    ([utf8 "linked"], .directory), ([utf8 "tool" ++ [255], utf8 "linked"], .file [] 0o755),
    ([utf8 "script"], .file [] 0o610), ([utf8 "tool", utf8 "linked"], .link (utf8 "../script")),
    ([utf8 "later"], .directory), ([utf8 "tool", utf8 "later"], .program "cat")]

theorem lookup_first_match_reversed :
    let listing : Listing := fun dir => (manyTools.list Place.root dir).map List.reverse
    let search := utf8 ":gone:folder:plain:broken:linked:later"
    (∀ dir, Reordered (manyTools.list Place.root dir) (listing dir)) ∧
      listing (utf8 "linked") = .ok [utf8 "tool", utf8 "tool" ++ [255]] ∧
      LooksUp manyTools Place.root listing search "tool"
        ((ofPath search).lookupListed manyTools Place.root listing "tool") ∧
      (ofPath search).lookup manyTools Place.root "tool" = some (utf8 "linked/tool") ∧
      manyTools.Named := by
  intro listing search
  have hlisting : ∀ dir, Reordered (manyTools.list Place.root dir) (listing dir) := by
    intro dir
    change Reordered _ ((manyTools.list Place.root dir).map List.reverse)
    cases manyTools.list Place.root dir with
    | error e => exact .unlisted e
    | ok entries => exact .listed (List.reverse_perm entries).symm
  have hnamed : ∀ entry ∈ manyTools.nodes, ∀ name ∈ entry.1, name ≠ [] ∧ Path.slash ∉ name := by
    decide +kernel
  exact ⟨hlisting, by decide +kernel,
    lookup_first_match manyTools Place.root search "tool" hlisting, by decide +kernel, hnamed⟩

end SearchPath

end PipelineShell
