import PipelineShell.Proofs.FirstMatch

/-!
# What `type` tells of a name

Running a name and telling what it is are two ways of classifying it.  They agree on every
name without a slash, and the line that is told leaves no doubt which case it is: a path
that a look-up finds has a slash in it, which is shown whatever bytes stand around it.  A
name with a slash is looked up like any other when it is told, and so it is told as not
found, although running it follows it as a path.
-/

namespace PipelineShell

/-! ## Paths as they are shown -/

namespace Bytes

theorem le_of_leader {first lo hi : UInt8} {size : Nat}
    (hleader : leader first = some (lo, hi, size)) : size = 1 ∨ 0x80 ≤ lo := by
  rw [leader] at hleader
  repeat' split at hleader
  all_goals cases hleader
  all_goals decide

theorem le_of_isTail {lo hi b : UInt8} (hlo : 0x80 ≤ lo) (htail : ¬(!isTail lo hi b) = true) :
    0x80 ≤ b := by
  have hbounds : lo ≤ b ∧ b ≤ hi := by simpa [isTail] using htail
  exact UInt8.le_trans hlo hbounds.1

/-- The bytes of a character after its first one are no ASCII bytes. -/
theorem le_of_mem_firstPiece {first b : UInt8} {rest : Bytes}
    (hmem : b ∈ rest.take (firstPiece first rest).2) : 0x80 ≤ b := by
  rw [firstPiece] at hmem
  split at hmem
  · simp at hmem
  rename_i lo hi size hleader
  split at hmem
  · simp at hmem
  rename_i hsize
  have hsecond : ∀ b, ¬(!isTail lo hi b) = true → 0x80 ≤ b := fun _ =>
    le_of_isTail ((le_of_leader hleader).resolve_left hsize)
  have hlater : ∀ b, ¬(!isTail 0x80 0xBF b) = true → 0x80 ≤ b := fun _ => le_of_isTail (by decide)
  repeat' split at hmem
  all_goals grind

/-- An ASCII byte is a piece of its own. -/
theorem exists_piece_of_mem {b : UInt8} (hascii : b < 0x80) (bytes : Bytes)
    (done : List (Piece × Bytes))
    (hmem : b ∈ bytes ∨ ∃ piece ∈ done, piece.1 = .char (Char.ofNat b.toNat)) :
    ∃ piece ∈ pieces.go bytes done, piece.1 = .char (Char.ofNat b.toNat) := by
  fun_induction pieces.go bytes done with
  | case1 done => simpa using hmem
  | case2 done first rest piece extra hpiece ih =>
      apply ih
      rcases hmem with hmem | ⟨shown, hshown, hchar⟩
      · rcases List.mem_cons.1 hmem with rfl | hrest
        · have halone : firstPiece b rest = (.char (Char.ofNat b.toNat), 0) := by
            simp [firstPiece, leader, hascii]
          rw [halone] at hpiece
          obtain ⟨rfl, rfl⟩ := Prod.mk.inj hpiece
          exact .inr ⟨_, List.mem_cons_self, rfl⟩
        · rw [← List.take_append_drop extra rest, List.mem_append] at hrest
          rcases hrest with htaken | hdropped
          · have htail : b ∈ rest.take (firstPiece first rest).2 := by rwa [hpiece]
            exact absurd hascii (UInt8.not_lt.2 (le_of_mem_firstPiece htail))
          · exact .inl hdropped
      · exact .inr ⟨shown, List.mem_cons_of_mem _ hshown, hchar⟩

theorem display_utf8 (s : String) : display (utf8 s) = s := by
  rw [display, text?_utf8]

end Bytes

namespace Path

theorem utf8EncodeChar_slash : String.utf8EncodeChar '/' = [slash] := rfl

/-- The slashes of a path are shown, whatever else it is made of. -/
theorem slash_mem_display {p : Path} (hslash : slash ∈ p) : '/' ∈ (Bytes.display p).toList := by
  rw [Bytes.display]
  split
  · rename_i s htext
    obtain rfl := Bytes.eq_utf8_of_text? htext
    exact mem_of_mem_utf8 utf8EncodeChar_slash (by decide) hslash
  · obtain ⟨⟨piece, taken⟩, hpiece, rfl⟩ :=
      Bytes.exists_piece_of_mem (by decide) p [] (.inl hslash)
    rw [String.toList_ofList]
    exact List.mem_map.2 ⟨_, hpiece, rfl⟩

theorem slash_mem_join {base : Path} (hbase : base ≠ []) (rel : Path) : slash ∈ base.join rel := by
  rw [join]
  split
  · rename_i habsolute
    exact List.mem_of_mem_head? (by simpa [isAbsolute] using habsolute)
  · split
    · rename_i hends
      have hlast : base.getLast? = some slash := by simpa [hbase] using hends
      exact List.mem_append_left _ (List.mem_of_getLast? hlast)
    · exact List.mem_append_right _ List.mem_cons_self

theorem isSome_text?_join {base rel : Path} (hbase : base.text?.isSome) (hrel : rel.text?.isSome) :
    (base.join rel).text?.isSome := by
  obtain ⟨front, hfront⟩ := Option.isSome_iff_exists.1 hbase
  obtain ⟨last, hlast⟩ := Option.isSome_iff_exists.1 hrel
  obtain rfl := Bytes.eq_utf8_of_text? hfront
  obtain rfl := Bytes.eq_utf8_of_text? hlast
  have hslashed : utf8 front ++ slash :: utf8 last = utf8 (front ++ "/" ++ last) := by
    rw [utf8_append, utf8_append, List.append_assoc]
    rfl
  rw [join, hslashed, ← utf8_append]
  repeat' split
  all_goals rw [Bytes.text?_utf8, Option.isSome_some]

end Path

/-- A path that a look-up finds lies below a directory, so that it has a slash. -/
theorem SearchPath.slash_mem_of_lookup {search : SearchPath} {fs : FileSystem} {here : Place}
    {name : String} {program : Path} (hlookup : search.lookup fs here name = some program) :
    Path.slash ∈ program := by
  obtain ⟨dir, -, hfind⟩ := List.exists_of_findSome?_eq_some hlookup
  obtain ⟨hprovides, rfl⟩ := (findListed_eq_some_iff (.refl fs here dir)).1 hfind
  apply Path.slash_mem_join
  rintro rfl
  exact not_provides_nil hprovides

/-! ## The three kinds of lines -/

namespace Builtin

theorem isLine_inj {name shown other : String} :
    name ++ " is " ++ shown ++ "\n" = name ++ " is " ++ other ++ "\n" ↔ shown = other := by
  rw [String.append_left_inj, String.append_right_inj]

theorem builtinLine_eq (name : String) :
    name ++ " is a shell builtin\n" = name ++ " is " ++ "a shell builtin" ++ "\n" := by
  rw [String.append_assoc, String.append_assoc]
  rfl

theorem notFoundLine_ne_isLine (name shown : String) :
    name ++ ": not found\n" ≠ name ++ " is " ++ shown ++ "\n" := by
  intro hsame
  rw [String.append_assoc, String.append_assoc, String.append_right_inj] at hsame
  have hfirst := congrArg (fun line => line.toList.head?) hsame
  simp at hfirst

section Describe

variable {around : Surroundings} {name : String}

theorem describe_cases (around : Surroundings) (name : String) :
    ((ofName? name).isSome ∧ describe around name = name ++ " is " ++ "a shell builtin" ++ "\n") ∨
    (ofName? name = none ∧ around.search.lookup around.files around.here name = none ∧
      describe around name = name ++ ": not found\n") ∨
    ∃ program, ofName? name = none ∧
      around.search.lookup around.files around.here name = some program ∧
      describe around name = name ++ " is " ++ program.display ++ "\n" := by
  cases hbuiltin : ofName? name with
  | some b =>
      rw [← builtinLine_eq]
      exact .inl ⟨rfl, by simp [describe, hbuiltin]⟩
  | none =>
      cases hlookup : around.search.lookup around.files around.here name with
      | none => exact .inr (.inl ⟨rfl, rfl, by simp [describe, hbuiltin, hlookup]⟩)
      | some program =>
          exact .inr (.inr ⟨program, rfl, rfl, by simp [describe, hbuiltin, hlookup]⟩)

theorem describe_eq_builtin_iff :
    describe around name = name ++ " is a shell builtin\n" ↔ (ofName? name).isSome := by
  rw [builtinLine_eq]
  obtain ⟨hbuiltin, hline⟩ | ⟨hbuiltin, -, hline⟩ | ⟨program, hbuiltin, hlookup, hline⟩ :=
    describe_cases around name
  · exact iff_of_true hline hbuiltin
  · rw [hline, hbuiltin]
    exact iff_of_false (notFoundLine_ne_isLine name _) Bool.false_ne_true
  · rw [hline, hbuiltin, isLine_inj]
    apply iff_of_false _ Bool.false_ne_true
    intro hsame
    have hslash := Path.slash_mem_display (SearchPath.slash_mem_of_lookup hlookup)
    rw [hsame] at hslash
    exact absurd hslash (by decide)

theorem describe_eq_notFound_iff :
    describe around name = name ++ ": not found\n" ↔
      ofName? name = none ∧ around.search.lookup around.files around.here name = none := by
  obtain ⟨hbuiltin, hline⟩ | ⟨hbuiltin, hlookup, hline⟩ | ⟨program, hbuiltin, hlookup, hline⟩ :=
    describe_cases around name
  · rw [hline]
    apply iff_of_false (notFoundLine_ne_isLine name _).symm
    simp [Option.ne_none_iff_isSome.2 hbuiltin]
  · exact iff_of_true hline ⟨hbuiltin, hlookup⟩
  · rw [hline, hlookup]
    exact iff_of_false (notFoundLine_ne_isLine name _).symm (by simp)

theorem describe_eq_path_iff {shown : String} (hslash : '/' ∈ shown.toList) :
    describe around name = name ++ " is " ++ shown ++ "\n" ↔ ofName? name = none ∧
      ∃ program, around.search.lookup around.files around.here name = some program ∧
        program.display = shown := by
  obtain ⟨hbuiltin, hline⟩ | ⟨hbuiltin, hlookup, hline⟩ | ⟨program, hbuiltin, hlookup, hline⟩ :=
    describe_cases around name
  · rw [hline, isLine_inj]
    apply iff_of_false
    · rintro rfl
      exact absurd hslash (by decide)
    · simp [Option.ne_none_iff_isSome.2 hbuiltin]
  · rw [hline, hlookup]
    exact iff_of_false (notFoundLine_ne_isLine name _) (by simp)
  · rw [hline, hlookup, isLine_inj]
    simp [hbuiltin]

end Describe

end Builtin

namespace Executor

variable {ex : Executor} {w : World} {name : String}

theorem resolve_eq_builtin_iff :
    (∃ b, ex.resolve w name = .builtin b) ↔ (Builtin.ofName? name).isSome := by
  rw [resolve, Option.isSome_iff_exists]
  split
  · rename_i b hbuiltin
    simp [hbuiltin]
  · rename_i hbuiltin
    rw [hbuiltin]
    apply iff_of_false
    · rintro ⟨b, hresolve⟩
      simp only at hresolve
      repeat' split at hresolve
      all_goals cases hresolve
    · rintro ⟨b, hb⟩
      cases hb

/-- A name without a slash is a builtin or what the search path has under it. -/
theorem resolve_of_plain (hplain : '/' ∉ name.toList) :
    ex.resolve w name =
      match Builtin.ofName? name, ex.search.lookup w.files ex.here name with
      | some b, _ => .builtin b
      | none, some program => .external program
      | none, none => .notFound := by
  rw [resolve]
  cases Builtin.ofName? name with
  | some b => rfl
  | none =>
      apply (if_neg (by simpa using hplain)).trans
      cases ex.search.lookup w.files ex.here name <;> rfl

theorem resolve_eq_external_iff (hplain : '/' ∉ name.toList) {program : Path} :
    ex.resolve w name = .external program ↔ Builtin.ofName? name = none ∧
      ex.search.lookup w.files ex.here name = some program := by
  rw [resolve_of_plain hplain]
  cases Builtin.ofName? name <;> cases ex.search.lookup w.files ex.here name <;> simp

theorem resolve_eq_notFound_iff (hplain : '/' ∉ name.toList) :
    ex.resolve w name = .notFound ↔ Builtin.ofName? name = none ∧
      ex.search.lookup w.files ex.here name = none := by
  rw [resolve_of_plain hplain]
  cases Builtin.ofName? name <;> cases ex.search.lookup w.files ex.here name <;> simp

theorem ofName?_of_slash (hslash : '/' ∈ name.toList) : Builtin.ofName? name = none := by
  rw [Builtin.ofName?, List.find?_eq_none]
  intro b hb hname
  obtain rfl : b.name = name := by simpa using hname
  have hplain : ∀ b ∈ Builtin.all, '/' ∉ b.name.toList := by decide
  exact hplain b hb hslash

theorem isSome_text?_of_lookup (htexts : ∀ dir ∈ ex.search.directories, dir.text?.isSome)
    {program : Path} (hlookup : ex.search.lookup w.files ex.here name = some program) :
    program.text?.isSome := by
  obtain ⟨-, dir, hdir, rfl⟩ := SearchPath.exists_of_lookup hlookup
  apply Path.isSome_text?_join (htexts dir hdir)
  rw [Bytes.text?_utf8, Option.isSome_some]

/-! ## What is told and what is run -/

/-- The line in which `type` tells what a name is, against what running the name means. -/
structure Tells (ex : Executor) (w : World) (name line : String) : Prop where
  builtin : line = name ++ " is a shell builtin\n" ↔ ∃ b, ex.resolve w name = .builtin b
  missing : '/' ∉ name.toList →
    (line = name ++ ": not found\n" ↔ ex.resolve w name = .notFound)
  /-- the path of a program cannot be taken for another answer -/
  slashed : '/' ∉ name.toList → ∀ p, ex.resolve w name = .external p → Path.slash ∈ p
  /-- paths that are shown alike are told alike -/
  program : '/' ∉ name.toList → ∀ p : Path, Path.slash ∈ p →
    (line = name ++ " is " ++ p.display ++ "\n" ↔
      ∃ found, ex.resolve w name = .external found ∧ found.display = p.display)
  /-- a path that is a text is told from every other one -/
  textProgram : '/' ∉ name.toList → (∀ dir ∈ ex.search.directories, dir.text?.isSome) →
    ∀ p : String, '/' ∈ p.toList →
      (line = name ++ " is " ++ p ++ "\n" ↔ ex.resolve w name = .external (utf8 p))
  /-- no directory has a name with a slash in it, but a path may lead to a program -/
  path : w.files.Named → '/' ∈ name.toList →
    line = name ++ ": not found\n" ∧ ∀ b, ex.resolve w name ≠ .builtin b

theorem tells_describe (ex : Executor) (w : World) (name : String) :
    ex.Tells w name (Builtin.describe ⟨w.files, ex.here, ex.search⟩ name) where
  builtin := Builtin.describe_eq_builtin_iff.trans resolve_eq_builtin_iff.symm
  missing hplain := Builtin.describe_eq_notFound_iff.trans (resolve_eq_notFound_iff hplain).symm
  slashed hplain program hresolve := by
    have hlookup : ex.search.lookup w.files ex.here name = some program :=
      ((resolve_eq_external_iff hplain).1 hresolve).2
    exact SearchPath.slash_mem_of_lookup hlookup
  program hplain p hslash := by
    rw [Builtin.describe_eq_path_iff (Path.slash_mem_display hslash)]
    simp only [resolve_eq_external_iff hplain, and_assoc, exists_and_left]
  textProgram hplain htexts p hslash := by
    rw [Builtin.describe_eq_path_iff hslash, resolve_eq_external_iff hplain]
    apply and_congr_right
    intro hbuiltin
    constructor
    · rintro ⟨program, hlookup, rfl⟩
      obtain ⟨s, htext⟩ := Option.isSome_iff_exists.1 (isSome_text?_of_lookup htexts hlookup)
      obtain rfl := Bytes.eq_utf8_of_text? htext
      rw [Bytes.display_utf8]
      exact hlookup
    · intro hlookup
      exact ⟨utf8 p, hlookup, Bytes.display_utf8 p⟩
  path hnamed hslash := by
    have hbuiltin := ofName?_of_slash hslash
    constructor
    · apply Builtin.describe_eq_notFound_iff.2 ⟨hbuiltin, ?_⟩
      exact (SearchPath.lookupListed_eq_none_iff (.refl w.files ex.here)).2
        fun _ _ => SearchPath.not_provides_of_slash hnamed hslash
    · intro b hresolve
      have hsome := resolve_eq_builtin_iff.1 ⟨b, hresolve⟩
      rw [hbuiltin] at hsome
      nomatch hsome

/-- What `type` shows of some names are their lines, in order; the line of a name without a
slash tells what running the name means. -/
theorem type_tells (ex : Executor) (w : World) (args : List String) :
    let outcome := Builtin.type.run args w.state ⟨w.files, ex.here, ex.search⟩
    ∃ lines, List.Forall₂ (ex.Tells w) args lines ∧ outcome.output = String.join lines ∧
      outcome.error = none := by
  intro outcome
  refine ⟨args.map (Builtin.describe ⟨w.files, ex.here, ex.search⟩), ?_, rfl, rfl⟩
  rw [List.forall₂_map_right_iff, List.forall₂_same]
  exact fun name _ => ex.tells_describe w name

/-- A name that is a path is told as not found, and running it starts a program. -/
theorem type_denies_path :
    let ex : Executor := ⟨Place.root, .ofPath (utf8 "/bin"), fun _ _ => .error .notFound⟩
    let w : World := {
      state := ⟨utf8 "/", none, History.empty, false⟩
      files := { nodes := [([utf8 "tool"], .file [] 0o755)] }
      input := [] }
    ex.resolve w "./tool" = .external (utf8 "/./tool") ∧
      (Builtin.type.run ["./tool"] w.state ⟨w.files, ex.here, ex.search⟩).output =
        "./tool: not found\n" ∧
      ¬((Builtin.type.run ["./tool"] w.state ⟨w.files, ex.here, ex.search⟩).output =
        "./tool: not found\n" ↔ ex.resolve w "./tool" = .notFound) := by
  decide +kernel

end Executor

end PipelineShell
