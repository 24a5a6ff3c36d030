import PipelineShell.Proofs.AppendedEntries

/-!
# Appending behind an unfinished line

An append writes at the end of a file, wherever that is.  Behind a finished line the
entries that were pending come back as lines of their own.  A file may also end in a line
without a line feed, which reading takes for an entry: then the first of the pending
entries continues that line, and the two come back as one entry.  All other entries come
back as they are.
-/

namespace PipelineShell

open LineReader (lineFeed)

namespace History

/-! ## Histories in use -/

/-- No entry is blank. -/
def NoBlank (h : History) : Prop := ∀ entry ∈ h.entries, Text.isBlankLine entry = false

theorem noBlank_record {h : History} (hblank : h.NoBlank) (lines : List String) :
    (h.record lines).NoBlank := by
  intro entry hentry
  rcases List.mem_append.1 hentry with hold | hnew
  · exact hblank entry hold
  · simpa using (List.mem_filter.1 hnew).2

theorem noBlank_readFrom {h : History} (hblank : h.NoBlank) (fs : FileSystem) (here : Place)
    (p : Path) : (h.readFrom fs here p).1.NoBlank := by
  rw [readFrom]
  cases fs.readFile here p with
  | error e => exact hblank
  | ok content => exact noBlank_record hblank _

theorem noBlank_empty : empty.NoBlank := nofun

theorem noBlank_of_starts {h : History} (hstarts : h.Starts) : h.NoBlank := by
  rcases hstarts with rfl | ⟨fs, here, p, hload⟩
  · exact noBlank_empty
  · have hread := noBlank_readFrom noBlank_empty fs here p
    rw [load] at hload
    split at hload <;> rename_i hfrom
    · cases hload
      rwa [hfrom] at hread
    · cases hload
      rwa [hfrom] at hread
    · cases hload

section Uses

variable {here : Place} {u : Usage}

theorem noBlank_perform (hblank : u.history.NoBlank) (op : Operation) :
    (u.perform here op).history.NoBlank := by
  cases op with
  | push line => exact noBlank_record hblank _
  | readFrom p => exact noBlank_readFrom hblank _ _ _
  | writeTo p | save p | list limit | disturb files => exact hblank
  | appendTo p =>
      rcases u.perform_appendTo_cases p with ⟨-, hdone⟩ | ⟨e, -, hunchanged⟩
      · rw [NoBlank, hdone.entries]
        exact hblank
      · rw [hunchanged]
        exact hblank

theorem noBlank_run (hblank : u.history.NoBlank) (ops : List Operation) :
    (u.run here ops).history.NoBlank := by
  induction ops generalizing u with
  | nil => exact hblank
  | cons op ops ih => exact ih (noBlank_perform hblank op)

end Uses

/-- A history that can be had: whatever is done with one from its start on. -/
def InUse (h : History) : Prop :=
  ∃ (start : History) (files : FileSystem) (here : Place) (ops : List Operation),
    start.Starts ∧ ((Usage.start start files).run here ops).history = h

theorem InUse.noBlank {h : History} (hused : h.InUse) : h.NoBlank := by
  obtain ⟨start, files, here, ops, hstarts, rfl⟩ := hused
  exact noBlank_run (noBlank_of_starts hstarts) ops

theorem isBlankLine_of_mem_pending {h : History} (hblank : h.NoBlank) {entry : String}
    (hentry : entry ∈ h.pending) : Text.isBlankLine entry = false :=
  hblank entry (List.mem_of_mem_drop hentry)

/-! ## The last line of a content -/

/-- A content without an unfinished line at its end. -/
def IsFinished (content : Bytes) : Prop := content = [] ∨ content.getLast? = some lineFeed

instance (content : Bytes) : Decidable (IsFinished content) :=
  inferInstanceAs (Decidable (content = [] ∨ content.getLast? = some lineFeed))

/-- The parts of a content: finished lines, and an unfinished one, which is empty if there
is none. -/
structure Parts (content : Bytes) (lines : List Bytes) (last : String) : Prop where
  content_eq : content = fileOf lines ++ utf8 last
  finished : ∀ line ∈ lines, lineFeed ∉ line
  text : ∀ line ∈ lines, line.text?.isSome
  unfinished : '\n' ∉ last.toList

theorem exists_parts {content : Bytes} (htext : content.text?.isSome) :
    ∃ lines last, Parts content lines last := by
  induction content using contentLines_induction with
  | empty => exact ⟨[], "", rfl, nofun, nofun, nofun⟩
  | unfinished piece hfeed hne =>
      obtain ⟨last, hlast⟩ := Option.isSome_iff_exists.1 htext
      have hpiece := Bytes.eq_utf8_of_text? hlast
      rw [hpiece, lineFeed_mem_utf8_iff] at hfeed
      exact ⟨[], last, hpiece, nofun, nofun, hfeed⟩
  | finished line rest hline ih =>
      obtain ⟨hlineText, hrestText⟩ := (isSome_text?_cut line rest).1 htext
      obtain ⟨lines, last, hparts⟩ := ih hrestText
      refine ⟨line :: lines, last, ?_, List.forall_mem_cons.2 ⟨hline, hparts.finished⟩,
        List.forall_mem_cons.2 ⟨hlineText, hparts.text⟩, hparts.unfinished⟩
      rw [fileOf_cons, List.append_assoc, List.cons_append, ← hparts.content_eq]

theorem fileOf_concat (lines : List Bytes) (line : Bytes) :
    fileOf (lines ++ [line]) = fileOf lines ++ line ++ [lineFeed] := by
  rw [fileOf, List.flatMap_append, List.flatMap_singleton, ← List.append_assoc]
  rfl

/-- Finished lines are finished. -/
theorem isFinished_fileOf (lines : List Bytes) : IsFinished (fileOf lines) := by
  rcases List.eq_nil_or_concat lines with rfl | ⟨front, line, rfl⟩
  · exact .inl rfl
  · rw [List.concat_eq_append, fileOf_concat]
    exact .inr List.getLast?_concat

theorem utf8_eq_nil_iff {s : String} : utf8 s = [] ↔ s = "" := by
  constructor
  · intro hempty
    exact utf8_injective (t := "") hempty
  · rintro rfl
    rfl

theorem Parts.isFinished_iff {content : Bytes} {lines : List Bytes} {last : String}
    (hparts : Parts content lines last) : IsFinished content ↔ last = "" := by
  rw [hparts.content_eq]
  constructor
  · intro hfinished
    by_contra hlast
    have hne : utf8 last ≠ [] := mt utf8_eq_nil_iff.1 hlast
    have hfeed : (utf8 last).getLast? = some lineFeed := by
      rw [← List.getLast?_append_of_ne_nil (fileOf lines) hne]
      exact hfinished.resolve_left (List.append_ne_nil_of_right_ne_nil _ hne)
    exact hparts.unfinished (lineFeed_mem_utf8_iff.1 (List.mem_of_getLast? hfeed))
  · rintro rfl
    exact (List.append_nil (fileOf lines)).symm ▸ isFinished_fileOf lines

/-! ## The entries of the parts -/

theorem contentLines_fileOf_append {lines : List Bytes}
    (hlines : ∀ line ∈ lines, lineFeed ∉ line) (rest : Bytes) :
    contentLines (fileOf lines ++ rest) = contentLines (fileOf lines) ++ contentLines rest := by
  induction lines with
  | nil => rfl
  | cons line lines ih =>
      obtain ⟨hline, hmore⟩ := List.forall_mem_cons.1 hlines
      rw [fileOf_cons, List.append_assoc, List.cons_append, contentLines_of_lineFeed hline,
        contentLines_of_lineFeed hline, ih hmore, List.cons_append]

theorem decodeLines_append {front : List Bytes} (htext : ∀ line ∈ front, line.text?.isSome)
    (lines : List Bytes) :
    (decodeLines (front ++ lines)).1 = (decodeLines front).1 ++ (decodeLines lines).1 := by
  induction front with
  | nil => rfl
  | cons line front ih =>
      obtain ⟨hline, hfront⟩ := List.forall_mem_cons.1 htext
      obtain ⟨s, hs⟩ := Option.isSome_iff_exists.1 hline
      rw [List.cons_append, decodeLines_cons hs, decodeLines_cons hs, ih hfront, List.cons_append]

/-- What stands behind finished lines is read as if it stood alone. -/
theorem entriesOf_fileOf_append {lines : List Bytes} (hlines : ∀ line ∈ lines, lineFeed ∉ line)
    (htext : ∀ line ∈ lines, line.text?.isSome) (rest : Bytes) :
    entriesOf (fileOf lines ++ rest) = entriesOf (fileOf lines) ++ entriesOf rest := by
  have hall : ∀ line ∈ contentLines (fileOf lines), line.text?.isSome :=
    fun _ => isSome_text?_of_mem_contentLines (isSome_text?_fileOf htext)
  rw [entriesOf, contentLines_fileOf_append hlines, decodeLines_append hall, List.filter_append]
  rfl

/-- An unfinished line is an entry unless it is blank. -/
theorem entriesOf_unfinished {last : String} (hlast : '\n' ∉ last.toList) :
    entriesOf (utf8 last) = [last].filter fun line => !Text.isBlankLine line := by
  have hfeed : lineFeed ∉ utf8 last := mt lineFeed_mem_utf8_iff.1 hlast
  rw [entriesOf, contentLines_of_not_mem hfeed]
  by_cases hempty : last = ""
  · rw [hempty]
    rfl
  · rw [if_neg (by simpa using mt utf8_eq_nil_iff.1 hempty),
      decodeLines_cons (Bytes.text?_utf8 last)]
    rfl

theorem Parts.entriesOf_eq {content : Bytes} {lines : List Bytes} {last : String}
    (hparts : Parts content lines last) :
    entriesOf content =
      entriesOf (fileOf lines) ++ [last].filter fun line => !Text.isBlankLine line := by
  rw [hparts.content_eq, entriesOf_fileOf_append hparts.finished hparts.text,
    entriesOf_unfinished hparts.unfinished]

/-! ## The entries behind an unfinished line -/

/-- Entries behind an unfinished line: the first of them continues it. -/
def continued (last : String) : List String → List String
  | [] => [last].filter fun line => !Text.isBlankLine line
  | first :: rest => (last ++ first) :: rest

theorem isBlankLine_append (s t : String) :
    Text.isBlankLine (s ++ t) = (Text.isBlankLine s && Text.isBlankLine t) := by
  rw [Text.isBlankLine, String.toList_append, List.all_append]
  rfl

/-- A line continued by an entry is a line. -/
theorem isLine_append {last first : String} (hlast : '\n' ∉ last.toList) (hfirst : IsLine first)
    (hblank : Text.isBlankLine first = false) : IsLine (last ++ first) := by
  have hne : first.toList ≠ [] := by
    intro hempty
    rw [Text.isBlankLine, hempty] at hblank
    cases hblank
  rw [IsLine, String.toList_append, List.getLast?_append_of_ne_nil _ hne]
  exact ⟨List.not_mem_append hlast hfirst.1, hfirst.2⟩

theorem render_cons (entry : String) (entries : List String) :
    render (entry :: entries) = utf8 entry ++ [lineFeed] ++ render entries :=
  List.flatMap_cons

theorem utf8_append_render (last first : String) (rest : List String) :
    utf8 last ++ render (first :: rest) = render ((last ++ first) :: rest) := by
  rw [render_cons, render_cons, utf8_append]
  simp only [List.append_assoc]

section Behind

variable {last : String} {pending : List String}

theorem entriesOf_behind (hlast : '\n' ∉ last.toList) (hlines : ∀ entry ∈ pending, IsLine entry)
    (hblank : ∀ entry ∈ pending, Text.isBlankLine entry = false) :
    entriesOf (utf8 last ++ render pending) = continued last pending := by
  cases pending with
  | nil => exact (List.append_nil (utf8 last)).symm ▸ entriesOf_unfinished hlast
  | cons first rest =>
      obtain ⟨hfirst, hrest⟩ := List.forall_mem_cons.1 hlines
      obtain ⟨hfirstBlank, hrestBlank⟩ := List.forall_mem_cons.1 hblank
      have hbothBlank : Text.isBlankLine (last ++ first) = false := by
        rw [isBlankLine_append, hfirstBlank, Bool.and_false]
      -- an unfinished line and finished ones behind it are finished lines themselves
      rw [utf8_append_render, continued]
      exact (entriesOf_render_eq_self_iff (List.forall_mem_cons.2 ⟨hbothBlank, hrestBlank⟩)).2
        (List.forall_mem_cons.2 ⟨isLine_append hlast hfirst hfirstBlank, hrest⟩)

/-- Only an empty line is not changed by an entry that continues it. -/
theorem continued_eq_iff :
    continued last pending = ([last].filter fun line => !Text.isBlankLine line) ++ pending ↔
      pending = [] ∨ last = "" := by
  cases pending with
  | nil => simp [continued]
  | cons first rest =>
      have hsame : last ++ first = first ↔ last = "" := by
        constructor
        · intro hsame
          have hbytes : utf8 last ++ utf8 first = [] ++ utf8 first := by rw [← utf8_append, hsame]; rfl
          exact utf8_eq_nil_iff.1 (List.append_cancel_right hbytes)
        · rintro rfl
          exact String.empty_append
      rw [continued, or_iff_right (List.cons_ne_nil first rest)]
      cases hblank : Text.isBlankLine last with
      | true => simp [hblank, hsame]
      | false =>
          have hlast : last ≠ "" := by
            rintro rfl
            cases hblank
          refine iff_of_false (fun heq => ?_) hlast
          have hlength := congrArg List.length heq
          simp [hblank] at hlength

end Behind

/-! ## Reading the file again -/

/-- What reading a file gives before and after an append. -/
structure ReadAgain (before after : FileSystem) (here : Place) (p : Path) (content : Bytes)
    (pending : List String) : Prop where
  /-- the bytes of the file stay, and the pending entries stand behind them -/
  file : ∃ mode, after.find here p = .ok (.file (content ++ render pending) mode)
  before_ok : (empty.readFrom before here p).2 = .ok ()
  after_ok : (empty.readFrom after here p).2 = .ok ()
  /-- the pending entries come back behind those that were read before exactly if there are
  none or the last line of the file was finished -/
  entries_iff : (empty.readFrom after here p).1.entries =
      (empty.readFrom before here p).1.entries ++ pending ↔ pending = [] ∨ IsFinished content
  /-- the first of them continues an unfinished line, and no other entry is changed -/
  continues : ∀ lines last, Parts content lines last →
    (empty.readFrom before here p).1.entries =
        entriesOf (fileOf lines) ++ [last].filter (fun line => !Text.isBlankLine line) ∧
      (empty.readFrom after here p).1.entries = entriesOf (fileOf lines) ++ continued last pending
  parts : ∃ lines last, Parts content lines last

section Append

variable {fs : FileSystem} {here : Place} {p : Path} {content : Bytes} {mode : Nat}

/-- An append that is done leaves the old content of a file and what was pending. -/
theorem find_of_appendTo {after : FileSystem} {h g : History}
    (hfile : fs.find here p = .ok (.file content mode))
    (happend : h.appendTo fs here p = ((g, after), .ok ())) :
    ∃ mode, after.find here p = .ok (.file (content ++ render h.pending) mode) := by
  rcases h.appendTo_cases fs here p with ⟨written, hstore, hdone⟩ | ⟨e, hfailed⟩
  · obtain rfl : written = after := (Prod.mk.inj (Prod.mk.inj (hdone.symm.trans happend)).1).2
    rcases (gains_of_store hstore).2 with ⟨old, mode, hfound, hbefore⟩ | ⟨d, hdevice, -⟩
    · rcases hbefore with hbefore | ⟨hnothing, -⟩
      · obtain ⟨rfl, -⟩ := Node.file.inj (Except.ok.inj (hbefore.symm.trans hfile))
        exact ⟨mode, hfound⟩
      · exact absurd hfile (hnothing _)
    · cases hdevice.symm.trans hfile
  · cases hfailed.symm.trans happend

/-- Where the parts of a content end in an unfinished line, what stands behind the content
continues that line. -/
theorem Parts.entriesOf_append {lines : List Bytes} {last : String} {pending : List String}
    (hparts : Parts content lines last) (hlines : ∀ entry ∈ pending, IsLine entry)
    (hblank : ∀ entry ∈ pending, Text.isBlankLine entry = false) :
    entriesOf (content ++ render pending) = entriesOf (fileOf lines) ++ continued last pending := by
  rw [hparts.content_eq, List.append_assoc, entriesOf_fileOf_append hparts.finished hparts.text,
    entriesOf_behind hparts.unfinished hlines hblank]

theorem isSome_text?_append_render (htext : content.text?.isSome) (entries : List String) :
    (content ++ render entries).text?.isSome := by
  obtain ⟨s, hs⟩ := Option.isSome_iff_exists.1 htext
  obtain ⟨t, ht⟩ := Option.isSome_iff_exists.1 (isSome_text?_render entries)
  rw [Bytes.eq_utf8_of_text? hs, Bytes.eq_utf8_of_text? ht, ← utf8_append]
  exact Option.isSome_iff_exists.2 ⟨_, Bytes.text?_utf8 _⟩

/-- Appending to a file of text does not fail where nodes lie in directories.  What is read
from the file then is what was read from it before and the pending entries, but for an
unfinished last line: the first pending entry continues it. -/
theorem append_read_again {h : History} (hused : h.InUse)
    (hfile : fs.find here p = .ok (.file content mode)) (htext : content.text?.isSome)
    (hlines : ∀ entry ∈ h.pending, IsLine entry) :
    (fs.Rooted here → (h.appendTo fs here p).2 = .ok ()) ∧
      ∀ g after, h.appendTo fs here p = ((g, after), .ok ()) →
        ReadAgain fs after here p content h.pending := by
  constructor
  · intro hrooted
    obtain ⟨written, hstore⟩ := store_of_file hrooted hfile true (render h.pending)
    rw [appendTo, ← pending, hstore]
  intro g after happend
  have hblank : ∀ entry ∈ h.pending, Text.isBlankLine entry = false :=
    fun _ => isBlankLine_of_mem_pending hused.noBlank
  obtain ⟨newMode, hfound⟩ := find_of_appendTo hfile happend
  have hbefore := readFrom_of_text empty hfile htext
  have hafter := readFrom_of_text empty hfound (isSome_text?_append_render htext h.pending)
  obtain ⟨lines, last, hparts⟩ := exists_parts htext
  refine ⟨⟨newMode, hfound⟩, by rw [hbefore], by rw [hafter], ?_, fun lines last hparts => ?_,
    lines, last, hparts⟩
  · calc
      (empty.readFrom after here p).1.entries =
            (empty.readFrom fs here p).1.entries ++ h.pending ↔
          entriesOf (content ++ render h.pending) = entriesOf content ++ h.pending := by
        rw [hbefore, hafter]
        rfl
      _ ↔ continued last h.pending =
            ([last].filter fun line => !Text.isBlankLine line) ++ h.pending := by
        rw [hparts.entriesOf_append hlines hblank, hparts.entriesOf_eq, List.append_assoc,
          List.append_right_inj]
      _ ↔ h.pending = [] ∨ last = "" := continued_eq_iff
      _ ↔ h.pending = [] ∨ IsFinished content := by rw [hparts.isFinished_iff]
  · rw [hbefore, hafter]
    exact ⟨hparts.entriesOf_eq, hparts.entriesOf_append hlines hblank⟩

end Append

theorem append_read_again_sample :
    let fs := oneFile (utf8 "old\n")
    let h : History := ⟨["a", "b"], 0⟩
    h.InUse ∧ fs.find Place.root (utf8 "/h") = .ok (.file (utf8 "old\n") FileSystem.newFileMode) ∧
      (utf8 "old\n").text?.isSome ∧ (∀ entry ∈ h.pending, IsLine entry) ∧ fs.Rooted Place.root ∧
      ∃ g after, h.appendTo fs Place.root (utf8 "/h") = ((g, after), .ok ()) ∧
        (empty.readFrom after Place.root (utf8 "/h")).1.entries =
          (empty.readFrom fs Place.root (utf8 "/h")).1.entries ++ ["a", "b"] := by
  have hused : InUse ⟨["a", "b"], 0⟩ :=
    ⟨empty, FileSystem.empty, Place.root, [.push "a", .push "b"], .inl rfl, by decide +kernel⟩
  have hfile : (oneFile (utf8 "old\n")).find Place.root (utf8 "/h") =
      .ok (.file (utf8 "old\n") FileSystem.newFileMode) := by decide +kernel
  have htext : (utf8 "old\n").text?.isSome := by decide +kernel
  have hlines : ∀ entry ∈ pending ⟨["a", "b"], 0⟩, IsLine entry := by decide +kernel
  have hrooted : (oneFile (utf8 "old\n")).Rooted Place.root :=
    FileSystem.rooted_of_nodes (by decide +kernel) (by decide +kernel)
  obtain ⟨hdone, hread⟩ := append_read_again hused hfile htext hlines
  exact ⟨hused, hfile, htext, hlines, hrooted, _, _, Prod.ext rfl (hdone hrooted),
    (hread _ _ (Prod.ext rfl (hdone hrooted))).entries_iff.2 (.inr (by decide +kernel))⟩

/-- An entry that is appended behind an unfinished line is no entry of its own. -/
theorem unfinished_line_continued :
    let fs := oneFile (utf8 "a")
    let h := empty.push "b"
    let appended := h.appendTo fs Place.root (utf8 "/h")
    fs.find Place.root (utf8 "/h") = .ok (.file (utf8 "a") FileSystem.newFileMode) ∧
      h.pending = ["b"] ∧ (∀ entry ∈ h.pending, IsLine entry) ∧ appended.2 = .ok () ∧
      empty.readFrom fs Place.root (utf8 "/h") = (⟨["a"], 0⟩, .ok ()) ∧
      empty.readFrom appended.1.2 Place.root (utf8 "/h") = (⟨["ab"], 0⟩, .ok ()) ∧
      (empty.readFrom appended.1.2 Place.root (utf8 "/h")).1.entries ≠
        (empty.readFrom fs Place.root (utf8 "/h")).1.entries ++ h.pending := by
  decide +kernel

end History

end PipelineShell
