import PipelineShell.FileSystem.Descriptor
import PipelineShell.Proofs.ExistingFile
import PipelineShell.Proofs.InputLines

/-!
# The format of a history file

Writing a history puts a line feed behind each entry.  Reading takes the line feed
from each line and a carriage return before it, and drops blank lines.  So what was
written is read back if each entry is one line and does not end in a carriage return;
an entry that does comes back without it.
-/

namespace PipelineShell

namespace History

/-! ## Files of lines -/

/-- A line that is no entry: a text of blanks only. -/
def isBlankEntry (line : Bytes) : Bool := line.text?.any Text.isBlankLine

/-- A file of lines. -/
def fileOf (lines : List Bytes) : Bytes := lines.flatMap (· ++ [LineReader.lineFeed])

/-- The lines of a content that are entries. -/
def entryLines (content : Bytes) : List Bytes :=
  (contentLines content).filter fun line => !isBlankEntry line

theorem render_eq_fileOf (entries : List String) : render entries = fileOf (entries.map utf8) := by
  rw [fileOf, List.flatMap_map]
  rfl

theorem render_append (front entries : List String) :
    render (front ++ entries) = render front ++ render entries :=
  List.flatMap_append

theorem fileOf_cons (line : Bytes) (lines : List Bytes) :
    fileOf (line :: lines) = line ++ LineReader.lineFeed :: fileOf lines := by
  simp [fileOf]

/-- The lines of a text are texts. -/
theorem isSome_text?_of_mem_fileOf {lines : List Bytes} {rest : Bytes}
    (htext : (Bytes.text? (fileOf lines ++ rest)).isSome) :
    ∀ line ∈ lines, line.text?.isSome := by
  induction lines with
  | nil => nofun
  | cons line lines ih =>
      rw [fileOf_cons, List.append_assoc, List.cons_append, isSome_text?_cut] at htext
      exact List.forall_mem_cons.2 ⟨htext.1, ih htext.2⟩

/-- Lines that are texts are a text. -/
theorem isSome_text?_fileOf {lines : List Bytes} (htext : ∀ line ∈ lines, line.text?.isSome) :
    (fileOf lines).text?.isSome := by
  induction lines with
  | nil => exact Option.isSome_iff_exists.2 ⟨_, text?_nil⟩
  | cons line lines ih =>
      obtain ⟨hline, hlines⟩ := List.forall_mem_cons.1 htext
      rw [fileOf_cons, isSome_text?_cut]
      exact ⟨hline, ih hlines⟩

theorem isSome_text?_render (entries : List String) : (render entries).text?.isSome := by
  rw [render_eq_fileOf]
  apply isSome_text?_fileOf
  intro line hline
  obtain ⟨entry, -, rfl⟩ := List.mem_map.1 hline
  exact Option.isSome_iff_exists.2 ⟨entry, Bytes.text?_utf8 entry⟩

theorem decodeLines_cons {line : Bytes} {s : String} (hline : line.text? = some s)
    (lines : List Bytes) :
    decodeLines (line :: lines) = (s :: (decodeLines lines).1, (decodeLines lines).2) := by
  simp [decodeLines, hline]

/-- Lines that are texts are all decoded, and their entries are the lines again. -/
theorem decodeLines_of_text {lines : List Bytes} (htext : ∀ line ∈ lines, line.text?.isSome) :
    (decodeLines lines).2 = true ∧
      render ((decodeLines lines).1.filter fun line => !Text.isBlankLine line) =
        fileOf (lines.filter fun line => !isBlankEntry line) := by
  induction lines with
  | nil => exact ⟨rfl, rfl⟩
  | cons line lines ih =>
      obtain ⟨hline, hlines⟩ := List.forall_mem_cons.1 htext
      obtain ⟨s, hs⟩ := Option.isSome_iff_exists.1 hline
      obtain ⟨hall, hrender⟩ := ih hlines
      rw [decodeLines_cons hs]
      refine ⟨hall, ?_⟩
      have hblank : isBlankEntry line = Text.isBlankLine s := by simp [isBlankEntry, hs]
      rw [List.filter_cons, List.filter_cons, hblank]
      split
      · rw [fileOf_cons, ← hrender, Bytes.eq_utf8_of_text? hs, render_eq_fileOf, List.map_cons,
          fileOf_cons, ← render_eq_fileOf]
      · exact hrender

theorem all_of_decodeLines {lines : List Bytes} (hall : (decodeLines lines).2 = true) :
    ∀ line ∈ lines, line.text?.isSome := by
  simpa [decodeLines] using hall

section Load

variable {fs : FileSystem} {here : Place} {p : Path} {content : Bytes} {mode : Nat}

theorem load_of_file (hfile : fs.find here p = .ok (.file content mode)) :
    History.load fs here p =
      if (decodeLines (contentLines content)).2 then
        .ok (empty.record (decodeLines (contentLines content)).1).settle
      else .error .invalidText := by
  rw [load, readFrom, readFile_of_find hfile]
  cases hall : (decodeLines (contentLines content)).2 <;> simp [readContent, hall]

end Load

/-! ## The entries of a content -/

/-- The entries that are read from a content. -/
def entriesOf (content : Bytes) : List String :=
  (decodeLines (contentLines content)).1.filter fun line => !Text.isBlankLine line

theorem readContent_of_text (h : History) {content : Bytes} (htext : content.text?.isSome) :
    h.readContent content = (⟨h.entries ++ entriesOf content, h.appended⟩, .ok ()) := by
  have hall : (decodeLines (contentLines content)).2 = true :=
    (decodeLines_of_text fun _ hline => isSome_text?_of_mem_contentLines htext hline).1
  simp only [readContent, hall, if_true]
  rfl

theorem isBlankLine_of_mem_entriesOf {content : Bytes} {entry : String}
    (hentry : entry ∈ entriesOf content) : Text.isBlankLine entry = false := by
  simpa using (List.mem_filter.1 hentry).2

/-- No entry that is read holds a line feed. -/
theorem lineFeed_not_mem_of_mem_entriesOf {content : Bytes} {entry : String}
    (hentry : entry ∈ entriesOf content) : '\n' ∉ entry.toList := by
  have hdecoded : entry ∈ (decodeLines (contentLines content)).1 := (List.mem_filter.1 hentry).1
  obtain ⟨decoded, htaken, hsome⟩ := List.mem_filterMap.1 hdecoded
  obtain rfl : decoded = some entry := hsome
  obtain ⟨line, hline, htext⟩ := List.mem_map.1 ((List.takeWhile_sublist _).subset htaken)
  intro hfeed
  apply lineFeed_not_mem_of_mem_contentLines hline
  rw [Bytes.eq_utf8_of_text? htext]
  exact lineFeed_mem_utf8_iff.2 hfeed

/-! ## Reading what was written -/

/-- An entry without one carriage return at its end. -/
def withoutReturn (entry : String) : String :=
  if entry.toList.getLast? = some '\r' then String.ofList entry.toList.dropLast else entry

theorem withoutReturn_eq_self_iff {entry : String} :
    withoutReturn entry = entry ↔ entry.toList.getLast? ≠ some '\r' := by
  constructor
  · intro hsame hreturn
    obtain ⟨before, hentry⟩ := List.getLast?_eq_some_iff.1 hreturn
    have hlength := congrArg (fun s : String => s.toList.length) hsame
    simp [withoutReturn, hentry] at hlength
  · intro hreturn
    exact if_neg hreturn

/-- The bytes of an entry lose a carriage return as the entry does. -/
theorem text?_dropReturn_utf8 (entry : String) :
    (dropReturn (utf8 entry)).text? = some (withoutReturn entry) := by
  have hlast := getLast?_utf8 entry utf8EncodeChar_carriageReturn (by decide)
  by_cases hreturn : entry.toList.getLast? = some '\r'
  · obtain ⟨before, hentry⟩ := List.getLast?_eq_some_iff.1 hreturn
    have hbytes : utf8 entry = utf8 (String.ofList before) ++ [LineReader.carriageReturn] :=
      calc
        utf8 entry = utf8 (String.ofList (before ++ ['\r'])) := by
          rw [← hentry, String.ofList_toList]
        _ = utf8 (String.ofList before) ++ [LineReader.carriageReturn] := by
          rw [utf8_ofList, utf8_ofList, List.flatMap_append, List.flatMap_singleton,
            utf8EncodeChar_carriageReturn]
    rw [hbytes, dropReturn_concat, Bytes.text?_utf8, withoutReturn, if_pos hreturn, hentry,
      List.dropLast_concat]
  · rw [dropReturn_of_getLast? (mt hlast.1 hreturn), Bytes.text?_utf8, withoutReturn,
      if_neg hreturn]

theorem isBlankLine_withoutReturn (entry : String) :
    Text.isBlankLine (withoutReturn entry) = Text.isBlankLine entry := by
  by_cases hreturn : entry.toList.getLast? = some '\r'
  · obtain ⟨before, hentry⟩ := List.getLast?_eq_some_iff.1 hreturn
    have hblank : Text.isBlank '\r' = true := by decide
    simp [withoutReturn, Text.isBlankLine, hentry, hblank]
  · rw [withoutReturn, if_neg hreturn]

theorem contentLines_fileOf {lines : List Bytes} (hlines : ∀ line ∈ lines, LineReader.lineFeed ∉ line) :
    contentLines (fileOf lines) = lines.map dropReturn := by
  induction lines with
  | nil => rfl
  | cons line lines ih =>
      obtain ⟨hline, hrest⟩ := List.forall_mem_cons.1 hlines
      rw [fileOf_cons, contentLines_of_lineFeed hline, ih hrest, List.map_cons]

theorem decodeLines_dropReturn (entries : List String) :
    decodeLines ((entries.map utf8).map dropReturn) = (entries.map withoutReturn, true) := by
  induction entries with
  | nil => rfl
  | cons entry entries ih =>
      rw [List.map_cons, List.map_cons, decodeLines_cons (text?_dropReturn_utf8 entry), ih,
        List.map_cons]

/-- An entry that is a line of a file: it holds no line feed and does not end in a
carriage return. -/
def IsLine (entry : String) : Prop :=
  '\n' ∉ entry.toList ∧ entry.toList.getLast? ≠ some '\r'

instance (entry : String) : Decidable (IsLine entry) :=
  inferInstanceAs (Decidable ('\n' ∉ entry.toList ∧ entry.toList.getLast? ≠ some '\r'))

section RoundTrip

variable {entries : List String} (hblank : ∀ entry ∈ entries, Text.isBlankLine entry = false)
include hblank

/-- Entries of one line each are read back without a carriage return at their ends. -/
theorem entriesOf_render (hfeed : ∀ entry ∈ entries, '\n' ∉ entry.toList) :
    entriesOf (render entries) = entries.map withoutReturn := by
  have hlines : ∀ line ∈ entries.map utf8, LineReader.lineFeed ∉ line := by
    intro line hline hmem
    obtain ⟨entry, hentry, rfl⟩ := List.mem_map.1 hline
    exact hfeed entry hentry (lineFeed_mem_utf8_iff.1 hmem)
  rw [entriesOf, render_eq_fileOf, contentLines_fileOf hlines, decodeLines_dropReturn,
    List.filter_eq_self]
  intro shortened hshortened
  obtain ⟨entry, hentry, rfl⟩ := List.mem_map.1 hshortened
  rw [isBlankLine_withoutReturn, hblank entry hentry]
  rfl

/-- Entries are read back as they were written exactly if each is a line. -/
theorem entriesOf_render_eq_self_iff :
    entriesOf (render entries) = entries ↔ ∀ entry ∈ entries, IsLine entry := by
  constructor
  · intro hsame
    have hfeed : ∀ entry ∈ entries, '\n' ∉ entry.toList := by
      intro entry hentry
      have hread : entry ∈ entriesOf (render entries) := by rwa [hsame]
      exact lineFeed_not_mem_of_mem_entriesOf hread
    intro entry hentry
    have hmap : entries.map withoutReturn = entries.map id := by
      rw [List.map_id, ← entriesOf_render hblank hfeed, hsame]
    exact ⟨hfeed entry hentry,
      withoutReturn_eq_self_iff.1 (List.map_inj_left.1 hmap entry hentry)⟩
  · intro hentries
    calc
      entriesOf (render entries) = entries.map withoutReturn :=
        entriesOf_render hblank fun entry hentry => (hentries entry hentry).1
      _ = entries.map id := List.map_congr_left fun entry hentry =>
        withoutReturn_eq_self_iff.2 (hentries entry hentry).2
      _ = entries := List.map_id entries

end RoundTrip

/-! ## Histories in files -/

section Files

variable {fs written : FileSystem} {here : Place} {p : Path} {content : Bytes} {mode : Nat}

/-- A file loads if its content is a text, and then its entries count as appended. -/
theorem load_eq_ok_iff (hfile : fs.find here p = .ok (.file content mode)) {h : History} :
    History.load fs here p = .ok h ↔
      content.text?.isSome ∧ h = ⟨entriesOf content, (entriesOf content).length⟩ := by
  rw [load_of_file hfile]
  constructor
  · intro hload
    by_cases hall : (decodeLines (contentLines content)).2 = true
    · rw [if_pos hall] at hload
      exact ⟨isSome_text?_of_forall_contentLines (all_of_decodeLines hall),
        (Except.ok.inj hload).symm⟩
    · rw [if_neg hall] at hload
      nomatch hload
  · rintro ⟨htext, rfl⟩
    have hall : (decodeLines (contentLines content)).2 = true :=
      (decodeLines_of_text fun _ hline => isSome_text?_of_mem_contentLines htext hline).1
    rw [if_pos hall]
    rfl

theorem load_of_rendered {entries : List String}
    (hfile : fs.find here p = .ok (.file (render entries) mode)) :
    History.load fs here p =
      .ok ⟨entriesOf (render entries), (entriesOf (render entries)).length⟩ :=
  (load_eq_ok_iff hfile).2 ⟨isSome_text?_render entries, rfl⟩

theorem readFrom_of_text (h : History) (hfile : fs.find here p = .ok (.file content mode))
    (htext : content.text?.isSome) :
    h.readFrom fs here p = (⟨h.entries ++ entriesOf content, h.appended⟩, .ok ()) := by
  rw [readFrom, readFile_of_find hfile]
  exact readContent_of_text h htext

theorem readFrom_of_rendered (h : History) {entries : List String}
    (hfile : fs.find here p = .ok (.file (render entries) mode)) :
    h.readFrom fs here p = (⟨h.entries ++ entriesOf (render entries), h.appended⟩, .ok ()) :=
  readFrom_of_text h hfile (isSome_text?_render entries)

theorem record_append (h : History) (front rest : List String) :
    h.record (front ++ rest) = (h.record front).record rest := by
  rw [record, record, record, List.filter_append, List.append_assoc]

theorem foldl_push (texts : List String) (h : History) : texts.foldl push h = h.record texts := by
  induction texts generalizing h with
  | nil => rw [List.foldl_nil, record, List.filter_nil, List.append_nil]
  | cons text texts ih => rw [List.foldl_cons, ih, push, ← record_append, List.singleton_append]

/-- The history of some texts that have been entered. -/
def ofTexts (texts : List String) : History := texts.foldl push empty

theorem isBlankLine_of_mem_ofTexts {texts : List String} {entry : String}
    (hentry : entry ∈ (ofTexts texts).entries) : Text.isBlankLine entry = false := by
  rw [ofTexts, foldl_push] at hentry
  simpa using (List.mem_filter.1 hentry).2

/-- What was written to a file is read back without fail, and it is the same exactly if
every entry is a line. -/
theorem read_back_iff (texts : List String) (g : History)
    (hplace : ∀ d, fs.find here p ≠ .ok (.device d))
    (hwrite : (ofTexts texts).writeTo fs here p = (written, .ok ())) :
    (g.readFrom written here p).2 = .ok () ∧
      ((g.readFrom written here p).1.entries = g.entries ++ (ofTexts texts).entries ↔
        ∀ entry ∈ (ofTexts texts).entries, IsLine entry) ∧
      (History.load written here p =
          .ok ⟨(ofTexts texts).entries, (ofTexts texts).entries.length⟩ ↔
        ∀ entry ∈ (ofTexts texts).entries, IsLine entry) := by
  have hblank : ∀ entry ∈ (ofTexts texts).entries, Text.isBlankLine entry = false :=
    fun _ hentry => isBlankLine_of_mem_ofTexts hentry
  have hfile : ∃ mode, written.find here p =
      .ok (.file (render (ofTexts texts).entries) mode) := by
    rcases (find_of_store hwrite).2 with hfile | ⟨d, hdevice, -⟩
    · exact hfile
    · exact absurd hdevice (hplace d)
  obtain ⟨mode, hfile⟩ := hfile
  rw [readFrom_of_rendered g hfile, load_of_rendered hfile,
    ← entriesOf_render_eq_self_iff hblank]
  refine ⟨rfl, List.append_right_inj g.entries, ?_⟩
  constructor
  · intro hload
    exact congrArg entries (Except.ok.inj hload)
  · intro hsame
    rw [hsame]

end Files

theorem read_back_iff_sample :
    let h := ofTexts ["echo a | cat", " ", "pwd\r"]
    let stored := h.writeTo FileSystem.empty Place.root (utf8 "/h")
    (∀ d, FileSystem.empty.find Place.root (utf8 "/h") ≠ .ok (.device d)) ∧ stored.2 = .ok () ∧
      h.entries = ["echo a | cat", "pwd\r"] ∧
      ((empty.readFrom stored.1 Place.root (utf8 "/h")).1.entries = empty.entries ++ h.entries ↔
        ∀ entry ∈ h.entries, IsLine entry) := by
  have hplace : ∀ d, FileSystem.empty.find Place.root (utf8 "/h") ≠ .ok (.device d) := by
    have hnothing : FileSystem.empty.find Place.root (utf8 "/h") = .error .notFound := by
      decide +kernel
    intro d hdevice
    nomatch hnothing.symm.trans hdevice
  have hstored : ((ofTexts ["echo a | cat", " ", "pwd\r"]).writeTo FileSystem.empty Place.root
      (utf8 "/h")).2 = .ok () := by decide +kernel
  exact ⟨hplace, hstored, by decide +kernel,
    (read_back_iff _ empty hplace (Prod.ext rfl hstored)).2.1⟩

/-- A device takes every history and gives none back. -/
theorem not_read_back_of_null :
    let h := ofTexts ["a"]
    let stored := h.writeTo FileSystem.empty.attachDevices Place.root (utf8 "/dev/null")
    stored.2 = .ok () ∧ (∀ entry ∈ h.entries, IsLine entry) ∧
      (empty.readFrom stored.1 Place.root (utf8 "/dev/null")).1.entries ≠
        empty.entries ++ h.entries := by
  decide +kernel

section Restart

variable {fs written : FileSystem} {here : Place} {p : Path} {content : Bytes} {mode : Nat}

/-- A history that is saved over a file is in that file. -/
theorem find_of_save_of_file (hfile : fs.find here p = .ok (.file content mode)) {h : History}
    (hsave : h.save fs here p = (written, .ok ())) :
    ∃ mode, written.find here p = .ok (.file (render h.entries) mode) := by
  obtain ⟨hkeeps, hstored | ⟨d, hdevice⟩⟩ := find_of_save hsave
  · exact hstored
  · obtain ⟨node, hnode, hsame⟩ := FileSystem.find_of_keeps hkeeps hfile
    obtain rfl : node = .device d := Except.ok.inj (hnode.symm.trans hdevice)
    rcases hsame with hsame | ⟨-, content, mode, hsame⟩ <;> nomatch hsame

/-- A file loads exactly if its content is a text.  Then saving what was loaded over it
does not fail where nodes lie in directories, and loading again gives the entries without
one carriage return at their ends. -/
theorem load_save_load (hfile : fs.find here p = .ok (.file content mode)) :
    ((∃ first, History.load fs here p = .ok first) ↔ content.text?.isSome) ∧
      ∀ first, History.load fs here p = .ok first →
        (fs.Rooted here → ∃ written, first.save fs here p = (written, .ok ())) ∧
        ∀ written, first.save fs here p = (written, .ok ()) →
          History.load written here p =
            .ok ⟨first.entries.map withoutReturn, first.entries.length⟩ ∧
          (History.load written here p = History.load fs here p ↔
            ∀ entry ∈ first.entries, entry.toList.getLast? ≠ some '\r') := by
  constructor
  · constructor
    · rintro ⟨first, hload⟩
      exact ((load_eq_ok_iff hfile).1 hload).1
    · intro htext
      exact ⟨_, (load_eq_ok_iff hfile).2 ⟨htext, rfl⟩⟩
  intro first hload
  refine ⟨fun hrooted => save_of_file hrooted hfile first, fun written hsave => ?_⟩
  obtain ⟨mode, hstored⟩ := find_of_save_of_file hfile hsave
  have hentries : first.entries = entriesOf content := by rw [((load_eq_ok_iff hfile).1 hload).2]
  have hsettled : first = ⟨first.entries, first.entries.length⟩ := by
    rw [hentries, ((load_eq_ok_iff hfile).1 hload).2]
  have hagain : entriesOf (render first.entries) = first.entries.map withoutReturn := by
    rw [hentries]
    exact entriesOf_render (fun _ => isBlankLine_of_mem_entriesOf)
      fun _ => lineFeed_not_mem_of_mem_entriesOf
  have hreload : History.load written here p =
      .ok ⟨first.entries.map withoutReturn, first.entries.length⟩ := by
    rw [load_of_rendered hstored, hagain, List.length_map]
  refine ⟨hreload, ?_⟩
  calc
    History.load written here p = History.load fs here p ↔
        first.entries.map withoutReturn = first.entries.map id := by
      rw [hreload, hload, hsettled, List.map_id]
      simp
    _ ↔ ∀ entry ∈ first.entries, withoutReturn entry = entry := List.map_inj_left
    _ ↔ ∀ entry ∈ first.entries, entry.toList.getLast? ≠ some '\r' :=
      forall₂_congr fun _ _ => withoutReturn_eq_self_iff

end Restart

/-- A file system of one file. -/
def oneFile (content : Bytes) : FileSystem :=
  FileSystem.empty.insert [utf8 "h"] (.file content FileSystem.newFileMode)

theorem load_save_load_sample :
    let fs := oneFile (utf8 "a\r\n \nb")
    let first : History := ⟨["a", "b"], 2⟩
    fs.Rooted Place.root ∧
      fs.find Place.root (utf8 "/h") = .ok (.file (utf8 "a\r\n \nb") FileSystem.newFileMode) ∧
      History.load fs Place.root (utf8 "/h") = .ok first ∧
      ∃ written, first.save fs Place.root (utf8 "/h") = (written, .ok ()) ∧
        History.load written Place.root (utf8 "/h") = History.load fs Place.root (utf8 "/h") := by
  have hrooted : (oneFile (utf8 "a\r\n \nb")).Rooted Place.root :=
    FileSystem.rooted_of_nodes (by decide +kernel) (by decide +kernel)
  have hfile : (oneFile (utf8 "a\r\n \nb")).find Place.root (utf8 "/h") =
      .ok (.file (utf8 "a\r\n \nb") FileSystem.newFileMode) := by decide +kernel
  have hload : History.load (oneFile (utf8 "a\r\n \nb")) Place.root (utf8 "/h") =
      .ok ⟨["a", "b"], 2⟩ := by decide +kernel
  obtain ⟨hsaves, hreload⟩ := (load_save_load hfile).2 _ hload
  obtain ⟨written, hsave⟩ := hsaves hrooted
  exact ⟨hrooted, hfile, hload, written, hsave, (hreload written hsave).2.2 (by decide +kernel)⟩

/-- Each restart takes a carriage return from the end of an entry. -/
theorem return_lost_on_restart :
    let fs := oneFile (utf8 "a\r\r\n")
    let first : History := ⟨["a\r"], 1⟩
    History.load fs Place.root (utf8 "/h") = .ok first ∧
      (first.save fs Place.root (utf8 "/h")).2 = .ok () ∧
      History.load (first.save fs Place.root (utf8 "/h")).1 Place.root (utf8 "/h") =
        .ok ⟨["a"], 1⟩ := by
  decide +kernel

end History

end PipelineShell
