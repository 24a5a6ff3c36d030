import PipelineShell.Proofs.HistoryFile

/-!
# Reading any file as a history

A file is cut behind each of its line feeds, and the pieces are read one after another.
A piece that is a text gives its line, which is recorded as it is unless it is blank; the
first piece that is no text ends the reading, and what was recorded before it stays.  Since
a line feed is no part of a longer character, this is what decoding the lines of the whole
file gives.
-/

namespace PipelineShell

open LineReader (lineFeed carriageReturn)

/-! ## The pieces of a content -/

/-- A content cut behind each of its line feeds.  What is left behind the last one is a
piece if it is not empty. -/
inductive Cut : Bytes → List Bytes → Prop where
  | empty : Cut [] []
  | unfinished {piece : Bytes} : piece ≠ [] → lineFeed ∉ piece → Cut piece [piece]
  | finished {line rest : Bytes} {pieces : List Bytes} : lineFeed ∉ line → Cut rest pieces →
      Cut (line ++ lineFeed :: rest) ((line ++ [lineFeed]) :: pieces)

/-- The line in a piece: the piece without a line feed at its end and without one carriage
return right before that. -/
inductive Holds : Bytes → Bytes → Prop where
  | unfinished {line : Bytes} : line.getLast? ≠ some lineFeed → Holds line line
  | finished {line : Bytes} : line.getLast? ≠ some carriageReturn → Holds (line ++ [lineFeed]) line
  | returned {line : Bytes} : Holds (line ++ [carriageReturn, lineFeed]) line

theorem exists_cut (content : Bytes) : ∃ pieces, Cut content pieces := by
  induction content using contentLines_induction with
  | empty => exact ⟨[], .empty⟩
  | unfinished piece hfeed hne => exact ⟨[piece], .unfinished hne hfeed⟩
  | finished line rest hline ih =>
      obtain ⟨pieces, hpieces⟩ := ih
      exact ⟨_, .finished hline hpieces⟩

/-- There is one way to cut a content. -/
theorem Cut.unique {content : Bytes} {pieces others : List Bytes} (hpieces : Cut content pieces)
    (hothers : Cut content others) : others = pieces := by
  induction hpieces generalizing others with
  | empty =>
      generalize hcontent : ([] : Bytes) = content at hothers
      cases hothers with
      | empty => rfl
      | unfinished hne hfeed => exact absurd hcontent.symm hne
      | finished hline hrest => exact absurd hcontent (by simp)
  | @unfinished piece hne hfeed =>
      generalize hcontent : piece = content at hothers
      cases hothers with
      | empty => exact absurd hcontent hne
      | unfinished => rw [← hcontent]
      | finished hline hrest => exact absurd (by simp [hcontent]) hfeed
  | @finished line rest pieces hline hrest ih =>
      generalize hcontent : line ++ lineFeed :: rest = content at hothers
      cases hothers with
      | empty => exact absurd hcontent (by simp)
      | unfinished hne hfeed => exact absurd (by simp [← hcontent]) hfeed
      | @finished line' rest' others hline' hrest' =>
          -- both begin with the first raw line of the content
          have hraw := congrArg LineReader.rawLine hcontent
          rw [rawLine_of_lineFeed hline, rawLine_of_lineFeed hline'] at hraw
          obtain rfl : line = line' := List.append_cancel_right hraw
          obtain rfl : rest = rest' := (List.cons.inj (List.append_cancel_left hcontent)).2
          rw [ih hrest']

theorem holds_iff {piece line : Bytes} : Holds piece line ↔ line = lineBody piece := by
  constructor
  · intro hholds
    cases hholds with
    | unfinished hfeed => rw [lineBody, if_neg hfeed]
    | finished hreturn =>
        rw [lineBody, if_pos List.getLast?_concat, List.dropLast_concat, dropReturn_of_getLast? hreturn]
    | returned =>
        rw [List.append_cons, lineBody, if_pos List.getLast?_concat, List.dropLast_concat,
          dropReturn_concat]
  · rintro rfl
    rw [lineBody]
    split
    · rename_i hfeed
      obtain ⟨line, rfl⟩ := List.getLast?_eq_some_iff.1 hfeed
      rw [List.dropLast_concat]
      by_cases hreturn : line.getLast? = some carriageReturn
      · obtain ⟨before, rfl⟩ := List.getLast?_eq_some_iff.1 hreturn
        rw [dropReturn_concat, List.append_assoc]
        exact .returned
      · rw [dropReturn_of_getLast? hreturn]
        exact .finished hreturn
    · rename_i hfeed
      exact .unfinished hfeed

/-- The lines of a content are those in its pieces. -/
theorem Cut.contentLines {content : Bytes} {pieces : List Bytes} (hcut : Cut content pieces) :
    contentLines content = pieces.map lineBody := by
  induction hcut with
  | empty => rfl
  | @unfinished piece hne hfeed =>
      have hlast : piece.getLast? ≠ some lineFeed := fun h => hfeed (List.mem_of_getLast? h)
      rw [contentLines_of_not_mem hfeed, if_neg (by simpa using hne), List.map_singleton, lineBody,
        if_neg hlast]
  | finished hline hrest ih =>
      rw [contentLines_of_lineFeed hline, ih, List.map_cons, lineBody,
        if_pos List.getLast?_concat, List.dropLast_concat]

/-- The line in a piece is a text if the piece is one. -/
theorem isSome_text?_lineBody (piece : Bytes) : (lineBody piece).text?.isSome ↔ piece.text?.isSome := by
  rw [text?_lineBody, Option.isSome_map]

theorem decodeLines_of_damaged {line : Bytes} (hline : line.text? = none) (lines : List Bytes) :
    decodeLines (line :: lines) = ([], false) := by
  simp [decodeLines, hline]

namespace History

/-! ## Recording pieces -/

/-- Record the lines in some pieces, one after another. -/
inductive Takes : History → List Bytes → History → Except OsError Unit → Prop where
  | done {h : History} : Takes h [] h (.ok ())
  /-- the first piece that is no text ends the reading, whatever comes after it -/
  | damaged {h : History} {piece : Bytes} {pieces : List Bytes} : piece.text? = none →
      Takes h (piece :: pieces) h (.error .invalidText)
  | blank {h after : History} {piece line : Bytes} {text : String} {pieces : List Bytes}
      {result : Except OsError Unit} : Holds piece line → line.text? = some text →
      Text.isBlankLine text = true → Takes h pieces after result →
      Takes h (piece :: pieces) after result
  | entry {h after : History} {piece line : Bytes} {text : String} {pieces : List Bytes}
      {result : Except OsError Unit} : Holds piece line → line.text? = some text →
      Text.isBlankLine text = false → Takes ⟨h.entries ++ [text], h.appended⟩ pieces after result →
      Takes h (piece :: pieces) after result

/-- What decoding the lines in some pieces at once gives. -/
def recordPieces (h : History) (pieces : List Bytes) : History × Except OsError Unit :=
  (h.record (decodeLines (pieces.map lineBody)).1,
    if (decodeLines (pieces.map lineBody)).2 then .ok () else .error .invalidText)

theorem readContent_of_cut (h : History) {content : Bytes} {pieces : List Bytes}
    (hcut : Cut content pieces) : h.readContent content = h.recordPieces pieces := by
  rw [readContent, hcut.contentLines]
  rfl

theorem record_nil (h : History) : h.record [] = h := by
  rw [record, List.filter_nil, List.append_nil]

theorem recordPieces_cons (h : History) {piece : Bytes} {text : String}
    (htext : (lineBody piece).text? = some text) (pieces : List Bytes) :
    h.recordPieces (piece :: pieces) = (h.push text).recordPieces pieces := by
  simp only [recordPieces, List.map_cons, decodeLines_cons htext, push, ← record_append]
  rfl

theorem recordPieces_of_damaged (h : History) {piece : Bytes} (hpiece : piece.text? = none)
    (pieces : List Bytes) : h.recordPieces (piece :: pieces) = (h, .error .invalidText) := by
  have hline : (lineBody piece).text? = none := by rw [text?_lineBody, hpiece, Option.map_none]
  rw [recordPieces, List.map_cons, decodeLines_of_damaged hline, record_nil]
  rfl

theorem push_of_blank (h : History) {text : String} (htext : Text.isBlankLine text = true) :
    h.push text = h := by
  rw [push, record, List.filter_cons_of_neg (by simp [htext]), List.filter_nil, List.append_nil]

theorem push_of_entry (h : History) {text : String} (htext : Text.isBlankLine text = false) :
    h.push text = ⟨h.entries ++ [text], h.appended⟩ := by
  rw [push, record, List.filter_cons_of_pos (by simp [htext]), List.filter_nil]

/-- Decoding all lines at once is recording the pieces one after another. -/
theorem takes_iff {h after : History} {pieces : List Bytes} {result : Except OsError Unit} :
    Takes h pieces after result ↔ h.recordPieces pieces = (after, result) := by
  constructor
  · intro htakes
    induction htakes with
    | done => rw [recordPieces, List.map_nil]; exact congrArg (·, _) (record_nil _)
    | damaged hpiece => exact recordPieces_of_damaged _ hpiece _
    | blank hline htext hblank htakes ih =>
        rw [recordPieces_cons _ (holds_iff.1 hline ▸ htext), push_of_blank _ hblank, ih]
    | entry hline htext hblank htakes ih =>
        rw [recordPieces_cons _ (holds_iff.1 hline ▸ htext), push_of_entry _ hblank, ih]
  · induction pieces generalizing h with
    | nil =>
        intro hrecord
        obtain ⟨rfl, rfl⟩ := Prod.mk.inj hrecord
        rw [List.map_nil]
        exact (record_nil h).symm ▸ .done
    | cons piece pieces ih =>
        intro hrecord
        cases hpiece : piece.text? with
        | none =>
            have hdamaged := recordPieces_of_damaged h hpiece pieces
            obtain ⟨rfl, rfl⟩ := Prod.mk.inj (hdamaged.symm.trans hrecord)
            exact .damaged hpiece
        | some whole =>
            have hsome : (lineBody piece).text?.isSome :=
              (isSome_text?_lineBody piece).2 (by rw [hpiece]; rfl)
            obtain ⟨text, htext⟩ := Option.isSome_iff_exists.1 hsome
            rw [recordPieces_cons h htext] at hrecord
            cases hblank : Text.isBlankLine text with
            | true =>
                rw [push_of_blank h hblank] at hrecord
                exact .blank (holds_iff.2 rfl) htext hblank (ih hrecord)
            | false =>
                rw [push_of_entry h hblank] at hrecord
                exact .entry (holds_iff.2 rfl) htext hblank (ih hrecord)

section Takes

variable {h after : History} {pieces : List Bytes} {result : Except OsError Unit}

theorem Takes.appended (htakes : Takes h pieces after result) : after.appended = h.appended := by
  obtain ⟨rfl, -⟩ := Prod.mk.inj (takes_iff.1 htakes)
  rfl

/-- The reading gets to its end if every piece is a text. -/
theorem Takes.result_eq_ok_iff (htakes : Takes h pieces after result) :
    result = .ok () ↔ ∀ piece ∈ pieces, piece.text?.isSome := by
  have hall : (decodeLines (pieces.map lineBody)).2 = true ↔
      ∀ piece ∈ pieces, piece.text?.isSome := by
    simp [decodeLines, isSome_text?_lineBody]
  obtain ⟨-, rfl⟩ := Prod.mk.inj (takes_iff.1 htakes)
  rw [← hall]
  split <;> simp_all

/-- The first piece that is no text leaves what the pieces before it give. -/
theorem Takes.stop {good rest : List Bytes} {bad : Bytes}
    (hgood : ∀ piece ∈ good, piece.text?.isSome) (hbad : bad.text? = none)
    (htakes : Takes h (good ++ bad :: rest) after result) :
    result = .error .invalidText ∧ Takes h good after (.ok ()) := by
  have hdamaged : ∀ {piece line : Bytes} {text : String}, piece.text? = none →
      Holds piece line → line.text? ≠ some text := by
    intro piece line text hpiece hline htext
    rw [holds_iff.1 hline, text?_lineBody, hpiece] at htext
    cases htext
  induction good generalizing h with
  | nil =>
      cases htakes with
      | damaged => exact ⟨rfl, .done⟩
      | blank hline htext => exact absurd htext (hdamaged hbad hline)
      | entry hline htext => exact absurd htext (hdamaged hbad hline)
  | cons piece good ih =>
      obtain ⟨hpiece, hrest⟩ := List.forall_mem_cons.1 hgood
      cases htakes with
      | damaged hnone => simp [hnone] at hpiece
      | blank hline htext hblank hbehind =>
          obtain ⟨hresult, hbefore⟩ := ih hrest hbehind
          exact ⟨hresult, .blank hline htext hblank hbefore⟩
      | entry hline htext hblank hbehind =>
          obtain ⟨hresult, hbefore⟩ := ih hrest hbehind
          exact ⟨hresult, .entry hline htext hblank hbefore⟩

end Takes

/-! ## Reading a file -/

/-- What reading a file does to a history. -/
structure Reading (fs : FileSystem) (here : Place) (p : Path) (h after : History)
    (result : Except OsError Unit) : Prop where
  mark : after.appended = h.appended
  unread : ∀ e, fs.readFile here p = .error e → after = h ∧ result = .error e
  /-- the content is cut in one way, and its pieces are recorded in order -/
  takes : ∀ content, fs.readFile here p = .ok content → ∃ pieces, Cut content pieces ∧
    (∀ others, Cut content others → others = pieces) ∧ Takes h pieces after result
  complete : ∀ content pieces, fs.readFile here p = .ok content → Cut content pieces →
    (result = .ok () ↔ ∀ piece ∈ pieces, piece.text?.isSome)
  /-- the first piece that is no text ends the reading -/
  stops : ∀ content good bad rest, fs.readFile here p = .ok content →
    Cut content (good ++ bad :: rest) → (∀ piece ∈ good, piece.text?.isSome) → bad.text? = none →
    result = .error .invalidText ∧ Takes h good after (.ok ())

section Files

variable {fs : FileSystem} {here : Place} {p : Path}

theorem readFrom_of_readFile {content : Bytes} (hread : fs.readFile here p = .ok content)
    (h : History) : h.readFrom fs here p = h.readContent content := by
  rw [readFrom, hread]

theorem takes_readFrom {content : Bytes} {pieces : List Bytes}
    (hread : fs.readFile here p = .ok content) (hcut : Cut content pieces) (h : History) :
    Takes h pieces (h.readFrom fs here p).1 (h.readFrom fs here p).2 := by
  rw [readFrom_of_readFile hread, readContent_of_cut h hcut]
  exact takes_iff.2 rfl

theorem reading_readFrom (fs : FileSystem) (here : Place) (p : Path) (h : History) :
    Reading fs here p h (h.readFrom fs here p).1 (h.readFrom fs here p).2 where
  mark := by
    cases hread : fs.readFile here p with
    | error e => rw [readFrom, hread]
    | ok content =>
        obtain ⟨pieces, hcut⟩ := exists_cut content
        exact (takes_readFrom hread hcut h).appended
  unread := by
    intro e hread
    rw [readFrom, hread]
    exact ⟨rfl, rfl⟩
  takes := by
    intro content hread
    obtain ⟨pieces, hcut⟩ := exists_cut content
    exact ⟨pieces, hcut, fun _ hothers => hcut.unique hothers, takes_readFrom hread hcut h⟩
  complete := by
    intro content pieces hread hcut
    exact (takes_readFrom hread hcut h).result_eq_ok_iff
  stops := by
    intro content good bad rest hread hcut hgood hbad
    exact (takes_readFrom hread hcut h).stop hgood hbad

/-- Only a file that is missing cannot be found when it is read. -/
theorem readFile_eq_notFound_iff :
    fs.readFile here p = .error .notFound ↔ fs.find here p = .error .notFound := by
  rw [FileSystem.readFile, FileSystem.readStream]
  cases fs.find here p with
  | error e => simp [Except.map]
  | ok node =>
      cases node with
      | device d => cases d <;> simp [FileSystem.nodeText, Except.map]
      | directory | file content mode | link target | program name =>
          simp [FileSystem.nodeText, Except.map]

/-- Loading gives what reading gives into a new history, if it gets to its end. -/
theorem load_eq_ok_iff_readFrom {g : History} : History.load fs here p = .ok g ↔
    (∃ after, empty.readFrom fs here p = (after, .ok ()) ∧
        g = ⟨after.entries, after.entries.length⟩) ∨
      fs.find here p = .error .notFound ∧ g = empty := by
  rw [← readFile_eq_notFound_iff, load]
  cases hread : fs.readFile here p with
  | error e =>
      rw [readFrom, hread]
      cases e <;> simp [settle, empty, eq_comm]
  | ok content =>
      have hresult : (empty.readContent content).2 = .ok () ∨
          (empty.readContent content).2 = .error .invalidText := ite_eq_or_eq _ _ _
      rw [readFrom_of_readFile hread]
      rcases hcontent : empty.readContent content with ⟨after, result⟩
      rw [hcontent] at hresult
      rcases hresult with rfl | rfl <;> simp [settle, eq_comm]

end Files

/-- Every file is read in one way, whatever bytes it holds: its pieces are recorded one
after another up to the first that is no text.  Loading is reading all pieces into a new
history, of which every entry then counts as appended; a file that is missing is a new
history, and every other failure gives none. -/
theorem reading_and_loading (fs : FileSystem) (here : Place) (p : Path) :
    (∀ h : History, Reading fs here p h (h.readFrom fs here p).1 (h.readFrom fs here p).2) ∧
      ∀ g, History.load fs here p = .ok g ↔
        (∃ content pieces after, fs.readFile here p = .ok content ∧ Cut content pieces ∧
          Takes empty pieces after (.ok ()) ∧ g = ⟨after.entries, after.entries.length⟩) ∨
        fs.find here p = .error .notFound ∧ g = empty := by
  refine ⟨reading_readFrom fs here p, fun g => ?_⟩
  rw [load_eq_ok_iff_readFrom]
  apply or_congr_left
  constructor
  · rintro ⟨after, hread, rfl⟩
    cases hfile : fs.readFile here p with
    | error e =>
        rw [readFrom, hfile] at hread
        cases hread
    | ok content =>
        obtain ⟨pieces, hcut⟩ := exists_cut content
        have htakes := takes_readFrom hfile hcut empty
        rw [hread] at htakes
        exact ⟨content, pieces, after, rfl, hcut, htakes, rfl⟩
  · rintro ⟨content, pieces, after, hfile, hcut, htakes, rfl⟩
    refine ⟨after, ?_, rfl⟩
    rw [readFrom_of_readFile hfile, readContent_of_cut empty hcut]
    exact takes_iff.1 htakes

/-- A carriage return is part of a line unless it stands right before the line feed. -/
example : empty.readFrom (oneFile (utf8 "a\r\r\n \n\nb" ++ [carriageReturn])) Place.root (utf8 "/h") =
    (⟨["a\r", "b\r"], 0⟩, .ok ()) := by
  decide +kernel

end History

end PipelineShell
