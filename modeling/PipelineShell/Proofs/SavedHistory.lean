import PipelineShell.Proofs.HistoryFile
import PipelineShell.Proofs.WholeSession

/-!
# What becomes of the history file

At the end of a session its file holds what was loaded and then what the session
has recorded.  A file with a line that is no text does not load at all, so that none
of its lines are there any more; a session that meets such a line in its input ends
without saving.
-/

namespace PipelineShell

namespace Session

open History

section Saved

variable {launcher : Environment → Place → Launcher} {config : Config} {colour : Bool}
  {process : Process} {journal : Journal}

/-- What a session starts with if its history file holds a content: all entries of
the file or none. -/
theorem render_opened {content : Bytes} {mode : Nat}
    (hfile : process.files.find process.here config.historyFile = .ok (.file content mode)) :
    render (opened config process journal).world.state.history.entries =
      if ∀ line ∈ contentLines content, line.text?.isSome then fileOf (entryLines content)
      else [] := by
  rw [history_opened, startHistory, load_of_file hfile]
  by_cases htext : ∀ line ∈ contentLines content, line.text?.isSome
  · obtain ⟨hall, hrender⟩ := decodeLines_of_text htext
    rw [if_pos htext, if_pos hall]
    exact hrender
  · rw [if_neg htext, if_neg fun hall => htext (all_of_decodeLines hall)]
    rfl

/-- What a session stores if it saves its history to a file. -/
theorem find_of_saved (hending : (ended launcher config colour process journal).2 ≠ .unreadable)
    (hsaved : (saved launcher config colour process journal).2 = .ok ()) :
    (ended launcher config colour process journal).1.world.files.Keeps
        (perform launcher config colour process journal).1.files ∧
      ((∃ mode, (perform launcher config colour process journal).1.files.find process.here
          config.historyFile =
            .ok (.file (render
              (ended launcher config colour process journal).1.world.state.history.entries) mode)) ∨
        ∃ d, (perform launcher config colour process journal).1.files.find process.here
          config.historyFile = .ok (.device d)) := by
  obtain ⟨records, hperform⟩ := perform_of_saved hending hsaved
  rw [hperform]
  -- the log is written before the history is saved
  have hwritten := (Journal.sameBut_stored
    (ended launcher config colour process journal).1.world.journal
    (ended launcher config colour process journal).1.world.files).keeps
  obtain ⟨hkeeps, hfind⟩ := find_of_save (Prod.ext rfl hsaved)
  exact ⟨hwritten.trans hkeeps, hfind⟩

/-- The entries of the old file begin the saved one exactly if all lines of the old
file are texts; if one is not, only what the session has recorded is saved. -/
theorem old_entries_saved_iff {content : Bytes} {mode : Nat}
    (hfile : process.files.find process.here config.historyFile = .ok (.file content mode))
    (hending : (ended launcher config colour process journal).2 ≠ .unreadable)
    (hkept : ∃ left mode, (ended launcher config colour process journal).1.world.files.find
      process.here config.historyFile = .ok (.file left mode))
    (hsaved : (saved launcher config colour process journal).2 = .ok ()) :
    ∃ stored mode, (perform launcher config colour process journal).1.files.find process.here
        config.historyFile = .ok (.file stored mode) ∧
      stored = (if ∀ line ∈ contentLines content, line.text?.isSome
          then fileOf (entryLines content) else []) ++
        render ((turnsOf launcher config colour process journal).flatMap fun turn =>
          recorded (settingsOf launcher config colour process).executor turn.before turn.typed) ∧
      (fileOf (entryLines content) <+: stored ↔
        ∀ line ∈ contentLines content, line.text?.isSome) := by
  obtain ⟨left, leftMode, hleft⟩ := hkept
  obtain ⟨hkeeps, ⟨mode, hfind⟩ | ⟨d, hdevice⟩⟩ := find_of_saved hending hsaved
  · have hstored : render
          (ended launcher config colour process journal).1.world.state.history.entries =
        (if ∀ line ∈ contentLines content, line.text?.isSome
          then fileOf (entryLines content) else []) ++
        render ((turnsOf launcher config colour process journal).flatMap fun turn =>
          recorded (settingsOf launcher config colour process).executor turn.before
            turn.typed) := by
      rw [(course_ended launcher config colour process journal).entries, render_append,
        render_opened hfile]
    refine ⟨_, mode, hfind, hstored, fun hbegins line hline => ?_, fun htext => ?_⟩
    · -- what is saved is a text, so that a file it begins with is one
      obtain ⟨rest, hrest⟩ := hbegins
      have hentries := isSome_text?_of_mem_fileOf (hrest ▸ isSome_text?_render _)
      by_cases hblank : isBlankEntry line = true
      · exact Option.isSome_of_any hblank
      · exact hentries line (List.mem_filter.2 ⟨hline, by simpa using hblank⟩)
    · rw [hstored, if_pos htext]
      exact List.prefix_append _ _
  · obtain ⟨node, hnode, hsame⟩ := FileSystem.find_of_keeps hkeeps hleft
    obtain rfl : node = .device d := Except.ok.inj (hnode.symm.trans hdevice)
    rcases hsame with hsame | ⟨-, content, mode, hsame⟩ <;> nomatch hsame

end Saved

theorem old_entries_saved_iff_sample :
    let process := sampleProcess (utf8 "old\n") (utf8 sampleText)
    process.files.find process.here sampleConfig.historyFile =
        .ok (.file (utf8 "old\n") FileSystem.newFileMode) ∧
      (ended startsNothing sampleConfig false process sampleJournal).2 ≠ .unreadable ∧
      (∃ left mode, (ended startsNothing sampleConfig false process
        sampleJournal).1.world.files.find process.here sampleConfig.historyFile =
          .ok (.file left mode)) ∧
      (saved startsNothing sampleConfig false process sampleJournal).2 = .ok () ∧
      ∃ stored mode, (perform startsNothing sampleConfig false process
          sampleJournal).1.files.find process.here sampleConfig.historyFile =
            .ok (.file stored mode) ∧
        (fileOf (entryLines (utf8 "old\n")) <+: stored ↔
          ∀ line ∈ contentLines (utf8 "old\n"), line.text?.isSome) := by
  have hfile : (sampleProcess (utf8 "old\n") (utf8 sampleText)).files.find Place.root (utf8 "/h") =
      .ok (.file (utf8 "old\n") FileSystem.newFileMode) := by decide +kernel
  have hending : (ended startsNothing sampleConfig false
      (sampleProcess (utf8 "old\n") (utf8 sampleText)) sampleJournal).2 ≠ .unreadable := by
    decide +kernel
  have hkept : (ended startsNothing sampleConfig false
      (sampleProcess (utf8 "old\n") (utf8 sampleText)) sampleJournal).1.world.files.find Place.root
        (utf8 "/h") = .ok (.file (utf8 "old\n") FileSystem.newFileMode) := by decide +kernel
  have hsaved : (saved startsNothing sampleConfig false
      (sampleProcess (utf8 "old\n") (utf8 sampleText)) sampleJournal).2 = .ok () := by
    decide +kernel
  obtain ⟨stored, mode, hstored, -, hiff⟩ :=
    old_entries_saved_iff hfile hending ⟨_, _, hkept⟩ hsaved
  exact ⟨hfile, hending, ⟨_, _, hkept⟩, hsaved, stored, mode, hstored, hiff⟩

/-- A byte that is no text costs all entries of the old file. -/
theorem old_entries_lost :
    let content := utf8 "old\n" ++ [0xFF, LineReader.lineFeed]
    let process := sampleProcess content (utf8 "exit\n")
    process.files.find process.here sampleConfig.historyFile =
        .ok (.file content FileSystem.newFileMode) ∧
      (ended startsNothing sampleConfig false process sampleJournal).1.world.files.find process.here
        sampleConfig.historyFile = .ok (.file content FileSystem.newFileMode) ∧
      (saved startsNothing sampleConfig false process sampleJournal).2 = .ok () ∧
      (perform startsNothing sampleConfig false process sampleJournal).2.2 = .exit ∧
      (perform startsNothing sampleConfig false process sampleJournal).1.files.find process.here
        sampleConfig.historyFile = .ok (.file (utf8 "exit\n") FileSystem.newFileMode) ∧
      ¬fileOf (entryLines content) <+: utf8 "exit\n" := by
  decide +kernel

/-! ## Sessions over any input -/

section Conduct

variable (launcher : Environment → Place → Launcher) (config : Config) (colour : Bool)
  (process : Process) (journal : Journal)

/-- What a session over any input does: it handles line after line, and saves its
history unless it ends before a line that is no text. -/
structure Conduct (taken : List Turn) (last : Session) (final : World) (ending : Ending) :
    Prop where
  /-- what each line does -/
  effect : ∀ turn ∈ taken, turn.before.state.exitRequested = false ∧
    Effect (settingsOf launcher config colour process) turn.before turn.typed turn.after turn.events
  /-- no line is handled after one that asks to leave -/
  stays : ∀ turn ∈ taken.dropLast, turn.after.state.exitRequested = false
  exit : ending = .exit ↔ ∃ turn ∈ taken, turn.after.state.exitRequested = true
  ends : last.EndsFor ending
  /-- where no program reads of the input, its lines are handled in order -/
  lines : (∀ turn ∈ taken, turn.after.input = turn.before.input) →
    ∃ rest, (contentLines process.input).map typed? =
      (taken.map fun turn => some turn.typed) ++ rest ∧ ending.Allows rest
  entries : final.state.history.entries =
    (startHistory config process.files process.here).1.entries ++ taken.flatMap fun turn =>
      recorded (settingsOf launcher config colour process).executor turn.before turn.typed
  /-- a history that can be saved is saved -/
  saves : ending ≠ .unreadable → (saved launcher config colour process journal).2 = .ok () →
    (∃ mode, final.files.find process.here config.historyFile =
      .ok (.file (render final.state.history.entries) mode)) ∨
      ∃ d, final.files.find process.here config.historyFile = .ok (.device d)
  /-- before a line that is no text the files stay as the last line has left them -/
  loses : ending = .unreadable → final.files =
    (taken.getLast?.map fun turn => turn.after.files).getD
      (opened config process journal).world.files

theorem conduct_perform :
    Conduct launcher config colour process journal (turnsOf launcher config colour process journal)
      (ended launcher config colour process journal).1
      (perform launcher config colour process journal).1
      (perform launcher config colour process journal).2.2 := by
  have hcourse := course_ended launcher config colour process journal
  obtain ⟨hstate, hending⟩ := state_perform launcher config colour process journal
  rw [hending]
  refine ⟨hcourse.effect, hcourse.stays,
    hcourse.ending_eq_exit_iff (stays_opened config process journal), hcourse.endsFor,
    hcourse.lines, ?_, fun hreadable hsaved => ?_, fun hunreadable => ?_⟩
  · rw [hstate, hcourse.entries, history_opened]
  · rw [hstate]
    exact (find_of_saved hreadable hsaved).2
  · rw [perform_of_unreadable hunreadable]
    exact hcourse.files

end Conduct

/-- A line that is no text ends the session, and what was recorded is lost. -/
theorem recorded_lost :
    let process := sampleProcess []
      (utf8 "echo a\n" ++ [0xFF, LineReader.lineFeed] ++ utf8 "echo b\n")
    (saved startsNothing sampleConfig false process sampleJournal).2 = .ok () ∧
      (turnsOf startsNothing sampleConfig false process sampleJournal).map Turn.typed = ["echo a"] ∧
      (perform startsNothing sampleConfig false process sampleJournal).2.2 = .unreadable ∧
      (perform startsNothing sampleConfig false process sampleJournal).1.state.history.entries =
        ["echo a"] ∧
      (perform startsNothing sampleConfig false process sampleJournal).1.files.find process.here
        sampleConfig.historyFile = .ok (.file [] FileSystem.newFileMode) := by
  decide +kernel

end Session

end PipelineShell
