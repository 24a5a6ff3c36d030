import PipelineShell.Proofs.FailureText
import PipelineShell.Proofs.StoredFile
import PipelineShell.Proofs.Turns

/-!
# Whole sessions

A session starts with the history of its file and ends by saving the history, unless
a line was no text.  Over a text that no program reads of, the lines are handled in
order up to the first that asks to leave, and what is recorded of them is what is
saved.
-/

namespace PipelineShell.Session

section Parts

variable (launcher : Environment → Place → Launcher) (config : Config) (colour : Bool)
  (process : Process) (journal : Journal)

/-- What stays the same in the session of a process. -/
def settingsOf : Settings :=
  ⟨⟨process.here, SearchPath.ofVariable (process.env.get? (utf8 "PATH")),
    launcher process.env process.here⟩, Theme.ofName colour config.theme, showsPrompt process.env⟩

/-- The session of a process before its first line. -/
def opened : Session :=
  let loading := startHistory config process.files process.here
  let state : ShellState := ⟨startDirectory process.here, config.home, loading.1, false⟩
  let world : World :=
    { state, files := process.files.attachInput process.input, input := process.input, journal }
  (⟨world, [], []⟩ : Session).log (loading.2 ++
    SearchPath.variableRecords (process.env.get? (utf8 "PATH")) ++
      [.debug ("初始化 " ++ programName ++ "...")])

/-- The turns of the session of a process. -/
def turnsOf : List Turn :=
  turns (settingsOf launcher config colour process) (opened config process journal)

/-- The session of a process after its last line, with how it ends. -/
def ended : Session × Ending :=
  run (settingsOf launcher config colour process) (opened config process journal)

/-- What saving the history at the end does to the files. -/
def saved : FileSystem × Except OsError Unit :=
  let w := (ended launcher config colour process journal).1.world.flush
  w.state.history.save w.files process.here config.historyFile

theorem course_ended : Course (settingsOf launcher config colour process)
    (opened config process journal) (turnsOf launcher config colour process journal)
    (ended launcher config colour process journal).1
    (ended launcher config colour process journal).2 :=
  course_run _ _

theorem stays_opened : (opened config process journal).world.state.exitRequested = false := rfl

theorem history_opened : (opened config process journal).world.state.history =
    (startHistory config process.files process.here).1 := rfl

theorem seenOn_opened (outlet : Outlet) :
    seenOn outlet (opened config process journal).events = [] := by
  rw [opened, Course.events_log, Executor.seenOn_append, Executor.seenOn_records]
  rfl

/-- Saving changes neither the state nor how the session ends. -/
theorem state_perform : (perform launcher config colour process journal).1.state =
      (ended launcher config colour process journal).1.world.state ∧
    (perform launcher config colour process journal).2.2 =
      (ended launcher config colour process journal).2 := by
  generalize hended : ended launcher config colour process journal = result
  obtain ⟨s, ending⟩ := result
  rw [ended, settingsOf, opened] at hended
  simp only [perform]
  rw [hended]
  have hsave : ∀ theme,
      (saveHistory config theme process.here s.world).1.state = s.world.state := by
    intro theme
    rw [saveHistory]
    split <;> rfl
  cases ending with
  | unreadable => exact ⟨rfl, rfl⟩
  | exit | endOfInput => exact ⟨hsave _, rfl⟩

variable {launcher config colour process journal}

theorem history_opened_of_load {loaded : History}
    (hload : History.load process.files process.here config.historyFile = .ok loaded) :
    (opened config process journal).world.state.history = loaded := by
  rw [history_opened, startHistory, hload]
  rfl

/-- A session that ends before a line that is no text saves nothing. -/
theorem perform_of_unreadable
    (hending : (ended launcher config colour process journal).2 = .unreadable) :
    perform launcher config colour process journal =
      ((ended launcher config colour process journal).1.world,
        (ended launcher config colour process journal).1.events, .unreadable) := by
  generalize hended : ended launcher config colour process journal = result at hending
  obtain ⟨s, ending⟩ := result
  obtain rfl : ending = .unreadable := hending
  rw [ended, settingsOf, opened] at hended
  simp only [perform]
  rw [hended]

/-- Every other session saves its history. -/
theorem perform_of_saved
    (hending : (ended launcher config colour process journal).2 ≠ .unreadable)
    (hsaved : (saved launcher config colour process journal).2 = .ok ()) :
    ∃ records, perform launcher config colour process journal =
      ({ (ended launcher config colour process journal).1.world.flush with
          files := (saved launcher config colour process journal).1 }.log records,
        (ended launcher config colour process journal).1.events ++ records.map .record,
        (ended launcher config colour process journal).2) := by
  rw [saved] at hsaved ⊢
  generalize hended : ended launcher config colour process journal = result at hending hsaved ⊢
  obtain ⟨s, ending⟩ := result
  rw [ended, settingsOf, opened] at hended
  generalize hsave : s.world.flush.state.history.save s.world.flush.files process.here
    config.historyFile = saving at hsaved ⊢
  obtain ⟨files, result⟩ := saving
  obtain rfl : result = .ok () := hsaved
  refine ⟨[.debug "历史记录保存成功", .debug ("退出 " ++ programName ++ "...")], ?_⟩
  simp only [perform]
  rw [hended]
  cases ending with
  | unreadable => exact absurd rfl hending
  | exit | endOfInput => simp [saveHistory, hsave, World.log, Journal.tell]

end Parts

/-! ## Sessions over a text -/

/-- What a session over a text does: the turns it takes, the world it leaves, what
happens in it and how it ends. -/
structure Recounts (settings : Settings) (text : String) (loaded : History) (taken : List Turn)
    (final : World) (events : List Event) (ending : Ending) : Prop where
  /-- the lines are handled in order, and all of them unless a line asks to leave -/
  lines : ∃ rest, contentLines (utf8 text) = (taken.map fun turn => utf8 turn.typed) ++ rest ∧
    (rest ≠ [] → ∃ last, taken.getLast? = some last ∧ last.after.state.exitRequested = true)
  /-- no line is handled after one that asks to leave -/
  stays : ∀ turn ∈ taken.dropLast, turn.after.state.exitRequested = false
  ends : ending = if taken.any (·.after.state.exitRequested) then .exit else .endOfInput
  /-- the history is what was loaded and what each line has recorded -/
  entries : final.state.history.entries = loaded.entries ++
    taken.flatMap fun turn => recorded settings.executor turn.before turn.typed
  /-- what each line does -/
  effect : ∀ turn ∈ taken, turn.before.state.exitRequested = false ∧
    Effect settings turn.before turn.typed turn.after turn.events
  /-- what is said of a line that fails is one line -/
  told : ∀ turn ∈ taken, ∀ e, Fails settings.executor turn.before (Text.trim turn.typed) e →
    '\n' ∉ (failureLine settings.theme e).toList
  /-- apart from prompts, only the lines themselves show anything -/
  seen : ∀ outlet, seenOn outlet events =
    (taken.flatMap fun turn =>
      seenOn outlet (promptEvents settings) ++ seenOn outlet turn.events) ++
    seenOn outlet (partingEvents settings ending)

/-- The lines of a text are handled as they stand there. -/
theorem lines_of_text {settings : Settings} {s final : Session} {taken : List Turn}
    {ending : Ending} (hcourse : Course settings s taken final ending)
    (hunread : ∀ turn ∈ taken, turn.after.input = turn.before.input) {text : String}
    (hleft : s.left = utf8 text) (hbackspace : '\x08' ∉ text.toList) :
    ending ≠ .unreadable ∧
      ∃ rest, contentLines (utf8 text) = (taken.map fun turn => utf8 turn.typed) ++ rest ∧
        (ending = .endOfInput → rest = []) := by
  have htyped : ∀ line ∈ contentLines (utf8 text), ∃ typed, typed? line = some typed ∧
      line = utf8 typed := by
    intro line hline
    have hno : 8 ∉ line := fun hmem => hbackspace
      (mem_of_mem_utf8 rfl (by decide) (mem_of_mem_contentLines hline hmem))
    have htext := isSome_text?_of_mem_contentLines (by simp [Bytes.text?_utf8]) hline
    obtain ⟨typed, htyped⟩ := Option.isSome_iff_exists.1 htext
    exact ⟨typed, (typed?_of_not_mem hno).trans htyped, Bytes.eq_utf8_of_text? htyped⟩
  obtain ⟨rest, hlines, hallows⟩ := hcourse.lines hunread
  rw [hleft] at hlines
  obtain ⟨front, back, hcut, hfront, rfl⟩ := List.map_eq_append_iff.1 hlines
  rw [hcut] at htyped
  have hread : front = taken.map fun turn => utf8 turn.typed := by
    have hself : ∀ line ∈ front, utf8 ((typed? line).getD "") = line := by
      intro line hline
      obtain ⟨typed, hsome, rfl⟩ := htyped line (List.mem_append_left _ hline)
      rw [hsome, Option.getD_some]
    calc front = front.map fun line => utf8 ((typed? line).getD "") :=
          by rw [List.map_congr_left hself, List.map_id']
      _ = (front.map typed?).map fun typed => utf8 (typed.getD "") := by rw [List.map_map]; rfl
      _ = taken.map fun turn => utf8 turn.typed := by rw [hfront, List.map_map]; rfl
  refine ⟨?_, back, hread ▸ hcut, ?_⟩
  · rintro rfl
    cases back with
    | nil => nomatch hallows
    | cons line back =>
        obtain ⟨typed, hsome, -⟩ := htyped line (by simp)
        simp [Ending.Allows, hsome] at hallows
  · rintro rfl
    exact List.map_eq_nil_iff.1 hallows

/-- A session over a text without backspaces, of which no program reads, whose
history loads and is saved.  What the log still writes then goes to another file, unless
the log is the history file. -/
theorem perform_of_text {launcher : Environment → Place → Launcher} {config : Config}
    {colour : Bool} {process : Process} {journal : Journal} {text : String} {loaded : History}
    (hinput : process.input = utf8 text) (hbackspace : '\x08' ∉ text.toList)
    (hload : History.load process.files process.here config.historyFile = .ok loaded)
    (hunread : ∀ turn ∈ turnsOf launcher config colour process journal,
      turn.after.input = turn.before.input)
    (hsaved : (saved launcher config colour process journal).2 = .ok ()) :
    let (final, events, ending) := perform launcher config colour process journal
    Recounts (settingsOf launcher config colour process) text loaded
        (turnsOf launcher config colour process journal) final events ending ∧
      ((∃ mode, final.files.find process.here config.historyFile =
          .ok (.file (History.render final.state.history.entries) mode)) ∨
        ∃ d, final.files.find process.here config.historyFile = .ok (.device d)) ∧
      ((∀ place, final.files.locate process.here config.historyFile = .ok place →
          final.journal.location? ≠ some place.location) →
        final.flush.files.find process.here config.historyFile =
          final.files.find process.here config.historyFile) := by
  have hcourse := course_ended launcher config colour process journal
  obtain ⟨hreadable, rest, hlines, hrest⟩ := lines_of_text hcourse hunread hinput hbackspace
  obtain ⟨records, hperform⟩ := perform_of_saved hreadable hsaved
  rw [hperform]
  have hexit : rest ≠ [] → (ended launcher config colour process journal).2 = .exit := by
    intro hne
    cases hending : (ended launcher config colour process journal).2 with
    | exit => rfl
    | endOfInput => exact absurd (hrest hending) hne
    | unreadable => exact absurd hending hreadable
  refine ⟨⟨⟨rest, hlines, fun hne => ?_⟩, hcourse.stays, ?_, ?_, hcourse.effect, ?_, ?_⟩, ?_,
    (Journal.sameBut_stored _ _).find⟩
  · rw [hexit hne] at hcourse
    exact hcourse.last_of_exit (stays_opened config process journal)
  · have hany := hcourse.ending_eq_exit_iff (stays_opened config process journal)
    rw [← List.any_eq_true] at hany
    cases hending : (ended launcher config colour process journal).2 with
    | exit => rw [if_pos (hany.1 hending)]
    | endOfInput =>
        rw [hending] at hany
        rw [if_neg fun h => nomatch hany.2 h]
    | unreadable => exact absurd hending hreadable
  · refine hcourse.entries.trans ?_
    rw [history_opened_of_load hload]
  · intro turn hturn e hfails
    have hline : utf8 turn.typed ∈ contentLines (utf8 text) :=
      hlines ▸ List.mem_append_left _ (List.mem_map_of_mem hturn)
    exact lineFeed_not_mem_failureLine hfails (fun hmem =>
      lineFeed_not_mem_of_mem_contentLines hline (mem_utf8_of_mem rfl hmem)) _ _
  · intro outlet
    rw [Executor.seenOn_append, Executor.seenOn_records, List.append_nil, hcourse.events,
      Executor.seenOn_append, Executor.seenOn_append, seenOn_opened, List.nil_append]
    congr 1
    simp only [seenOn, List.flatMap_assoc, List.flatMap_append]
  · exact (History.find_of_save (Prod.ext rfl hsaved)).2

/-- A process whose history file holds a content, with a file for its log. -/
def sampleProcess (content input : Bytes) : Process :=
  ⟨⟨[]⟩, (FileSystem.empty.attachDevices.insert [utf8 "h"]
    (.file content FileSystem.newFileMode)).insert [utf8 "log"] (.file [] FileSystem.newFileMode),
    Place.root, input⟩

def sampleConfig : Config :=
  ⟨"default", utf8 "/", utf8 "/h", "emacs", "info", utf8 "/logs", none⟩

/-- A log that is written to the file of a sample process. -/
def sampleJournal : Journal :=
  { setup := ⟨.file (.atEnd [utf8 "log"]), .info⟩, stamp := ⟨1, "2024-01-01", "00:00:00"⟩ }

/-- A launcher that starts no program. -/
def startsNothing : Environment → Place → Launcher := fun _ _ _ _ => .error .notFound

def sampleText : String := "echo a\n\n| b\nhistory -r /h | exit\nlater\n"

/-- A session with a blank line, a line that fails and a line that recalls and
asks to leave. -/
theorem perform_of_text_sample :
    let process := sampleProcess (utf8 "old\n") (utf8 sampleText)
    process.input = utf8 sampleText ∧ '\x08' ∉ sampleText.toList ∧
      History.load process.files process.here sampleConfig.historyFile = .ok ⟨["old"], 1⟩ ∧
      (∀ turn ∈ turnsOf startsNothing sampleConfig false process sampleJournal,
        turn.after.input = turn.before.input) ∧
      (saved startsNothing sampleConfig false process sampleJournal).2 = .ok () ∧
      let (final, events, ending) := perform startsNothing sampleConfig false process sampleJournal
      Recounts (settingsOf startsNothing sampleConfig false process) sampleText ⟨["old"], 1⟩
          (turnsOf startsNothing sampleConfig false process sampleJournal) final events ending ∧
        ((∃ mode, final.files.find process.here sampleConfig.historyFile =
            .ok (.file (History.render final.state.history.entries) mode)) ∨
          ∃ d, final.files.find process.here sampleConfig.historyFile = .ok (.device d)) ∧
        ((∀ place, final.files.locate process.here sampleConfig.historyFile = .ok place →
            final.journal.location? ≠ some place.location) →
          final.flush.files.find process.here sampleConfig.historyFile =
            final.files.find process.here sampleConfig.historyFile) := by
  have hbackspace : '\x08' ∉ sampleText.toList := by decide +kernel
  have hload : History.load (sampleProcess (utf8 "old\n") (utf8 sampleText)).files Place.root
      (utf8 "/h") = .ok ⟨["old"], 1⟩ := by decide +kernel
  have hunread : ∀ turn ∈ turnsOf startsNothing sampleConfig false
      (sampleProcess (utf8 "old\n") (utf8 sampleText)) sampleJournal,
      turn.after.input = turn.before.input := by
    decide +kernel
  have hsaved : (saved startsNothing sampleConfig false
      (sampleProcess (utf8 "old\n") (utf8 sampleText)) sampleJournal).2 = .ok () := by
    decide +kernel
  exact ⟨rfl, hbackspace, hload, hunread, hsaved,
    perform_of_text rfl hbackspace hload hunread hsaved⟩

example : (perform startsNothing sampleConfig false
    (sampleProcess (utf8 "old\n") (utf8 sampleText)) sampleJournal).1.state.history.entries =
      ["old", "echo a", "| b", "history -r /h | exit", "old"] := by
  decide +kernel

end PipelineShell.Session
