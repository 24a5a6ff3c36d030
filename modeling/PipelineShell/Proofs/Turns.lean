import PipelineShell.Proofs.InputLines
import PipelineShell.Proofs.LineEffects

/-!
# A session turn by turn

A session is a sequence of turns, one for each line that is handled.  A turn takes
the first of the lines that are left, and what the line does to the world is what
the next turn starts from.  The session ends before a turn: when a line has asked to
leave, when no input is left, or when the next line is no text.
-/

namespace PipelineShell

/-- What may be left of the lines when a session ends so: after a wish to leave
anything, at the end of the input nothing, and else first a line that is no text. -/
def Ending.Allows : Ending → List (Option String) → Prop
  | .exit, _ => True
  | .endOfInput, rest => rest = []
  | .unreadable, rest => rest.head? = some none

namespace Session

/-- A line that was handled. -/
structure Turn where
  /-- the line as it was read -/
  typed : String
  /-- the world when the line has been read -/
  before : World
  after : World
  events : List Event

/-- The input that is left to be read. -/
def left (s : Session) : Bytes := s.buffered ++ s.world.input

/-- A line is handled. -/
def turn (settings : Settings) (w : World) (typed : String) : Turn :=
  ⟨typed, w, (handleLine settings w typed).1, (handleLine settings w typed).2⟩

theorem handleLine_eq_turn (settings : Settings) (w : World) (typed : String) :
    handleLine settings w typed =
      ((turn settings w typed).after, (turn settings w typed).events) := by
  simp only [turn]

/-- The session after a turn. -/
def next (settings : Settings) (s : Session) (buffered : Bytes) (turn : Turn) : Session :=
  ⟨turn.after, buffered, turn.events :: (s.note (promptEvents settings)).past⟩

/-- The turns of a session. -/
def turns (settings : Settings) (s : Session) : List Turn :=
  if s.world.state.exitRequested then []
  else match _h : LineReader.takeLine s.buffered s.world.input with
    | none => []
    | some (raw, buffered, rest) =>
      match LineReader.line? raw with
      | none => []
      | some typed =>
        let first := turn settings { s.world with input := rest } typed
        first :: turns settings (s.next settings buffered first)
termination_by s.buffered.length + s.world.input.length
decreasing_by
  have hlt := LineReader.takeLine_length_lt _h
  have hle := input_handleLine_le settings { s.world with input := rest } typed
  simp only [next, turn] at hle ⊢
  omega

/-- Why a session can end so: a line has asked to leave, no input is left, or the
next line is no text. -/
def EndsFor (final : Session) : Ending → Prop
  | .exit => final.world.state.exitRequested = true
  | .endOfInput => final.left = []
  | .unreadable => final.left ≠ [] ∧ typed? (lineBody (LineReader.rawLine final.left)) = none

/-- What is said when a session ends. -/
def partingEvents (settings : Settings) : Ending → List Event
  | .exit => []
  | .endOfInput => promptEvents settings ++ [.record (.info "接收到 EOF 信号，退出...")]
  | .unreadable => promptEvents settings ++
      [.record (.error ("读取输入失败: " ++ OsError.invalidText.message))]

/-- The first turn of a session, with what it leaves in the buffer. -/
structure Takes (settings : Settings) (s : Session) (first : Turn) (buffered : Bytes) : Prop where
  stays : s.world.state.exitRequested = false
  left_ne_nil : s.left ≠ []
  typed : typed? (lineBody (LineReader.rawLine s.left)) = some first.typed
  state : first.before.state = s.world.state
  files : first.before.files = s.world.files
  rest : buffered ++ first.before.input = s.left.drop (LineReader.rawLine s.left).length
  handled : handleLine settings first.before first.typed = (first.after, first.events)

theorem Takes.effect {settings : Settings} {s : Session} {first : Turn} {buffered : Bytes}
    (htakes : Takes settings s first buffered) :
    Effect settings first.before first.typed first.after first.events := by
  have heffect := effect_handleLine settings first.before first.typed
  rwa [htakes.handled] at heffect

/-- A session takes its turns and ends. -/
inductive Course (settings : Settings) : Session → List Turn → Session → Ending → Prop where
  /-- a line has asked to leave -/
  | exit {s : Session} : s.world.state.exitRequested = true → Course settings s [] s .exit
  /-- no input is left -/
  | endOfInput {s : Session} : s.world.state.exitRequested = false → s.left = [] →
      Course settings s []
        ((s.note (promptEvents settings)).log [.info "接收到 EOF 信号，退出..."]) .endOfInput
  /-- the next line is no text -/
  | unreadable {s : Session} : s.world.state.exitRequested = false → s.left ≠ [] →
      typed? (lineBody (LineReader.rawLine s.left)) = none →
      Course settings s [] ((s.note (promptEvents settings)).log
        [.error ("读取输入失败: " ++ OsError.invalidText.message)]) .unreadable
  /-- the next line is handled -/
  | handle {s final : Session} {first : Turn} {buffered : Bytes} {taken : List Turn}
      {ending : Ending} : Takes settings s first buffered →
      Course settings (s.next settings buffered first) taken final ending →
      Course settings s (first :: taken) final ending

theorem turns_eq (settings : Settings) {s : Session} (hexit : s.world.state.exitRequested = false) :
    turns settings s = match LineReader.takeLine s.buffered s.world.input with
      | none => []
      | some (raw, buffered, rest) => match LineReader.line? raw with
        | none => []
        | some typed =>
          turn settings { s.world with input := rest } typed ::
            turns settings (s.next settings buffered
              (turn settings { s.world with input := rest } typed)) := by
  rw [turns.eq_def, if_neg (by simp [hexit])]
  split <;> rename_i htake <;> rw [htake]

theorem run_eq (settings : Settings) {s : Session} (hexit : s.world.state.exitRequested = false) :
    run settings s = match LineReader.takeLine s.buffered s.world.input with
      | none => ((s.note (promptEvents settings)).log [.info "接收到 EOF 信号，退出..."], .endOfInput)
      | some (raw, buffered, rest) => match LineReader.line? raw with
        | none => ((s.note (promptEvents settings)).log
            [.error ("读取输入失败: " ++ OsError.invalidText.message)], .unreadable)
        | some typed =>
          run settings (s.next settings buffered
            (turn settings { s.world with input := rest } typed)) := by
  rw [run.eq_def, if_neg (by simp [hexit])]
  split
  · rename_i htake
    simp only [htake]
  · rename_i raw buffered rest htake
    cases hline : LineReader.line? raw <;> simp only [htake, hline, next, turn]

theorem course_run (settings : Settings) (s : Session) :
    Course settings s (turns settings s) (run settings s).1 (run settings s).2 := by
  induction s using turns.induct settings with
  | case1 s hexit =>
      rw [turns.eq_def, run.eq_def, if_pos hexit, if_pos hexit]
      exact .exit hexit
  | case2 s hexit htake =>
      have hstays : s.world.state.exitRequested = false := by simpa using hexit
      simp only [turns_eq settings hstays, run_eq settings hstays, htake]
      exact .endOfInput hstays (takeLine_eq_none.1 htake)
  | case3 s hexit raw buffered rest htake hline =>
      have hstays : s.world.state.exitRequested = false := by simpa using hexit
      obtain ⟨hleft, rfl, -⟩ := takeLine_eq_some htake
      simp only [turns_eq settings hstays, run_eq settings hstays, htake, hline]
      exact .unreadable hstays hleft ((line?_eq_typed? _).symm.trans hline)
  | case4 s hexit raw buffered rest htake typed hline first ih =>
      have hstays : s.world.state.exitRequested = false := by simpa using hexit
      obtain ⟨hleft, rfl, hrest⟩ := takeLine_eq_some htake
      simp only [turns_eq settings hstays, run_eq settings hstays, htake, hline]
      exact .handle ⟨hstays, hleft, (line?_eq_typed? _).symm.trans hline, rfl, rfl, hrest,
        handleLine_eq_turn settings _ _⟩ ih

/-! ## What holds of a whole session -/

namespace Course

variable {settings : Settings} {s final : Session} {taken : List Turn} {ending : Ending}

/-- A turn is taken while nobody has asked to leave, and does what its line does. -/
theorem effect (hcourse : Course settings s taken final ending) :
    ∀ turn ∈ taken, turn.before.state.exitRequested = false ∧
      Effect settings turn.before turn.typed turn.after turn.events := by
  induction hcourse with
  | exit | endOfInput | unreadable => exact fun _ hturn => absurd hturn List.not_mem_nil
  | handle htakes hcourse ih =>
      refine List.forall_mem_cons.2 ⟨⟨?_, htakes.effect⟩, ih⟩
      rw [htakes.state, htakes.stays]

/-- The history grows turn by turn. -/
theorem entries (hcourse : Course settings s taken final ending) :
    final.world.state.history.entries = s.world.state.history.entries ++
      taken.flatMap fun turn => recorded settings.executor turn.before turn.typed := by
  induction hcourse with
  | exit | endOfInput | unreadable => exact (List.append_nil _).symm
  | @handle s final first buffered taken ending htakes hcourse ih =>
      have hfirst := htakes.effect.entries
      rw [htakes.state] at hfirst
      rw [ih, List.flatMap_cons, ← List.append_assoc]
      exact congrArg (· ++ taken.flatMap _) hfirst

theorem events_note (s : Session) (events : List Event) :
    (s.note events).events = s.events ++ events := by
  simp [Session.events, note]

theorem events_log (s : Session) (records : List LogRecord) :
    (s.log records).events = s.events ++ records.map Event.record :=
  events_note _ _

theorem events_next (settings : Settings) (s : Session) (buffered : Bytes) (turn : Turn) :
    (s.next settings buffered turn).events =
      s.events ++ (promptEvents settings ++ turn.events) := by
  simp [Session.events, next, note]

/-- What happens in a session happens in its turns and when it ends. -/
theorem events (hcourse : Course settings s taken final ending) :
    final.events = s.events ++
      (taken.flatMap fun turn => promptEvents settings ++ turn.events) ++
      partingEvents settings ending := by
  induction hcourse with
  | exit => simp [partingEvents]
  | endOfInput | unreadable => simp [events_log, events_note, partingEvents]
  | handle htakes hcourse ih =>
      rw [ih, events_next, List.flatMap_cons]
      simp only [List.append_assoc]

/-- A turn is taken only if nobody has asked to leave. -/
theorem stays_of_cons {first : Turn} (hcourse : Course settings s (first :: taken) final ending) :
    s.world.state.exitRequested = false := by
  cases hcourse with
  | handle htakes => exact htakes.stays

/-- Only the last turn can ask to leave. -/
theorem stays (hcourse : Course settings s taken final ending) :
    ∀ turn ∈ taken.dropLast, turn.after.state.exitRequested = false := by
  induction hcourse with
  | exit | endOfInput | unreadable => exact fun _ hturn => absurd hturn List.not_mem_nil
  | @handle s final first buffered taken ending htakes hcourse ih =>
      cases taken with
      | nil => exact fun _ hturn => absurd hturn List.not_mem_nil
      | cons second taken => exact List.forall_mem_cons.2 ⟨hcourse.stays_of_cons, ih⟩

/-- A session ends so if a line asks to leave. -/
theorem ending_eq_exit_iff (hcourse : Course settings s taken final ending)
    (hstays : s.world.state.exitRequested = false) :
    ending = .exit ↔ ∃ turn ∈ taken, turn.after.state.exitRequested = true := by
  induction hcourse with
  | exit hexit => simp [hstays] at hexit
  | endOfInput | unreadable => simp
  | @handle s final first buffered taken ending htakes hcourse ih =>
      cases hexit : first.after.state.exitRequested with
      | false => simp [ih hexit, hexit]
      | true =>
          have hending : ending = .exit := by
            cases hcourse with
            | exit => rfl
            | endOfInput hno | unreadable hno =>
                exact absurd (hno.symm.trans hexit) Bool.false_ne_true
            | handle hnext => exact absurd (hnext.stays.symm.trans hexit) Bool.false_ne_true
          simp [hending, hexit]

/-- The line that asks to leave is the last one. -/
theorem last_of_exit (hcourse : Course settings s taken final .exit)
    (hstays : s.world.state.exitRequested = false) :
    ∃ last, taken.getLast? = some last ∧ last.after.state.exitRequested = true := by
  obtain ⟨turn, hturn, hexit⟩ := (hcourse.ending_eq_exit_iff hstays).1 rfl
  obtain ⟨front, last, rfl⟩ := (List.eq_nil_or_concat' taken).resolve_left
    (List.ne_nil_of_mem hturn)
  refine ⟨last, List.getLast?_concat, ?_⟩
  rcases List.mem_append.1 hturn with hfront | hself
  · have hno := hcourse.stays turn (by rwa [List.dropLast_concat])
    exact absurd (hno.symm.trans hexit) Bool.false_ne_true
  · rwa [← List.mem_singleton.1 hself]

/-- No session ends without a reason. -/
theorem endsFor (hcourse : Course settings s taken final ending) : final.EndsFor ending := by
  induction hcourse with
  | exit hexit => exact hexit
  | endOfInput hstays hleft => exact hleft
  | unreadable hstays hleft htyped => exact ⟨hleft, htyped⟩
  | handle htakes hcourse ih => exact ih

/-- The files at the end are those that the last turn has left. -/
theorem files (hcourse : Course settings s taken final ending) :
    final.world.files = (taken.getLast?.map fun turn => turn.after.files).getD s.world.files := by
  induction hcourse with
  | exit | endOfInput | unreadable => rfl
  | @handle s final first buffered taken ending htakes hcourse ih =>
      rw [ih, List.getLast?_cons]
      cases taken.getLast? <;> rfl

/-- Where no program reads of the input, the turns take its lines in order. -/
theorem lines (hcourse : Course settings s taken final ending)
    (hunread : ∀ turn ∈ taken, turn.after.input = turn.before.input) :
    ∃ rest, (contentLines s.left).map typed? = taken.map (fun turn => some turn.typed) ++ rest ∧
      ending.Allows rest := by
  induction hcourse with
  | exit => exact ⟨_, rfl, trivial⟩
  | @endOfInput s hstays hleft => exact ⟨[], by rw [hleft]; rfl, rfl⟩
  | @unreadable s hstays hleft htyped =>
      refine ⟨_, rfl, ?_⟩
      rw [contentLines_eq_cons hleft, List.map_cons, htyped]
      rfl
  | @handle s final first buffered taken ending htakes hcourse ih =>
      obtain ⟨hfirst, hunread⟩ := List.forall_mem_cons.1 hunread
      obtain ⟨more, hmore, hending⟩ := ih hunread
      refine ⟨more, ?_, hending⟩
      have hnext : (s.next settings buffered first).left =
          s.left.drop (LineReader.rawLine s.left).length :=
        (congrArg (buffered ++ ·) hfirst).trans htakes.rest
      rw [hnext] at hmore
      rw [contentLines_eq_cons htakes.left_ne_nil, List.map_cons, htakes.typed, hmore]
      rfl

end Course

end Session

end PipelineShell
