import PipelineShell.Builtin
import PipelineShell.Proofs.HistoryFile
import PipelineShell.Proofs.StoredFile

/-!
# What a builtin may change

A builtin changes only what it owns: `exit` the wish to leave, `cd` the working directory,
`history -r` the entries and `history -a` the mark.  One that fails leaves the state as it
was, but for a recall, which keeps what it has read before the first line that is no text.
What a builtin shows are whole lines, and an error is shown alone.
-/

namespace PipelineShell

/-! ## Whole lines -/

def EndsLine (text : String) : Prop :=
  ∃ body, text = body ++ "\n"

/-- Nothing, or lines of which the last one is ended too. -/
def WholeLines (text : String) : Prop :=
  text = "" ∨ EndsLine text

theorem EndsLine.append (front : String) {text : String} (htext : EndsLine text) :
    EndsLine (front ++ text) := by
  obtain ⟨body, rfl⟩ := htext
  exact ⟨front ++ body, String.append_assoc.symm⟩

theorem endsLine_concat (body : String) : EndsLine (body ++ "\n") :=
  ⟨body, rfl⟩

theorem wholeLines_join {lines : List String} (hlines : ∀ line ∈ lines, EndsLine line) :
    WholeLines (String.join lines) := by
  induction lines with
  | nil => exact .inl rfl
  | cons line lines ih =>
      obtain ⟨hline, hrest⟩ := List.forall_mem_cons.1 hlines
      rw [String.join_cons]
      rcases ih hrest with hnil | hends
      · rw [hnil, String.append_empty]
        exact .inr hline
      · exact .inr (hends.append line)

/-! ## Recalling a file -/

/-- Lines are texts up to the first that is not. -/
theorem decodeLines_cases (lines : List Bytes) :
    (∃ texts, lines = texts.map utf8 ∧ decodeLines lines = (texts, true)) ∨
      ∃ texts bad rest, lines = texts.map utf8 ++ bad :: rest ∧ bad.text? = none ∧
        decodeLines lines = (texts, false) := by
  induction lines with
  | nil => exact .inl ⟨[], rfl, rfl⟩
  | cons line lines ih =>
      cases hline : line.text? with
      | none => exact .inr ⟨[], line, lines, rfl, hline, by simp [decodeLines, hline]⟩
      | some text =>
          obtain rfl := Bytes.eq_utf8_of_text? hline
          rw [History.decodeLines_cons hline]
          rcases ih with ⟨texts, rfl, hdecoded⟩ | ⟨texts, bad, rest, rfl, hbad, hdecoded⟩
          · exact .inl ⟨text :: texts, rfl, by rw [hdecoded]⟩
          · exact .inr ⟨text :: texts, bad, rest, rfl, hbad, by rw [hdecoded]⟩

namespace History

/-- How a history comes back from a file, and with what result.  Blank lines are no entries. -/
inductive Recalls (fs : FileSystem) (here : Place) (p : Path) (h : History) :
    History → Except OsError Unit → Prop where
  | unread {e : OsError} : fs.readFile here p = .error e → Recalls fs here p h h (.error e)
  /-- a line is no text, and those before it are kept -/
  | cutShort {content bad : Bytes} {texts : List String} {rest : List Bytes} :
      fs.readFile here p = .ok content → contentLines content = texts.map utf8 ++ bad :: rest →
      bad.text? = none → Recalls fs here p h (h.record texts) (.error .invalidText)
  | complete {content : Bytes} {texts : List String} :
      fs.readFile here p = .ok content → contentLines content = texts.map utf8 →
      Recalls fs here p h (h.record texts) (.ok ())

theorem recalls_readFrom (h : History) (fs : FileSystem) (here : Place) (p : Path) :
    Recalls fs here p h (h.readFrom fs here p).1 (h.readFrom fs here p).2 := by
  rw [readFrom]
  cases hread : fs.readFile here p with
  | error e => exact .unread hread
  | ok content =>
      rcases decodeLines_cases (contentLines content) with
        ⟨texts, hlines, hdecoded⟩ | ⟨texts, bad, rest, hlines, hbad, hdecoded⟩
      · simp only [readContent, hdecoded]
        exact .complete hread hlines
      · simp only [readContent, hdecoded]
        exact .cutShort hread hlines hbad

end History

namespace Builtin

/-! ## What belongs to a builtin -/

section Frame

variable (state : ShellState) (around : Surroundings)

/-- The state that a builtin leaves when it succeeds. -/
inductive Changes : Builtin → List String → ShellState → Prop where
  | echo {args : List String} : Changes .echo args state
  | type {args : List String} : Changes .type args state
  | pwd {args : List String} : Changes .pwd args state
  | exit {args : List String} : Changes .exit args { state with exitRequested := true }
  | cd {args : List String} (cwd : Path) : Changes .cd args { state with cwd }
  | list : Changes .history [] state
  | listLast {count : String} {rest : List String} {n : Nat} :
      count? count = some n → Changes .history (count :: rest) state
  | recall {file : String} {rest : List String} {updated : History} :
      History.Recalls around.files around.here (state.cwd.join (utf8 file)) state.history updated
        (.ok ()) →
      Changes .history ("-r" :: file :: rest) { state with history := updated }
  | write {file : String} {rest : List String} : Changes .history ("-w" :: file :: rest) state
  | append {file : String} {rest : List String} :
      Changes .history ("-a" :: file :: rest) { state with history := state.history.settle }

/-- The state that a builtin leaves when it fails. -/
inductive Leaves : Builtin → List String → ShellState → Prop where
  | unchanged {b : Builtin} {args : List String} :
      (b = .history → ∀ file rest, args ≠ "-r" :: file :: rest) → Leaves b args state
  | recalled {file : String} {rest : List String} {updated : History} {e : OsError} :
      History.Recalls around.files around.here (state.cwd.join (utf8 file)) state.history updated
        (.error e) →
      Leaves .history ("-r" :: file :: rest) { state with history := updated }

/-- What can be relied on whatever a builtin does. -/
structure Frame (b : Builtin) (args : List String) (outcome : BuiltinOutcome) : Prop where
  output_lines : WholeLines outcome.output
  /-- an error is a line and comes with no output -/
  error_lines : ∀ error, outcome.error = some error → outcome.output = "" ∧ EndsLine error
  succeeded : outcome.error = none → Changes state around b args outcome.state
  failed : outcome.error ≠ none → Leaves state around b args outcome.state

variable {state around} {b : Builtin} {args : List String}

theorem frame_of_success {output : String} {after : ShellState} {files : FileSystem}
    {records : List LogRecord} (houtput : WholeLines output)
    (hchanges : Changes state around b args after) :
    Frame state around b args ⟨output, none, after, files, records⟩ where
  output_lines := houtput
  error_lines := nofun
  succeeded := fun _ => hchanges
  failed := fun herror => absurd rfl herror

theorem frame_of_failure {error : String} {after : ShellState} {files : FileSystem}
    {records : List LogRecord} (herror : EndsLine error)
    (hleaves : Leaves state around b args after) :
    Frame state around b args ⟨"", some error, after, files, records⟩ where
  output_lines := .inl rfl
  error_lines := by
    rintro found hfound
    obtain rfl := Option.some.inj hfound
    exact ⟨rfl, herror⟩
  succeeded := nofun
  failed := fun _ => hleaves

end Frame

/-! ## Each builtin -/

theorem endsLine_describe (around : Surroundings) (word : String) :
    EndsLine (describe around word) := by
  rw [describe]
  split
  · exact EndsLine.append word ⟨" is a shell builtin", rfl⟩
  · split
    · exact endsLine_concat _
    · exact EndsLine.append word ⟨": not found", rfl⟩

theorem wholeLines_list (h : History) (limit : Option Nat) : WholeLines (h.list limit) := by
  have hlisting : ∀ line ∈ h.listing, EndsLine line := by
    intro line hline
    obtain ⟨entry, -, rfl⟩ := List.mem_map.1 hline
    exact endsLine_concat _
  apply wholeLines_join
  intro line hline
  cases limit with
  | none => exact hlisting line hline
  | some n => exact hlisting line (List.mem_of_mem_drop hline)

theorem frame_runPwd (args : List String) (state : ShellState) (around : Surroundings) :
    Frame state around .pwd args (runPwd state around) := by
  rw [runPwd]
  split
  · exact frame_of_success (.inr (endsLine_concat _)) .pwd
  · exact frame_of_failure (endsLine_concat _) (.unchanged (by simp))

theorem frame_runCd (args : List String) (state : ShellState) (around : Surroundings) :
    Frame state around .cd args (runCd args state around) := by
  have hmessage : EndsLine ("cd: " ++ args.headD "~" ++ ": No such file or directory\n") :=
    EndsLine.append _ ⟨": No such file or directory", rfl⟩
  rw [runCd]
  split
  · split
    · exact frame_of_success (.inl rfl) (.cd _)
    · exact frame_of_failure hmessage (.unchanged (by simp))
  · exact frame_of_failure hmessage (.unchanged (by simp))

theorem ofWord?_cases {word : String} {flag : HistoryFlag}
    (hword : HistoryFlag.ofWord? word = some flag) :
    (word = "-r" ∧ flag = .read) ∨ (word = "-w" ∧ flag = .write) ∨ (word = "-a" ∧ flag = .append) := by
  rw [HistoryFlag.ofWord?.eq_def] at hword
  split at hword <;> cases hword <;> simp

/-- `history` with a file. -/
theorem frame_file {first : String} {flag : HistoryFlag}
    (hflag : HistoryFlag.ofWord? first = some flag) (file : String) (rest : List String)
    (state : ShellState) (around : Surroundings) :
    Frame state around .history (first :: file :: rest)
      (runHistory (first :: file :: rest) state around) := by
  have hmessage : ∀ e : OsError, EndsLine ("history: " ++ file ++ ": " ++ e.message ++ "\n") :=
    fun e => endsLine_concat _
  let p := state.cwd.join (utf8 file)
  simp only [runHistory.eq_def, hflag]
  rcases ofWord?_cases hflag with ⟨rfl, rfl⟩ | ⟨rfl, rfl⟩ | ⟨rfl, rfl⟩
  · have hrecalls := state.history.recalls_readFrom around.files around.here p
    rcases hread : state.history.readFrom around.files around.here p with ⟨updated, result⟩
    rw [hread] at hrecalls
    simp only [withFile, p, hread]
    cases result with
    | ok => exact frame_of_success (.inl rfl) (.recall hrecalls)
    | error e => exact frame_of_failure (hmessage e) (.recalled hrecalls)
  · rcases hwrite : state.history.writeTo around.files around.here p with ⟨files, result⟩
    simp only [withFile, p, hwrite]
    cases result with
    | ok => exact frame_of_success (.inl rfl) .write
    | error e => exact frame_of_failure (hmessage e) (.unchanged fun _ _ _ => by simp)
  · rcases state.history.appendTo_cases around.files around.here p with
      ⟨written, -, happend⟩ | ⟨e, happend⟩
    · simp only [withFile, p, happend]
      exact frame_of_success (.inl rfl) .append
    · simp only [withFile, p, happend]
      exact frame_of_failure (hmessage e) (.unchanged fun _ _ _ => by simp)

theorem frame_runHistory (args : List String) (state : ShellState) (around : Surroundings) :
    Frame state around .history args (runHistory args state around) := by
  cases args with
  | nil => exact frame_of_success (wholeLines_list _ _) .list
  | cons first rest =>
      cases hflag : HistoryFlag.ofWord? first with
      | some flag =>
          cases rest with
          | nil =>
              simp only [runHistory.eq_def, hflag]
              exact frame_of_failure (EndsLine.append _ ⟨": option requires an argument", rfl⟩)
                (.unchanged fun _ _ _ => by simp)
          | cons file rest => exact frame_file hflag file rest state around
      | none =>
          simp only [runHistory.eq_def, hflag]
          cases hcount : count? first with
          | some n => exact frame_of_success (wholeLines_list _ _) (.listLast hcount)
          | none =>
              refine frame_of_failure (EndsLine.append _ ⟨": numeric argument required", rfl⟩)
                (.unchanged ?_)
              rintro - file others hargs
              obtain ⟨rfl, -⟩ := List.cons.inj hargs
              cases hflag

/-- A builtin changes only what it owns, and shows only whole lines. -/
theorem run_frame (b : Builtin) (args : List String) (state : ShellState) (around : Surroundings) :
    Frame state around b args (b.run args state around) := by
  have hperform : Frame state around b args (b.perform args state around) := by
    cases b with
    | exit => exact frame_of_success (.inl rfl) .exit
    | echo => exact frame_of_success (.inr (endsLine_concat _)) .echo
    | type =>
        refine frame_of_success (wholeLines_join ?_) .type
        intro line hline
        obtain ⟨word, -, rfl⟩ := List.mem_map.1 hline
        exact endsLine_describe around word
    | pwd => exact frame_runPwd args state around
    | cd => exact frame_runCd args state around
    | history => exact frame_runHistory args state around
  exact ⟨hperform.output_lines, hperform.error_lines, hperform.succeeded, hperform.failed⟩

/-- A recall that fails has kept the entries before the line that is no text. -/
example :
    let content := utf8 "a\n \n" ++ 255 :: utf8 "\nb\n"
    let files := FileSystem.empty.insert [utf8 "h"] (.file content FileSystem.newFileMode)
    let outcome := runHistory ["-r", "h"] ⟨utf8 "/", none, ⟨["x"], 1⟩, false⟩ ⟨files, Place.root, ⟨[]⟩⟩
    outcome.state = ⟨utf8 "/", none, ⟨["x", "a"], 1⟩, false⟩ ∧
      outcome.error = some "history: h: stream did not contain valid UTF-8\n" := by
  decide +kernel

end Builtin

end PipelineShell
