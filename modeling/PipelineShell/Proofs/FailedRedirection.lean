import PipelineShell.Proofs.ExecutedFile
import PipelineShell.Proofs.Rendering

/-!
# A redirection that does not open

The file of the redirection is opened before the first stage acts, so that a line whose
file does not open has no effect, whatever its stages are.  Reading a line makes sure that
the redirection of its last stage names a file; only commands that are put together by hand
can lack it.
-/

namespace PipelineShell

namespace Executor

/-- Why the redirection of a command does not open. -/
inductive OpenFails (ex : Executor) (w : World) (command : Command) : LineError → Prop where
  /-- the command names no file -/
  | targetless {redirect : Redirect} : command.redirect = some redirect → command.target = none →
      OpenFails ex w command (.missingRedirectTarget (command.operator.getD ""))
  | refused {redirect : Redirect} {target : String} {cause : OsError} :
      command.redirect = some redirect → command.target = some target →
      w.files.openForWriting ex.here (w.state.cwd.join (utf8 target)) redirect.isAppend =
        .error cause →
      OpenFails ex w command (.redirection target cause)

/-- Running a line has had no effect that outlasts it but what the log was told, and no
program was started. -/
structure Ineffective (ex : Executor) (w : World) (p : Pipeline) : Prop where
  logged : ∃ records, (ex.execute w p).world = w.log records
  state : (ex.execute w p).world.state = w.state
  files : (ex.execute w p).world.files = w.files
  input : (ex.execute w p).world.input = w.input
  unseen : ∀ outlet, seenOn outlet (ex.execute w p).events = []
  /-- whatever would become of programs, the same happens -/
  unlaunched : ∀ launch, ({ ex with launch } : Executor).execute w p = ex.execute w p

/-- The word after the first operator of the last stage of a line. -/
def IsWrittenTarget (line target : String) : Prop :=
  ∃ words before operator after, Token.read line = .ok words ∧
    (splitStages words).getLast? = some (before ++ operator :: target :: after) ∧
    OperatorFree before ∧ isOperator operator = true

section Failing

variable {ex : Executor} {w : World} {p : Pipeline} {e : LineError}

theorem openRedirect_eq_error_iff {command : Command} :
    ex.openRedirect w command = .error e ↔ ex.OpenFails w command e := by
  constructor
  · intro hopen
    rw [openRedirect.eq_def] at hopen
    split at hopen
    · cases hopen
    · rename_i hredirect htarget
      rw [← Except.error.inj hopen]
      exact .targetless hredirect htarget
    · rename_i hredirect htarget
      split at hopen
      · cases hopen
      · rename_i hfile
        rw [← Except.error.inj hopen]
        exact .refused hredirect htarget hfile
  · intro hfails
    cases hfails with
    | targetless hredirect htarget => simp only [openRedirect, hredirect, htarget]
    | refused hredirect htarget hfile => simp only [openRedirect, hredirect, htarget, hfile]

/-- Only a redirection that does not open makes a pipeline fail. -/
theorem result_eq_error_iff :
    (ex.execute w p).result = .error e ↔ ex.OpenFails w p.last e := by
  rw [← openRedirect_eq_error_iff, ← openRedirect_announced_error_iff]
  cases hopen : ex.openRedirect (ex.announced w p) p.last with
  | error cause => simp only [execute, hopen, Except.error.injEq]
  | ok opened => simp only [execute, hopen, reduceCtorEq]

/-- A line that fails has come to an end before its first stage. -/
theorem ineffective_of_error (hfails : (ex.execute w p).result = .error e) :
    ex.Ineffective w p := by
  have hopen : ex.openRedirect (ex.announced w p) p.last = .error e :=
    openRedirect_announced_error_iff.2
      (openRedirect_eq_error_iff.2 (result_eq_error_iff.1 hfails))
  have hexecute : ex.execute w p = ⟨w.log (ex.openingRecords w p),
      (ex.openingRecords w p).map Event.record, .error e⟩ := by
    simp only [execute, hopen]
  have hsame : ∀ launch, ({ ex with launch } : Executor).openRedirect
      (({ ex with launch } : Executor).announced w p) p.last = .error e := fun _ => hopen
  constructor
  · rw [hexecute]
    exact ⟨_, rfl⟩
  · rw [hexecute]
    rfl
  · rw [hexecute]
    rfl
  · rw [hexecute]
    rfl
  · intro outlet
    rw [hexecute]
    exact seenOn_records outlet _
  · intro launch
    rw [hexecute]
    simp only [execute, hsame]
    rfl

theorem missingRedirectTarget_iff {operator : String} :
    (ex.execute w p).result = .error (.missingRedirectTarget operator) ↔
      p.last.redirect ≠ none ∧ p.last.target = none ∧ operator = p.last.operator.getD "" := by
  rw [result_eq_error_iff]
  constructor
  · intro hfails
    cases hfails with
    | targetless hredirect htarget => exact ⟨by simp [hredirect], htarget, rfl⟩
  · rintro ⟨hredirect, htarget, rfl⟩
    obtain ⟨redirect, hsome⟩ := Option.ne_none_iff_exists'.1 hredirect
    exact .targetless hsome htarget

/-- The target that a line gives the redirection of its last stage is a word of the line. -/
theorem isWrittenTarget_of_parse {line : String} (hparse : parse line = .ok (some p))
    {target : String} (htarget : p.last.target = some target) : IsWrittenTarget line target := by
  cases hread : Token.read line with
  | error quote => simp [parse, hread] at hparse
  | ok words =>
      simp only [parse, hread] at hparse
      obtain ⟨hstages, -⟩ := (buildPipeline_eq_some_iff words p).1 hparse
      obtain ⟨stage, hstage, hbuild⟩ := getLast?_of_forall₂ hstages (getLast?_commands p)
      have hne : stage ≠ [] := (stage_of_mem_splitStages (List.mem_of_getLast? hstage)).1
      obtain ⟨before, operator, after, hfree, hoperator, rfl⟩ := stage_of_target hne hbuild htarget
      exact ⟨words, before, operator, after, hread, hstage, hfree, hoperator⟩

theorem refused_of_parse {line : String} (hparse : parse line = .ok (some p))
    (hfails : (ex.execute w p).result = .error e) :
    ∃ target cause, e = .redirection target cause ∧ IsWrittenTarget line target := by
  have htargeted : p.last.redirect ≠ none → p.last.target ≠ none := by
    cases hread : Token.read line with
    | error quote => simp [parse, hread] at hparse
    | ok words =>
        simp only [parse, hread] at hparse
        exact (wellFormed_of_buildPipeline hparse).last
  cases result_eq_error_iff.1 hfails with
  | targetless hredirect htarget => exact absurd htarget (htargeted (by simp [hredirect]))
  | refused hredirect htarget hfile =>
      exact ⟨_, _, rfl, isWrittenTarget_of_parse hparse htarget⟩

end Failing

/-- Whatever its stages are, a pipeline fails exactly if the redirection of its last stage
does not open, and then it has had no effect.  A pipeline that was read from a line never
lacks the target, and the error names the target as the line has it. -/
theorem failed_redirection (ex : Executor) (w : World) (p : Pipeline) :
    (∀ e, (ex.execute w p).result = .error e ↔ ex.OpenFails w p.last e) ∧
      (∀ operator, (ex.execute w p).result = .error (.missingRedirectTarget operator) ↔
        p.last.redirect ≠ none ∧ p.last.target = none ∧ operator = p.last.operator.getD "") ∧
      (∀ e, (ex.execute w p).result = .error e → ex.Ineffective w p) ∧
      ∀ line e, parse line = .ok (some p) → (ex.execute w p).result = .error e →
        ∃ target cause, e = .redirection target cause ∧ IsWrittenTarget line target := by
  refine ⟨?_, ?_, ?_, ?_⟩
  · intro e
    exact result_eq_error_iff
  · intro operator
    exact missingRedirectTarget_iff
  · intro e hfails
    exact ineffective_of_error hfails
  · intro line e hparse hfails
    exact refused_of_parse hparse hfails

/-- A line that would leave, enter a directory, store the history and run a program. -/
def ambitious : Pipeline :=
  ⟨[⟨"exit", [], none, none, none⟩, ⟨"cd", ["sub"], none, none, none⟩,
    ⟨"history", ["-w", "h"], none, none, none⟩,
    ⟨"tool", [], some .stdoutTruncate, some ">", some "missing/out"⟩], by decide⟩

theorem failed_redirection_ambitious :
    let ex := starting ⟨[]⟩ Place.root (.ofPath (utf8 "/bin"))
    let line := "exit | cd sub | history -w h | tool > missing/out"
    let e := LineError.redirection "missing/out" .notFound
    parse line = .ok (some ambitious) ∧ (ex.execute twoTools ambitious).result = .error e ∧
      ex.OpenFails twoTools ambitious.last e ∧ ex.Ineffective twoTools ambitious ∧
      ∃ target cause, e = .redirection target cause ∧ IsWrittenTarget line target := by
  intro ex line e
  obtain ⟨hfails, -, hineffective, hparsed⟩ := failed_redirection ex twoTools ambitious
  have hparse : parse line = .ok (some ambitious) := by decide +kernel
  have hresult : (ex.execute twoTools ambitious).result = .error e := by decide +kernel
  exact ⟨hparse, hresult, (hfails e).1 hresult, hineffective e hresult,
    hparsed line e hparse hresult⟩

end Executor

end PipelineShell
