import PipelineShell.Proofs.ExecutedFile

/-!
# How the state goes through a pipeline

Names are resolved and the file of the redirection is opened before the first stage
acts, so that both are settled by the world before the line.  Then the builtins act one
after another, and each stage finds what the builtins before it have left.  Nothing but
a builtin changes the state.
-/

namespace PipelineShell.Executor

/-! ## What is settled before the first stage -/

section Settled

variable (ex : Executor) {w w' : World}

/-- What a name stands for depends on the state and the files only. -/
theorem resolve_congr (hstate : w'.state = w.state) (hfiles : w'.files = w.files)
    (name : String) : ex.resolve w' name = ex.resolve w name := by
  rw [resolve, resolve, hstate, hfiles]

/-- What a redirection opens depends on the state and the files only. -/
theorem openRedirect_congr (hstate : w'.state = w.state) (hfiles : w'.files = w.files)
    (command : Command) : ex.openRedirect w' command = ex.openRedirect w command := by
  rw [openRedirect, openRedirect, hstate, hfiles]

/-- The stages of a pipeline depend on its commands and on the state and the files before
it. -/
theorem stagesOf_congr (hstate : w'.state = w.state) (hfiles : w'.files = w.files)
    (p : Pipeline) : ex.stagesOf w' p = ex.stagesOf w p := by
  apply List.map_congr_left
  intro command _
  rw [resolve_congr ex hstate hfiles]

end Settled

/-! ## What each stage finds -/

/-- How the state goes through a pipeline whose redirection opens. -/
structure Threads (ex : Executor) (w : World) (p : Pipeline) (held : Option FileSystem.Handle)
    (files : FileSystem) (rooms : List Nat) : Prop where
  /-- the stages are set up, and then they run in order -/
  runs : ex.execute w p =
    let done := ex.ranUpTo w p held files rooms p.commands.length
    ⟨done.world, done.events, .ok ()⟩
  /-- only the state and the files before the line settle what the names stand for and what
  the redirection opens, whichever stages stand before -/
  settled : ∀ w' : World, w'.state = w.state → w'.files = w.files → ∀ q : Pipeline,
    ex.stagesOf w' q = q.commands.map (fun command => (command, ex.resolve w command.name)) ∧
      ex.openRedirect w' q.last = ex.openRedirect w q.last
  opens : ∀ redirect target, p.last.redirect = some redirect → p.last.target = some target →
    ∃ handle, held = some handle ∧
      (ex.announced w p).files.openForWriting ex.here (w.state.cwd.join (utf8 target))
        redirect.isAppend = .ok (handle, files)
  /-- the builtins before a stage are called in order, each with files of its own -/
  calls : ∀ count, count ≤ p.commands.length →
    (ex.callsUpTo w p held files rooms count).map (fun call => (call.builtin, call.args)) =
      builtinCalls ((ex.stagesOf w p).take count)
  /-- a stage is done or started in what it finds -/
  finds : ∀ i, (ex.prepared w p held files rooms).2[i]? =
    p.commands[i]?.map fun command =>
      ex.stageAt held (ex.found w p held files rooms i) (command, ex.resolve w command.name)
        (sinks (i + 1 == p.commands.length) (rooms.getD i 0) command held)
  /-- the state that a stage finds is what the builtins before it have left -/
  threads : ∀ i, i < p.commands.length → (ex.found w p held files rooms i).state =
    Builtin.afterCalls w.state (ex.callsUpTo w p held files rooms i)
  /-- the programs that run change nothing of what the builtins have left -/
  keeps : ∀ count, (ex.ranUpTo w p held files rooms count).world.state =
    Builtin.afterCalls w.state (ex.calls w p held files rooms)
  leaves : (ex.execute w p).world.state =
    Builtin.afterCalls w.state (ex.calls w p held files rooms)

/-- The state goes through every pipeline whose redirection opens: what the names stand for
and which file the redirection means is settled before the first stage, each stage finds
what the builtins before it have left, and the line leaves the state that its builtins
leave, one after another, whatever files each of them finds. -/
theorem threads_of_open {ex : Executor} {w : World} {p : Pipeline}
    {held : Option FileSystem.Handle} {files : FileSystem}
    (hopen : ex.openRedirect (ex.announced w p) p.last = .ok (held, files)) :
    ex.Threads w p held files (ex.rooms w p held files) where
  runs := execute_eq_ranUpTo hopen
  settled := by
    intro w' hstate hfiles q
    exact ⟨stagesOf_congr ex hstate hfiles q, openRedirect_congr ex hstate hfiles q.last⟩
  opens := by
    intro redirect target hredirect htarget
    exact (openRedirect_eq_ok_iff hredirect htarget).1 hopen
  calls := map_callsUpTo
  finds := by
    intro i
    rw [getElem?_prepared, stagesOf, List.getElem?_map, Option.map_map]
    rfl
  threads := by
    intro i hi
    obtain ⟨stage, hstage⟩ := exists_stage ex w hi
    exact state_found hstage
  keeps := ex.state_ranUpTo w p held files _
  leaves := state_execute hopen

/-- A program and a redirection behind a change of directory. -/
def enterAndStore : Pipeline :=
  ⟨[⟨"cd", ["sub"], none, none, none⟩,
    ⟨"./bin/tool", [], some .stdoutTruncate, some ">", some "out"⟩], by decide⟩

/-- The program and the file are those of the directory before the line; the program runs
in the directory that the line has entered. -/
theorem threads_of_open_entered :
    let ex := starting ⟨[]⟩ Place.root (.ofPath (utf8 "/bin"))
    let after := (ex.execute twoTools enterAndStore).world
    ∃ held files, ex.openRedirect (ex.announced twoTools enterAndStore) enterAndStore.last =
        .ok (held, files) ∧
      ex.Threads twoTools enterAndStore held files (ex.rooms twoTools enterAndStore held files) ∧
      after.state.cwd = utf8 "/sub" ∧
      after.files.readFile Place.root (utf8 "/out") = .ok (utf8 "/sub\n") := by
  intro ex after
  have hopens : (ex.openRedirect (ex.announced twoTools enterAndStore)
      enterAndStore.last).isOk = true := by
    decide +kernel
  cases hopen : ex.openRedirect (ex.announced twoTools enterAndStore) enterAndStore.last with
  | error e => rw [hopen] at hopens; nomatch hopens
  | ok opened =>
      exact ⟨opened.1, opened.2, rfl, threads_of_open hopen, by decide +kernel, by decide +kernel⟩

end PipelineShell.Executor
