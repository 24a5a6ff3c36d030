import PipelineShell.Proofs.PipeContents

/-!
# Who is joined to which pipe

A program is started with the end from which its stage reads and the one to which it writes,
and has them until it closes them or ends.  A thread that writes a text has the end to which
it writes as long as it runs.  Nobody else ever gets them, so that each pipe joins one stage
to the next.
-/

namespace PipelineShell.PipeMachine

/-! ## Ends that have not been closed -/

/-- What has not been closed is held, in a pipeline of so many stages. -/
structure Wired (count : Nat) (s : State) : Prop where
  /-- a program that runs holds the ends of its stage, apart from those that it has closed -/
  child : ∀ stage intent, s.child stage = .running intent → s.held (.child stage) =
    (inputEnds stage ++ outputEnds (stage + 1 == count) stage).filter fun pipeEnd =>
      pipeEnd.side ∉ s.closed stage
  feeder : ∀ stage left, s.thread (.feeder stage) = .running left →
    s.held (.feeder stage) = [⟨.write, stage⟩]

namespace Wired

variable {conducts : List Conduct} {capacity : Nat} {s t : State}

/-- What is done to ends that nobody but the shell has, and who waits for whom, does not
matter. -/
theorem of_eq {count : Nat} (hwired : Wired count s) (hheld : t.held = s.held)
    (hclosed : t.closed = s.closed)
    (hchild : ∀ stage intent, t.child stage = .running intent →
      ∃ before, s.child stage = .running before)
    (hthread : ∀ stage left, t.thread (.feeder stage) = .running left →
      ∃ before, s.thread (.feeder stage) = .running before) : Wired count t where
  child := by
    intro stage intent hrunning
    obtain ⟨before, hbefore⟩ := hchild stage intent hrunning
    rw [hheld, hclosed, hwired.child stage before hbefore]
  feeder := by
    intro stage left hrunning
    obtain ⟨before, hbefore⟩ := hthread stage left hrunning
    rw [hheld, hwired.feeder stage before hbefore]

theorem shellStep (hinv : Inv conducts s) (hwired : Wired conducts.length s)
    (hstep : ShellStep s t) : Wired conducts.length t := by
  have hholder : ∀ other stage, Holder.child other ≠ .feeder stage := by simp
  cases hstep with
  | openPipe | duplicate | close | leave => exact ⟨hwired.child, hwired.feeder⟩
  | @start stage ends rest htodo intent =>
      refine ⟨fun other next hrunning => ?_, fun other left hrunning => ?_⟩
      · by_cases hother : other = stage
        · obtain ⟨-, rfl⟩ := ShellStep.of_start hinv (htodo ▸ List.mem_cons_self)
          simp only [State.setClosed, State.setHeld, hother, Function.update_self,
            List.not_mem_nil, not_false_eq_true, decide_true]
          exact (List.filter_eq_self.mpr fun _ _ => rfl).symm
        · simpa [hother] using hwired.child other next (by simpa [hother] using hrunning)
      · simpa using hwired.feeder other left hrunning
  | @feed stage text rest htodo =>
      refine ⟨fun other next hrunning => ?_, fun other left hrunning => ?_⟩
      · change Function.update s.held (.feeder stage) [⟨.write, stage⟩] (.child other) = _
        rw [Function.update_of_ne (hholder other stage)]
        exact hwired.child other next hrunning
      · by_cases hother : other = stage
        · simp [hother]
        · simpa [hother] using hwired.feeder other left (by simpa [hother] using hrunning)
  | watch => exact hwired.of_eq rfl rfl (fun _ _ h => ⟨_, h⟩) fun _ _ h => ⟨_, by simpa using h⟩
  | @await stage rest htodo hended =>
      refine hwired.of_eq rfl rfl (fun other next hrunning => ⟨next, ?_⟩) fun _ _ h => ⟨_, h⟩
      by_cases hother : other = stage
      · simp [hother] at hrunning
      · simpa [hother] using hrunning
  | @join rest task tasks htodo htasks hended =>
      refine hwired.of_eq rfl rfl (fun _ _ h => ⟨_, h⟩) fun other left hrunning => ⟨left, ?_⟩
      by_cases hother : .feeder other = task
      · simp [hother] at hrunning
      · simpa [hother] using hrunning

theorem threadStep {count : Nat} (hwired : Wired count s) (hstep : ThreadStep capacity s t) :
    Wired count t := by
  have hholder : ∀ other stage, Holder.child other ≠ .feeder stage := by simp
  cases hstep with
  | @write stage byte left hthread =>
      refine hwired.of_eq rfl rfl (fun _ _ h => ⟨_, h⟩) fun other next hrunning => ?_
      by_cases hother : other = stage
      · exact ⟨_, hother ▸ hthread⟩
      · exact ⟨next, by simpa [hother] using hrunning⟩
  | @stop stage left hthread =>
      refine ⟨fun other next hrunning => ?_, fun other next hrunning => ?_⟩
      · change Function.update s.held (.feeder stage) [] (.child other) = _
        rw [Function.update_of_ne (hholder other stage)]
        exact hwired.child other next hrunning
      · by_cases hother : other = stage
        · simp [hother] at hrunning
        · simpa [hother] using hwired.feeder other next (by simpa [hother] using hrunning)
  | @reap stage left hthread hended =>
      refine hwired.of_eq rfl rfl (fun other next hrunning => ⟨next, ?_⟩) fun other next hrunning =>
        ⟨next, by simpa using hrunning⟩
      by_cases hother : other = stage
      · simp [hother] at hrunning
      · simpa [hother] using hrunning

/-- A program that goes on without closing an end. -/
theorem goesOn {count : Nat} (hwired : Wired count s) {stage : Nat} {intent next : Intent}
    (hchild : s.child stage = .running intent) (hheld : t.held = s.held)
    (hclosed : t.closed = s.closed) (hthread : t.thread = s.thread)
    (hnext : t.child = Function.update s.child stage (.running next)) : Wired count t := by
  refine hwired.of_eq hheld hclosed (fun other after hrunning => ?_) fun other left hrunning =>
    ⟨left, by rwa [hthread] at hrunning⟩
  by_cases hother : other = stage
  · exact ⟨intent, hother ▸ hchild⟩
  · exact ⟨after, by simpa [hnext, hother] using hrunning⟩

/-- A program that ends. -/
theorem ends {count : Nat} (hwired : Wired count s) {stage : Nat}
    (hheld : t.held = Function.update s.held (.child stage) []) (hclosed : t.closed = s.closed)
    (hthread : t.thread = s.thread) (hnext : t.child = Function.update s.child stage .ended) :
    Wired count t := by
  refine ⟨fun other next hrunning => ?_, fun other left hrunning => ?_⟩
  · by_cases hother : other = stage
    · simp [hnext, hother] at hrunning
    · have hbefore : s.child other = .running next := by simpa [hnext, hother] using hrunning
      simpa [hheld, hclosed, hother] using hwired.child other next hbefore
  · simpa [hheld] using hwired.feeder other left (by rwa [hthread] at hrunning)

theorem childStep {count : Nat} (hwired : Wired count s) (hstep : ChildStep capacity s t) :
    Wired count t := by
  cases hstep with
  | read hchild | readEnd hchild | write hchild | writeElsewhere hchild =>
      exact hwired.goesOn hchild rfl rfl rfl rfl
  | stopped | exit => exact hwired.ends rfl rfl rfl rfl
  | @close stage side hchild next =>
      refine ⟨fun other after hrunning => ?_, fun other left hrunning => ?_⟩
      · by_cases hother : other = stage
        · have hbefore := hwired.child stage _ hchild
          simp [hother, hbefore, List.filter_filter]
        · simpa [hother] using hwired.child other after (by simpa [hother] using hrunning)
      · simpa using hwired.feeder other left hrunning

end Wired

theorem wired_of_reachable {conducts : List Conduct} {capacity : Nat} {s : State}
    (hreach : Reachable capacity conducts s) : Wired conducts.length s := by
  induction hreach with
  | refl => exact ⟨fun _ _ h => (nomatch h), fun _ _ h => (nomatch h)⟩
  | tail hbefore hstep ih =>
      cases hstep with
      | shell h => exact ih.shellStep (inv_of_reachable hbefore) h
      | thread h => exact ih.threadStep h
      | child h => exact ih.childStep h

/-! ## Pipelines -/

theorem length_setUp (ex : Executor) (held : Option FileSystem.Handle) (index : Nat)
    (run : Executor.Run) (rooms : List Nat) (stages : List (Command × Resolution)) :
    (ex.setUp held index run rooms stages).2.length = stages.length := by
  induction stages generalizing index run rooms with
  | nil => rfl
  | cons stage rest ih => simp only [Executor.setUp, List.length_cons, ih]

theorem length_conducts (ex : Executor) (held : Option FileSystem.Handle) (run : Executor.Run)
    (rooms : List Nat) (stages : List (Command × Resolution)) :
    (ex.conducts held run rooms stages).length = stages.length := by
  rw [Executor.conducts, List.length_zipWith, length_setUp, Nat.min_self]

/-- What comes of a stage is read off the stage as it is set up. -/
theorem conduct_of_setUp {ex : Executor} {held : Option FileSystem.Handle} {run : Executor.Run}
    {rooms : List Nat} {stages : List (Command × Resolution)} {i : Nat} {stage : Executor.Stage}
    (hready : (ex.setUp held 0 run rooms stages).2[i]? = some stage) :
    ∃ resolution, (ex.conducts held run rooms stages)[i]? = some (.of resolution stage) := by
  have hi : i < stages.length := by
    rw [← length_setUp ex held 0 run rooms stages]
    exact (List.getElem?_eq_some_iff.mp hready).1
  exact ⟨stages[i].2, List.getElem?_zipWith_eq_some.mpr
    ⟨stages[i], stage, List.getElem?_eq_getElem hi, hready, rfl⟩⟩

theorem Conduct.of_done_ne_starts (resolution : Resolution) (text : Bytes) :
    Conduct.of resolution (.done text) ≠ .starts := by
  cases resolution <;> simp [Conduct.of]

theorem Conduct.text_of_done (resolution : Resolution) (text : Bytes) :
    (Conduct.of resolution (.done text)).text = text := by
  cases resolution <;> rfl

section Stages

variable {ex : Executor} {held : Option FileSystem.Handle} {run : Executor.Run} {rooms : List Nat}
  {stages : List (Command × Resolution)} {capacity : Nat} {s : State}

/-- What the shell does for a stage is behind it when it begins with the next one. -/
theorem not_mem_ops_next {i turn : Nat} {conducts : List Conduct} {op : Op}
    (hturn : op.turn? = some turn) (hstage : turn < 3 * (i + 1)) : op ∉ ops (i + 1) conducts :=
  fun hmem => Nat.not_le_of_gt hstage (le_of_mem_turns_ops (mem_turns hmem hturn))

/-- The end that a stage writes to goes to its program, or to the thread that writes its
text, or to nobody. -/
theorem holder_of_setUp (hreach : Reachable capacity (ex.conducts held run rooms stages) s)
    {i : Nat} (hi : i + 1 < stages.length)
    (htodo : s.todo = ops (i + 1) ((ex.conducts held run rooms stages).drop (i + 1)))
    (hwrite : ⟨.write, i⟩ ∉ s.own) :
    let ready := (ex.setUp held 0 run rooms stages).2
    (∃ program stdout stderr, ready[i]? = some (.started program stdout stderr)) ∧
        s.child i ≠ .absent ∧ s.HeldOnlyBy (.child i) ⟨.write, i⟩ ∨
      (∃ text, text ≠ [] ∧ ready[i]? = some (.done text)) ∧
        s.thread (.feeder i) ≠ .absent ∧ s.HeldOnlyBy (.feeder i) ⟨.write, i⟩ ∨
      ready[i]? = some (.done []) ∧ ¬ s.IsOpen ⟨.write, i⟩ := by
  intro ready
  have hinv := inv_of_reachable hreach
  have hlength : i < ready.length := by
    rw [length_setUp]
    exact Nat.lt_of_succ_lt hi
  obtain ⟨stage, hstage⟩ : ∃ stage, ready[i]? = some stage :=
    ⟨_, List.getElem?_eq_getElem hlength⟩
  obtain ⟨resolution, hat⟩ := conduct_of_setUp hstage
  rw [hstage]
  cases stage with
  | started program stdout stderr =>
      have hpresent : s.child i ≠ .absent := fun habsent => by
        obtain ⟨ends, hmem⟩ := hinv.absent i hat habsent
        exact not_mem_ops_next rfl (by omega) (htodo ▸ hmem)
      exact .inl ⟨⟨program, stdout, stderr, rfl⟩, hpresent, hinv.heldOnlyBy_child hat hwrite⟩
  | done text =>
      have hne := Conduct.of_done_ne_starts resolution text
      by_cases hempty : text = []
      · subst hempty
        exact .inr (.inr ⟨rfl, hinv.not_isOpen_of_silent hat hne
          (Conduct.text_of_done resolution []) hwrite⟩)
      · refine .inr (.inl ⟨⟨text, hempty, rfl⟩, fun habsent => ?_, hinv.heldOnlyBy_feeder ?_ hwrite⟩)
        · have htext := Conduct.text_of_done resolution text
          have hmem := (conveys_of_reachable hreach).unfed i _ hat (by rwa [htext])
            (by rwa [length_conducts]) habsent
          exact not_mem_ops_next rfl (by omega) (htodo ▸ hmem)
        · rw [hat]
          exact mt Option.some.inj hne

/-- When the list is done, a program that was set up has been waited for. -/
theorem awaited_of_setUp (hinv : Inv (ex.conducts held run rooms stages) s) (htodo : s.todo = [])
    {i : Nat} {program : Started} {stdout stderr : Sink}
    (hready : (ex.setUp held 0 run rooms stages).2[i]? = some (.started program stdout stderr)) :
    s.child i = .awaited := by
  obtain ⟨resolution, hat⟩ := conduct_of_setUp hready
  rcases Child.not_unawaited (hinv.not_unawaited_of_todo_nil htodo i) with habsent | hawaited
  · obtain ⟨ends, hmem⟩ := hinv.absent i hat habsent
    rw [htodo] at hmem
    nomatch hmem
  · exact hawaited

end Stages

/-- Between two stages the shell holds just the end from which the next one will read,
the program of the stage or the thread that writes its text has been started, and each
other end is held by at most the one program or thread that uses it.  While the shell
waits for a program it holds nothing.  When its list is done nothing is open, every
program that has started has been waited for and every thread has been joined.  At any
time a program that runs holds the ends of its stage but for those that it has closed
itself, and a thread that writes a text holds the end to which it writes. -/
theorem pipe_ends_of_reachable (ex : Executor) (held : Option FileSystem.Handle)
    (run : Executor.Run) (rooms : List Nat) (stages : List (Command × Resolution))
    {capacity : Nat} {s : State}
    (hreach : Reachable capacity (ex.conducts held run rooms stages) s) :
    let conducts := ex.conducts held run rooms stages
    let ready := (ex.setUp held 0 run rooms stages).2
    (∀ i, i + 1 < stages.length → s.todo = ops (i + 1) (conducts.drop (i + 1)) →
      s.own = [⟨.read, i⟩] ∧
      ((∃ program stdout stderr, ready[i]? = some (.started program stdout stderr)) ∧
          s.child i ≠ .absent ∧ s.HeldOnlyBy (.child i) ⟨.write, i⟩ ∨
        (∃ text, text ≠ [] ∧ ready[i]? = some (.done text)) ∧
          s.thread (.feeder i) ≠ .absent ∧ s.HeldOnlyBy (.feeder i) ⟨.write, i⟩ ∨
        ready[i]? = some (.done []) ∧ ¬ s.IsOpen ⟨.write, i⟩) ∧
      ∀ before, before + 1 = i → s.HeldOnlyBy (.child i) ⟨.read, before⟩) ∧
    (∀ i rest, s.todo = .await i :: rest → s.own = []) ∧
    (s.todo = [] →
      (∀ pipeEnd, ¬ s.IsOpen pipeEnd) ∧
      (∀ i program stdout stderr, ready[i]? = some (.started program stdout stderr) →
        s.child i = .awaited) ∧
      (∀ i, s.child i = .absent ∨ s.child i = .awaited) ∧
      ∀ task, s.thread task = .absent ∨ s.thread task = .joined) ∧
    Wired stages.length s := by
  intro conducts ready
  have hinv := inv_of_reachable hreach
  have hwired : Wired stages.length s :=
    length_conducts ex held run rooms stages ▸ wired_of_reachable hreach
  refine ⟨fun i hi htodo => ?_, fun i rest htodo => hinv.own_of_waits htodo trivial,
    fun htodo => ⟨hinv.not_isOpen_of_todo_nil htodo, ?_, fun i => ?_, fun task => ?_⟩, hwired⟩
  · have hown : s.own = [⟨.read, i⟩] := hinv.own_of_todo (by rwa [length_conducts]) htodo
    refine ⟨hown, holder_of_setUp hreach hi htodo (by simp [hown]), ?_⟩
    rintro before rfl
    exact ⟨by simp [hown], fun holder hheld => (hinv.holder_of_read hheld).1⟩
  · intro i program stdout stderr hready
    exact awaited_of_setUp hinv htodo hready
  · exact Child.not_unawaited (hinv.not_unawaited_of_todo_nil htodo i)
  · exact Thread.not_unjoined (hinv.not_unjoined_of_todo_nil htodo task)

/-- Every program starts, and ends without a word. -/
def silent : Executor where
  here := .root
  search := ⟨[]⟩
  launch := fun _ _ => .ok fun setting => ⟨.ofBytes [], [], false, setting.files, 0⟩

theorem pipe_ends_of_reachable_two_programs :
    let run : Executor.Run := ⟨⟨⟨[], none, .empty, false⟩, .empty, [], .apart⟩, none, [], []⟩
    let tool : Command × Resolution := (⟨"tool", [], none, none, none⟩, .external [])
    ∃ s, Reachable 1 (silent.conducts none run [] [tool, tool]) s ∧
      ⟨.write, 0⟩ ∈ s.held (.child 0) ∧ s.own = [⟨.read, 0⟩] := by
  intro run tool
  have hstart : Reachable 1 (silent.conducts none run [] [tool, tool])
    (initial [.starts, .starts]) := .refl
  have hopened := hstart.tail (.shell (.openPipe rfl))
  have hdoubled := hopened.tail (.shell (.duplicate rfl))
  have hstarted := hdoubled.tail (.shell (.start rfl .exit))
  have hclosed := (hstarted.tail (.shell (.close rfl))).tail (.shell (.close rfl))
  have hwatched := hclosed.tail (.shell (.watch rfl))
  have hends := pipe_ends_of_reachable silent none run [] [tool, tool] hwatched
  exact ⟨_, hwatched, by simp [outputEnds], (hends.1 0 (by decide) rfl).1⟩

end PipelineShell.PipeMachine
