import PipelineShell.Proofs.PipeWiring

/-!
# Nobody waits for ever

A program that cannot read waits for what is before it in the pipeline, and one
that cannot write waits for what is after it.  A chain of waiting readers ends at
the first stage, which reads from no pipe, and a chain of waiting writers at the
last stage, which writes to none.  So as long as the shell has something to do,
somebody can take a step.
-/

namespace PipelineShell.PipeMachine

variable {conducts : List Conduct} {capacity : Nat} {s : State}

/-! ## Chains -/

/-- A program that runs takes a step, or waits to read from an empty pipe to which
somebody can write, or to write to a full pipe from which somebody can read. -/
theorem childStep_or_waits (capacity : Nat) {stage : Nat} {intent : Intent}
    (hchild : s.child stage = .running intent) :
    (∃ t, ChildStep capacity s t) ∨
      (∃ pipe, ⟨.read, pipe⟩ ∈ s.held (.child stage) ∧ s.content pipe = [] ∧
        s.IsOpen ⟨.write, pipe⟩) ∨
      ∃ pipe, ⟨.write, pipe⟩ ∈ s.held (.child stage) ∧ s.IsOpen ⟨.read, pipe⟩ ∧
        capacity ≤ (s.content pipe).length := by
  cases intent with
  | read =>
      by_cases hempty : ∀ pipe, ⟨.read, pipe⟩ ∈ s.held (.child stage) → s.content pipe = []
      · by_cases hclosed : ∀ pipe, ⟨.read, pipe⟩ ∈ s.held (.child stage) →
            ¬ s.IsOpen ⟨.write, pipe⟩
        · exact .inl ⟨_, .readEnd hchild (fun pipe h => ⟨hempty pipe h, hclosed pipe h⟩) .exit⟩
        · obtain ⟨pipe, hheld, hopen⟩ : ∃ pipe, ⟨.read, pipe⟩ ∈ s.held (.child stage) ∧
              s.IsOpen ⟨.write, pipe⟩ := by simpa using hclosed
          exact .inr (.inl ⟨pipe, hheld, hempty pipe hheld, hopen⟩)
      · obtain ⟨pipe, hheld, hcontent⟩ : ∃ pipe, ⟨.read, pipe⟩ ∈ s.held (.child stage) ∧
            s.content pipe ≠ [] := by simpa using hempty
        exact .inl ⟨_, .read hchild hheld (List.append_nil _).symm hcontent .exit⟩
  | write byte =>
      by_cases hheld : ∃ pipe, ⟨.write, pipe⟩ ∈ s.held (.child stage)
      · obtain ⟨pipe, hheld⟩ := hheld
        by_cases hreader : s.IsOpen ⟨.read, pipe⟩
        · rcases Nat.lt_or_ge (s.content pipe).length capacity with hroom | hfull
          · exact .inl ⟨_, .write hchild hheld hreader hroom .exit⟩
          · exact .inr (.inr ⟨pipe, hheld, hreader, hfull⟩)
        · exact .inl ⟨_, .stopped hchild hheld hreader⟩
      · exact .inl ⟨_, .writeElsewhere hchild (fun pipe h => hheld ⟨pipe, h⟩) .exit⟩
  | close side => exact .inl ⟨_, .close hchild .exit⟩
  | exit => exact .inl ⟨_, .exit hchild⟩

/-- Whoever holds the end from which a pipe is read is a program that runs. -/
theorem Inv.reader_of_isOpen (hinv : Inv conducts s) (hbare : s.own = []) {pipe : Nat}
    (hopen : s.IsOpen ⟨.read, pipe⟩) :
    conducts[pipe + 1]? = some .starts ∧ ∃ intent, s.child (pipe + 1) = .running intent := by
  rcases hopen with hown | ⟨holder, hheld⟩
  · rw [hbare] at hown
    nomatch hown
  · obtain ⟨rfl, hstarts⟩ := hinv.holder_of_read hheld
    obtain ⟨-, halive⟩ := hinv.held _ _ hheld
    cases hchild : s.child (pipe + 1) with
    | running intent => exact ⟨hstarts, intent, rfl⟩
    | absent | ended | awaited =>
        rw [State.IsAlive, hchild] at halive
        exact halive.elim

/-- The chain of waiting writers, from left to right. -/
theorem Inv.childStep_of_full (hinv : Inv conducts s) (hbare : s.own = [])
    (hcapacity : 0 < capacity) {pipe : Nat} (hopen : s.IsOpen ⟨.read, pipe⟩)
    (hfull : capacity ≤ (s.content pipe).length) : ∃ t, ChildStep capacity s t := by
  -- the induction is on how many stages are left behind the pipe
  induction hleft : conducts.length - pipe using Nat.strongRecOn generalizing pipe with
  | ind left ih =>
      obtain ⟨hstarts, intent, hchild⟩ := hinv.reader_of_isOpen hbare hopen
      have hlength := (List.getElem?_eq_some_iff.mp hstarts).1
      rcases childStep_or_waits capacity hchild with
        hstep | ⟨other, hheld, hempty, -⟩ | ⟨other, hheld, hreader, hroom⟩
      · exact hstep
      · obtain rfl : pipe = other := by
          simpa using (hinv.holder_of_read hheld).1
        rw [hempty] at hfull
        exact absurd hfull (Nat.not_le_of_gt hcapacity)
      · obtain rfl : pipe + 1 = other := by
          rcases hinv.holder_of_write hheld with ⟨hholder, -⟩ | ⟨hholder, -⟩
          · simpa using hholder
          · nomatch hholder
        exact ih _ (by omega) hreader hroom rfl

/-- A thread that writes takes a step, or somebody behind it does. -/
theorem Inv.step_of_feeder (hinv : Inv conducts s) (hbare : s.own = [])
    (hcapacity : 0 < capacity) {stage : Nat} {left : Bytes}
    (hthread : s.thread (.feeder stage) = .running left) : ∃ t, Step capacity s t := by
  by_cases hopen : s.IsOpen ⟨.read, stage⟩
  · cases left with
    | nil => exact ⟨_, .thread (.stop hthread (.inl rfl))⟩
    | cons byte left =>
        rcases Nat.lt_or_ge (s.content stage).length capacity with hroom | hfull
        · exact ⟨_, .thread (.write hthread hopen hroom)⟩
        · obtain ⟨t, hstep⟩ := hinv.childStep_of_full hbare hcapacity hopen hfull
          exact ⟨t, .child hstep⟩
  · exact ⟨_, .thread (.stop hthread (.inr hopen))⟩

/-- Whoever can write to a pipe is a program or a thread that runs. -/
theorem Inv.writer_of_isOpen (hinv : Inv conducts s) (hbare : s.own = []) {pipe : Nat}
    (hopen : s.IsOpen ⟨.write, pipe⟩) :
    (∃ intent, s.child pipe = .running intent) ∨
      ∃ left, s.thread (.feeder pipe) = .running left := by
  rcases hopen with hown | ⟨holder, hheld⟩
  · rw [hbare] at hown
    nomatch hown
  · obtain ⟨-, halive⟩ := hinv.held _ _ hheld
    rcases hinv.holder_of_write hheld with ⟨rfl, -⟩ | ⟨rfl, -⟩
    · cases hchild : s.child pipe with
      | running intent => exact .inl ⟨intent, rfl⟩
      | absent | ended | awaited =>
          rw [State.IsAlive, hchild] at halive
          exact halive.elim
    · cases hthread : s.thread (.feeder pipe) with
      | running left => exact .inr ⟨left, rfl⟩
      | absent | ended | joined =>
          rw [State.IsAlive, hthread] at halive
          exact halive.elim

/-- The chain of waiting readers, from right to left. -/
theorem Inv.step_of_empty (hinv : Inv conducts s) (hbare : s.own = []) (hcapacity : 0 < capacity)
    {pipe : Nat} (hopen : s.IsOpen ⟨.write, pipe⟩) (hempty : s.content pipe = []) :
    ∃ t, Step capacity s t := by
  induction pipe using Nat.strongRecOn with
  | ind pipe ih =>
      rcases hinv.writer_of_isOpen hbare hopen with ⟨intent, hchild⟩ | ⟨left, hthread⟩
      · rcases childStep_or_waits capacity hchild with
          ⟨t, hstep⟩ | ⟨other, hheld, hnext, hwriter⟩ | ⟨other, hheld, hreader, hfull⟩
        · exact ⟨t, .child hstep⟩
        · obtain rfl : pipe = other + 1 := by simpa using (hinv.holder_of_read hheld).1
          exact ih other (Nat.lt_succ_self other) hwriter hnext
        · obtain ⟨t, hstep⟩ := hinv.childStep_of_full hbare hcapacity hreader hfull
          exact ⟨t, .child hstep⟩
      · exact hinv.step_of_feeder hbare hcapacity hthread

/-- While the shell waits, a program that runs lets somebody take a step. -/
theorem Inv.step_of_child (hinv : Inv conducts s) (hbare : s.own = []) (hcapacity : 0 < capacity)
    {stage : Nat} {intent : Intent} (hchild : s.child stage = .running intent) :
    ∃ t, Step capacity s t := by
  rcases childStep_or_waits capacity hchild with
    ⟨t, hstep⟩ | ⟨pipe, -, hempty, hwriter⟩ | ⟨pipe, -, hreader, hfull⟩
  · exact ⟨t, .child hstep⟩
  · exact hinv.step_of_empty hbare hcapacity hwriter hempty
  · obtain ⟨t, hstep⟩ := hinv.childStep_of_full hbare hcapacity hreader hfull
    exact ⟨t, .child hstep⟩

/-! ## The shell -/

/-- A thread that waits for a program ends with it, and until then the program lets
somebody take a step. -/
theorem step_of_waiter (hinv : Inv conducts s) (hturn : InTurn s) (hbare : s.own = [])
    (hcapacity : 0 < capacity) {stage : Nat} {left : Bytes}
    (hthread : s.thread (.waiter stage) = .running left) : ∃ t, Step capacity s t := by
  have hunawaited := hturn.watched stage (by simp [hthread, Thread.Alive])
  cases hchild : s.child stage with
  | running intent => exact hinv.step_of_child hbare hcapacity hchild
  | ended => exact ⟨_, .thread (.reap hthread hchild)⟩
  | absent | awaited =>
      rw [hchild] at hunawaited
      exact hunawaited.elim

/-- The threads that are left are joined, or one of them lets somebody take a step. -/
theorem step_of_join (hinv : Inv conducts s) (hturn : InTurn s) (hcapacity : 0 < capacity)
    {rest : List Op} (htodo : s.todo = .join :: rest) : ∃ t, Step capacity s t := by
  have hbare : s.own = [] := hinv.own_of_waits htodo trivial
  cases htasks : s.tasks with
  | nil => exact ⟨_, .shell (.leave htodo htasks)⟩
  | cons task tasks =>
      have hunjoined := hturn.tasks task (htasks ▸ List.mem_cons_self)
      cases hthread : s.thread task with
      | ended => exact ⟨_, .shell (.join htodo htasks hthread)⟩
      | running left =>
          cases task with
          | feeder stage => exact hinv.step_of_feeder hbare hcapacity hthread
          | waiter stage => exact step_of_waiter hinv hturn hbare hcapacity hthread
      | absent | joined =>
          rw [hthread] at hunjoined
          exact hunjoined.elim

/-- As long as the shell has something to do, somebody can take a step. -/
theorem step_of_todo (hinv : Inv conducts s) (hturn : InTurn s) (hcapacity : 0 < capacity)
    {op : Op} {rest : List Op} (htodo : s.todo = op :: rest) : ∃ t, Step capacity s t := by
  cases op with
  | openPipe stage => exact ⟨_, .shell (.openPipe htodo)⟩
  | duplicate pipeEnd => exact ⟨_, .shell (.duplicate htodo)⟩
  | close pipeEnd => exact ⟨_, .shell (.close htodo)⟩
  | start stage ends => exact ⟨_, .shell (.start htodo .exit)⟩
  | feed stage text => exact ⟨_, .shell (.feed htodo)⟩
  | watch stage => exact ⟨_, .shell (.watch htodo)⟩
  | await stage =>
      have hunawaited := hturn.unawaited_of_todo hinv htodo (.inl rfl)
      cases hchild : s.child stage with
      | ended => exact ⟨_, .shell (.await htodo hchild)⟩
      | running intent =>
          exact hinv.step_of_child (hinv.own_of_waits htodo trivial) hcapacity hchild
      | absent | awaited =>
          rw [hchild] at hunawaited
          exact hunawaited.elim
  | join => exact step_of_join hinv hturn hcapacity htodo

/-! ## Pipelines -/

/-- The shell has done everything, no end of a pipe is open, all programs have been
waited for and all threads have been joined. -/
structure State.IsComplete (s : State) : Prop where
  todo : s.todo = []
  closed : ∀ pipeEnd, ¬ s.IsOpen pipeEnd
  awaited : ∀ stage, s.child stage = .absent ∨ s.child stage = .awaited
  joined : ∀ task, s.thread task = .absent ∨ s.thread task = .joined

theorem Inv.isComplete (hinv : Inv conducts s) (htodo : s.todo = []) : s.IsComplete where
  todo := htodo
  closed := hinv.not_isOpen_of_todo_nil htodo
  awaited := fun stage => Child.not_unawaited (hinv.not_unawaited_of_todo_nil htodo stage)
  joined := fun task => Thread.not_unjoined (hinv.not_unjoined_of_todo_nil htodo task)

/-- In every state that a pipeline can come to, it is complete or somebody can take
a step, whatever the programs do and whatever room the pipes have.  A stage reads
what the stage before it writes, in order and from the beginning; the shell writes
its text in the same way; and a stage that comes to the end of its input has read
all that was written, which is the whole text if the shell has written it. -/
theorem progress_and_order_of_reachable (ex : Executor) (held : Option FileSystem.Handle)
    (run : Executor.Run) (rooms : List Nat) (stages : List (Command × Resolution))
    (hcapacity : 0 < capacity) (hreach : Reachable capacity (ex.conducts held run rooms stages) s) :
    let ready := (ex.setUp held 0 run rooms stages).2
    (s.IsComplete ∨ ∃ t, Step capacity s t) ∧
    (∀ i, s.taken i <+: s.sent i) ∧
    (∀ i text, ready[i]? = some (.done text) → s.sent i <+: text) ∧
    (∀ i, ⟨.read, i⟩ ∈ s.held (.child (i + 1)) → s.content i = [] → ¬ s.IsOpen ⟨.write, i⟩ →
      s.taken i = s.sent i ∧ ∀ text, ready[i]? = some (.done text) → s.taken i = text) ∧
    Wired stages.length s := by
  intro ready
  have hinv := inv_of_reachable hreach
  have hturn := inTurn_of_reachable hreach
  have hconveys := conveys_of_reachable hreach
  have hdone : ∀ (i : Nat) (text : Bytes), ready[i]? = some (Executor.Stage.done text) →
      ∃ conduct : Conduct, (ex.conducts held run rooms stages)[i]? = some conduct ∧
        conduct ≠ .starts ∧ conduct.text = text := by
    intro i text hready
    obtain ⟨resolution, hconduct⟩ := conduct_of_setUp hready
    exact ⟨_, hconduct, Conduct.of_done_ne_starts resolution text,
      Conduct.text_of_done resolution text⟩
  refine ⟨?_, hconveys.taken_isPrefix_sent, fun i text hready => ?_,
    fun i hread hempty hclosed => ?_,
    length_conducts ex held run rooms stages ▸ wired_of_reachable hreach⟩
  · cases htodo : s.todo with
    | nil => exact .inl (hinv.isComplete htodo)
    | cons op rest => exact .inr (step_of_todo hinv hturn hcapacity htodo)
  · obtain ⟨conduct, hconduct, hstarts, rfl⟩ := hdone i text hready
    exact (hconveys.fed i conduct hconduct hstarts).isPrefix
  · have hall : s.taken i = s.sent i := by
      rw [hconveys.kept i, hempty, List.append_nil]
    refine ⟨hall, fun text hready => ?_⟩
    obtain ⟨conduct, hconduct, hstarts, rfl⟩ := hdone i text hready
    rw [hall, hconveys.sent_eq_text hinv hturn hconduct hstarts hread hclosed]

/-- A pipe with room for one byte is full, and its reader has not begun to read. -/
theorem progress_and_order_of_reachable_full_pipe :
    let run : Executor.Run := ⟨⟨⟨[], none, .empty, false⟩, .empty, [], .apart⟩, none, [], []⟩
    let echo : Command × Resolution := (⟨"echo", ["a"], none, none, none⟩, .builtin .echo)
    let tool : Command × Resolution := (⟨"tool", [], none, none, none⟩, .external [])
    ∃ s, Reachable 1 (silent.conducts none run [] [echo, tool]) s ∧ s.todo = [.await 1, .join] ∧
      s.content 0 = [97] ∧ s.thread (.feeder 0) = .running [10] ∧
      (∃ t, Step 1 s t) ∧ s.sent 0 <+: [97, 10] := by
  intro run echo tool
  have hstart : Reachable 1 (silent.conducts none run [] [echo, tool])
    (initial [.writes [97, 10], .starts]) := .refl
  have hfed := (hstart.tail (.shell (.openPipe rfl))).tail (.shell (.feed rfl))
  have hstarted := (hfed.tail (.shell (.start rfl .read))).tail (.shell (.close rfl))
  have hwritten := hstarted.tail (.thread (@ThreadStep.write 1 _ 0 97 [10] rfl
    (.inr ⟨.child 1, by simp [inputEnds]⟩) (by simp [initial])))
  obtain ⟨hstep, -, htext, -⟩ := progress_and_order_of_reachable silent none run [] [echo, tool]
    Nat.one_pos hwritten
  refine ⟨_, hwritten, rfl, rfl, rfl, hstep.resolve_left fun h => ?_, htext 0 [97, 10] rfl⟩
  cases h.todo

end PipelineShell.PipeMachine
