import PipelineShell.Proofs.PipeEnds

/-!
# In what order things come into being

The shell sets up one stage after another: first the pipe after it, then its
program, then the thread that writes or waits for it.  It hands on only ends that
it has.  So a program or a thread that is there has had its turn, and nothing that
is still to be done can make it or open its pipe again.
-/

namespace PipelineShell.PipeMachine

/-! ## Turns -/

namespace Op

/-- The turn of what the shell does once for a stage. -/
def turn? : Op → Option Nat
  | openPipe stage => some (3 * stage)
  | start stage _ => some (3 * stage + 1)
  | feed stage _ | watch stage | await stage => some (3 * stage + 2)
  | duplicate _ | close _ | join => none

end Op

/-- The turns in a list. -/
def turns (list : List Op) : List Nat := list.filterMap Op.turn?

@[simp]
theorem turns_append (front rest : List Op) : turns (front ++ rest) = turns front ++ turns rest :=
  List.filterMap_append

theorem turns_cons (op : Op) (rest : List Op) :
    turns (op :: rest) = op.turn?.toList ++ turns rest := by
  cases hturn : op.turn? <;> simp [turns, hturn]

theorem turns_close (ends : List PipeEnd) : turns (ends.map .close) = [] := by
  simp [turns, Op.turn?]

theorem turns_duplicate (ends : List PipeEnd) : turns (ends.map .duplicate) = [] := by
  simp [turns, Op.turn?]

theorem mem_turns {op : Op} {list : List Op} (hop : op ∈ list) {turn : Nat}
    (hturn : op.turn? = some turn) : turn ∈ turns list :=
  List.mem_filterMap.mpr ⟨op, hop, hturn⟩

theorem turns_emitOps (isLast : Bool) (stage : Nat) (text : Bytes) :
    turns (emitOps isLast stage text) = [] ∨ turns (emitOps isLast stage text) = [3 * stage + 2] := by
  cases isLast <;> cases text <;> simp [emitOps, turns, Op.turn?]

/-- The turns of a stage are its own, and none comes twice. -/
theorem turns_stageOps (isLast : Bool) (stage : Nat) (conduct : Conduct) :
    (turns (stageOps isLast stage conduct)).Pairwise (· < ·) ∧
      ∀ turn ∈ turns (stageOps isLast stage conduct), 3 * stage ≤ turn ∧ turn < 3 * (stage + 1) := by
  have hopening : turns (if isLast then [] else [Op.openPipe stage]) = [] ∨
      turns (if isLast then [] else [Op.openPipe stage]) = [3 * stage] := by
    cases isLast <;> simp [turns, Op.turn?]
  have hemit := turns_emitOps isLast stage conduct.text
  cases conduct with
  | writes text | fails text =>
      simp only [Conduct.text] at hemit
      simp only [stageOps, turns_append, turns_close, turns_duplicate, List.append_nil]
      rcases hopening with h | h <;> rcases hemit with h' | h' <;> simp [h, h'] <;> omega
  | starts =>
      have hstart : ∀ ends, turns [.start stage ends] = [3 * stage + 1] := fun _ => rfl
      have hlast : turns [if isLast then .await stage else .watch stage] = [3 * stage + 2] := by
        cases isLast <;> rfl
      simp only [stageOps, turns_append, turns_close, turns_duplicate, List.append_nil, hstart,
        hlast]
      rcases hopening with h | h <;> simp [h] <;> omega

theorem le_of_mem_turns_ops {stage : Nat} {conducts : List Conduct} {turn : Nat}
    (hturn : turn ∈ turns (ops stage conducts)) : 3 * stage ≤ turn := by
  induction conducts generalizing stage with
  | nil => nomatch hturn
  | cons conduct rest ih =>
      rw [ops, turns_append, List.mem_append] at hturn
      rcases hturn with hfirst | hlater
      · exact ((turns_stageOps _ _ _).2 turn hfirst).1
      · have := ih hlater
        omega

theorem pairwise_turns_ops (stage : Nat) (conducts : List Conduct) :
    (turns (ops stage conducts)).Pairwise (· < ·) := by
  induction conducts generalizing stage with
  | nil => exact .nil
  | cons conduct rest ih =>
      obtain ⟨hfirst, hbound⟩ := turns_stageOps rest.isEmpty stage conduct
      rw [ops, turns_append, List.pairwise_append]
      refine ⟨hfirst, ih (stage + 1), fun turn hturn later hlater => ?_⟩
      exact Nat.lt_of_lt_of_le (hbound turn hturn).2 (le_of_mem_turns_ops hlater)

/-- What comes first in the list has its turn before all that comes later. -/
theorem Inv.turn_lt {conducts : List Conduct} {s : State} (hinv : Inv conducts s) {op : Op}
    {rest : List Op} (htodo : s.todo = op :: rest) {turn : Nat} (hturn : op.turn? = some turn) :
    ∀ later ∈ turns rest, turn < later := by
  obtain ⟨done, hops, -⟩ := hinv.list
  have hpairwise := pairwise_turns_ops 0 conducts
  rw [hops, htodo, turns_append, turns_cons, hturn, List.pairwise_append] at hpairwise
  exact (List.pairwise_cons.mp hpairwise.2.1).1

/-! ## The shell uses only ends that it has -/

/-- The shell has the ends that it gives away, closes or doubles. -/
def Op.Grounded (own : List PipeEnd) : Op → Prop
  | duplicate pipeEnd | close pipeEnd => pipeEnd ∈ own
  | start _ ends => ends ⊆ own
  | feed stage _ => ⟨.write, stage⟩ ∈ own
  | openPipe _ | watch _ | await _ | join => True

def Grounded : List PipeEnd → List Op → Prop
  | _, [] => True
  | own, op :: rest => op.Grounded own ∧ Grounded (op.own own) rest

theorem grounded_append (own : List PipeEnd) (front rest : List Op) :
    Grounded own (front ++ rest) ↔ Grounded own front ∧ Grounded (ownAfter own front) rest := by
  induction front generalizing own with
  | nil => simp [Grounded]
  | cons op front ih => simp [Grounded, ih, and_assoc]

theorem grounded_emitOps {own : List PipeEnd} {isLast : Bool} {stage : Nat} {text : Bytes}
    (hown : outputEnds isLast stage ⊆ own) : Grounded own (emitOps isLast stage text) := by
  cases isLast with
  | true => exact trivial
  | false => cases text <;> simpa [emitOps, Grounded, Op.Grounded, outputEnds] using hown

theorem grounded_stageOps (isLast : Bool) (stage : Nat) (conduct : Conduct) :
    Grounded (inputEnds stage) (stageOps isLast stage conduct) := by
  cases conduct with
  | writes text | fails text =>
      simp only [stageOps, grounded_append]
      refine ⟨?_, grounded_emitOps ?_⟩ <;> cases isLast <;> cases stage <;>
        simp [Grounded, Op.Grounded, Op.own, inputEnds, outputEnds]
  | starts =>
      cases isLast <;> cases stage <;>
        simp [stageOps, Grounded, Op.Grounded, Op.own, inputEnds, outputEnds]

theorem grounded_ops (stage : Nat) (conducts : List Conduct) :
    Grounded (inputEnds stage) (ops stage conducts) := by
  induction conducts generalizing stage with
  | nil => exact ⟨trivial, trivial⟩
  | cons conduct rest ih =>
      rw [ops, grounded_append]
      refine ⟨grounded_stageOps _ _ _, ?_⟩
      cases rest with
      | nil => exact ⟨trivial, trivial⟩
      | cons next rest =>
          rw [List.isEmpty_cons, ownAfter_stageOps]
          exact ih (stage + 1)

theorem Inv.grounded {conducts : List Conduct} {s : State} (hinv : Inv conducts s) {op : Op}
    {rest : List Op} (htodo : s.todo = op :: rest) : op.Grounded s.own := by
  obtain ⟨done, hops, hown⟩ := hinv.list
  have hgrounded : Grounded [] (ops 0 conducts) := grounded_ops 0 conducts
  rw [hops, htodo, grounded_append] at hgrounded
  rw [hown]
  exact hgrounded.2.1

/-- An end is open only if it was, or if its pipe has just been opened. -/
theorem isOpen_of_step {conducts : List Conduct} {capacity : Nat} {s t : State}
    (hinv : Inv conducts s) (hstep : Step capacity s t) {pipeEnd : PipeEnd}
    (hopen : t.IsOpen pipeEnd) :
    s.IsOpen pipeEnd ∨ ∃ rest, s.todo = .openPipe pipeEnd.stage :: rest := by
  have hsub : ∀ {holder : Holder} {ends : List PipeEnd},
      (∀ e ∈ ends, s.IsOpen e) →
      (∃ other, pipeEnd ∈ Function.update s.held holder ends other) → s.IsOpen pipeEnd := by
    rintro holder ends hends ⟨other, hmem⟩
    by_cases hother : other = holder
    · subst hother
      exact hends pipeEnd (by simpa using hmem)
    · exact .inr ⟨other, by simpa [hother] using hmem⟩
  cases hstep with
  | shell h =>
      cases h with
      | @openPipe stage rest htodo =>
          rcases hopen with hown | hheld
          · simp only [State.advance, Op.own, List.mem_cons] at hown
            rcases hown with rfl | rfl | hown
            · exact .inr ⟨rest, htodo⟩
            · exact .inr ⟨rest, htodo⟩
            · exact .inl (.inl hown)
          · exact .inl (.inr hheld)
      | duplicate htodo =>
          rcases hopen with hown | hheld
          · rcases List.mem_cons.mp hown with rfl | hown
            · exact .inl (.inl (hinv.grounded htodo))
            · exact .inl (.inl hown)
          · exact .inl (.inr hheld)
      | close htodo => exact .inl (hopen.imp_left List.mem_of_mem_erase)
      | start htodo intent =>
          rcases hopen with hown | hheld
          · exact .inl (.inl hown)
          · exact .inl (hsub (fun e he => .inl (hinv.grounded htodo he)) hheld)
      | feed htodo =>
          rcases hopen with hown | hheld
          · exact .inl (.inl (List.mem_of_mem_erase hown))
          · refine .inl (hsub (fun e he => .inl ?_) hheld)
            exact List.mem_singleton.mp he ▸ hinv.grounded htodo
      | watch | await | join | leave => exact .inl hopen
  | thread h =>
      cases h with
      | write | reap => exact .inl hopen
      | stop =>
          refine .inl (hopen.elim .inl (hsub ?_))
          intro e he
          cases he
  | child h =>
      cases h with
      | read | readEnd | write | writeElsewhere => exact .inl hopen
      | stopped | exit =>
          refine .inl (hopen.elim .inl (hsub ?_))
          intro e he
          cases he
      | close =>
          refine .inl (hopen.elim .inl (hsub fun e he => ?_))
          exact .inr ⟨_, (List.mem_filter.mp he).1⟩

/-! ## What is there has had its turn -/

def Task.stage : Task → Nat
  | feeder stage | waiter stage => stage

/-- What is there, or has been waited for, has had its turn.  A thread that waits
for a program still has it to wait for, and the threads that the shell has to join
are there, each of them once. -/
structure InTurn (s : State) : Prop where
  started : ∀ stage, s.child stage ≠ .absent → ∀ turn ∈ turns s.todo, 3 * stage + 1 < turn
  awaited : ∀ stage, s.child stage = .awaited → ∀ turn ∈ turns s.todo, 3 * stage + 2 < turn
  launched : ∀ task, s.thread task ≠ .absent → ∀ turn ∈ turns s.todo, 3 * task.stage + 2 < turn
  watched : ∀ stage, (s.thread (.waiter stage)).Alive → (s.child stage).Unawaited
  tasks : ∀ task ∈ s.tasks, (s.thread task).Unjoined
  nodup : s.tasks.Nodup

theorem inTurn_initial (conducts : List Conduct) : InTurn (initial conducts) where
  started := fun _ h => absurd rfl h
  awaited := fun _ h => nomatch h
  launched := fun _ h => absurd rfl h
  watched := fun _ h => h.elim
  tasks := fun _ h => nomatch h
  nodup := .nil

/-- The shell waits for the program of a stage, or leaves that to a thread. -/
def Op.Minds (stage : Nat) (op : Op) : Prop := op = .await stage ∨ op = .watch stage

theorem Op.Minds.turn?_eq {stage : Nat} {op : Op} (hminds : op.Minds stage) :
    op.turn? = some (3 * stage + 2) := by
  rcases hminds with rfl | rfl <;> rfl

theorem starts_of_mem_stageOps {isLast : Bool} {stage i : Nat} {conduct : Conduct} {op : Op}
    (hop : op ∈ stageOps isLast stage conduct) (hminds : op.Minds i) :
    i = stage ∧ conduct = .starts := by
  cases conduct with
  | starts => rcases hminds with rfl | rfl <;> cases isLast <;> simp_all [stageOps]
  | writes text | fails text =>
      rcases hminds with rfl | rfl <;> cases isLast <;> cases text <;>
        simp [stageOps, emitOps] at hop

/-- The shell waits only for stages whose program starts. -/
theorem starts_of_mem_ops {stage i : Nat} {conducts : List Conduct} {op : Op}
    (hop : op ∈ ops stage conducts) (hminds : op.Minds (stage + i)) :
    conducts[i]? = some .starts := by
  induction conducts generalizing stage i with
  | nil =>
      obtain rfl : op = .join := List.mem_singleton.mp hop
      rcases hminds with h | h <;> nomatch h
  | cons conduct rest ih =>
      rcases List.mem_append.mp hop with hfirst | hlater
      · obtain ⟨hi, hconduct⟩ := starts_of_mem_stageOps hfirst hminds
        obtain rfl : i = 0 := by omega
        exact congrArg some hconduct
      · have hle := le_of_mem_turns_ops (mem_turns hlater hminds.turn?_eq)
        obtain ⟨j, rfl⟩ : ∃ j, i = j + 1 := ⟨i - 1, by omega⟩
        refine ih hlater ?_
        rwa [Nat.add_right_comm, Nat.add_assoc]

/-- A program that the shell comes to wait for is there, and nobody has waited for it. -/
theorem InTurn.unawaited_of_todo {conducts : List Conduct} {s : State} (hturn : InTurn s)
    (hinv : Inv conducts s) {stage : Nat} {op : Op} {rest : List Op} (htodo : s.todo = op :: rest)
    (hminds : op.Minds stage) : (s.child stage).Unawaited := by
  have hmem : op ∈ s.todo := htodo ▸ List.mem_cons_self
  have hstarts : conducts[stage]? = some .starts := by
    obtain ⟨done, hops, -⟩ := hinv.list
    have hall : op ∈ ops 0 conducts := hops ▸ List.mem_append_right done hmem
    exact starts_of_mem_ops hall ((Nat.zero_add stage).symm ▸ hminds)
  by_contra hnot
  rcases Child.not_unawaited hnot with habsent | hawaited
  · obtain ⟨ends, hstart⟩ := hinv.absent stage hstarts habsent
    rw [htodo, List.mem_cons] at hstart
    rcases hstart with rfl | hrest
    · rcases hminds with h | h <;> nomatch h
    · have := hinv.turn_lt htodo hminds.turn?_eq _ (mem_turns hrest rfl)
      omega
  · have := hturn.awaited stage hawaited _ (mem_turns hmem hminds.turn?_eq)
    omega

namespace ShellStep

variable {conducts : List Conduct} {s t : State}

/-- What is still to be done after a step had still to be done before it. -/
theorem turns_subset (hstep : ShellStep s t) : turns t.todo ⊆ turns s.todo := by
  rcases hstep.todo with ⟨op, htodo, -⟩ | ⟨htodo, -⟩
  · rw [htodo, turns_cons]
    exact List.subset_append_right _ _
  · rw [htodo]
    exact List.Subset.refl _

theorem started (hinv : Inv conducts s) (hturn : InTurn s) (hstep : ShellStep s t) :
    ∀ stage, t.child stage ≠ .absent → ∀ turn ∈ turns t.todo, 3 * stage + 1 < turn := by
  intro other hchild turn hmem
  have hbefore := hstep.turns_subset hmem
  cases hstep with
  | openPipe | duplicate | close | feed | watch | join | leave =>
      exact hturn.started other hchild turn hbefore
  | @start stage ends rest htodo intent =>
      by_cases hother : other = stage
      · exact hother ▸ hinv.turn_lt htodo rfl turn hmem
      · exact hturn.started other (by simpa [hother] using hchild) turn hbefore
  | @await stage rest htodo hended =>
      by_cases hother : other = stage
      · exact hturn.started other (by simp [hother, hended]) turn hbefore
      · exact hturn.started other (by simpa [hother] using hchild) turn hbefore

theorem awaited (hinv : Inv conducts s) (hturn : InTurn s) (hstep : ShellStep s t) :
    ∀ stage, t.child stage = .awaited → ∀ turn ∈ turns t.todo, 3 * stage + 2 < turn := by
  intro other hchild turn hmem
  have hbefore := hstep.turns_subset hmem
  cases hstep with
  | openPipe | duplicate | close | feed | watch | join | leave =>
      exact hturn.awaited other hchild turn hbefore
  | @start stage ends rest htodo intent =>
      by_cases hother : other = stage
      · simp [hother] at hchild
      · exact hturn.awaited other (by simpa [hother] using hchild) turn hbefore
  | @await stage rest htodo hended =>
      by_cases hother : other = stage
      · exact hother ▸ hinv.turn_lt htodo rfl turn hmem
      · exact hturn.awaited other (by simpa [hother] using hchild) turn hbefore

theorem launched (hinv : Inv conducts s) (hturn : InTurn s) (hstep : ShellStep s t) :
    ∀ task, t.thread task ≠ .absent → ∀ turn ∈ turns t.todo, 3 * task.stage + 2 < turn := by
  intro other hthread turn hmem
  have hbefore := hstep.turns_subset hmem
  cases hstep with
  | openPipe | duplicate | close | start | await | leave =>
      exact hturn.launched other hthread turn hbefore
  | @feed stage text rest htodo =>
      by_cases hother : other = .feeder stage
      · exact hother ▸ hinv.turn_lt htodo rfl turn hmem
      · exact hturn.launched other (by simpa [hother] using hthread) turn hbefore
  | @watch stage rest htodo =>
      by_cases hother : other = .waiter stage
      · exact hother ▸ hinv.turn_lt htodo rfl turn hmem
      · exact hturn.launched other (by simpa [hother] using hthread) turn hbefore
  | @join rest task tasks htodo htasks hended =>
      by_cases hother : other = task
      · exact hturn.launched other (by simp [hother, hended]) turn hbefore
      · exact hturn.launched other (by simpa [hother] using hthread) turn hbefore

theorem watched (hinv : Inv conducts s) (hturn : InTurn s) (hstep : ShellStep s t) :
    ∀ stage, (t.thread (.waiter stage)).Alive → (t.child stage).Unawaited := by
  intro other halive
  cases hstep with
  | openPipe | duplicate | close | leave => exact hturn.watched other halive
  | feed htodo => exact hturn.watched other (by simpa using halive)
  | @start stage ends rest htodo intent =>
      by_cases hother : other = stage
      · simp [hother, Child.Unawaited]
      · simpa [hother] using hturn.watched other halive
  | @watch stage rest htodo =>
      by_cases hother : other = stage
      · rw [hother]
        exact hturn.unawaited_of_todo hinv htodo (.inr rfl)
      · exact hturn.watched other (by simpa [hother] using halive)
  | @await stage rest htodo hended =>
      by_cases hother : other = stage
      · -- the shell waits for this program itself, so no thread does
        subst hother
        have hthread : s.thread (.waiter other) ≠ .absent := by
          intro habsent
          simp [habsent, Thread.Alive] at halive
        have := hturn.launched _ hthread _ (mem_turns (htodo ▸ List.mem_cons_self) rfl)
        exact absurd this (Nat.lt_irrefl _)
      · simpa [hother] using hturn.watched other halive
  | @join rest task tasks htodo htasks hended =>
      by_cases hother : .waiter other = task
      · simp [hother, Thread.Alive] at halive
      · exact hturn.watched other (by simpa [hother] using halive)

/-- A thread that the shell starts was not there before. -/
theorem not_mem_tasks (hturn : InTurn s) {op : Op} {rest : List Op} (htodo : s.todo = op :: rest)
    {task : Task} (hop : op.turn? = some (3 * task.stage + 2)) : task ∉ s.tasks := by
  intro hmem
  have hthread : s.thread task ≠ .absent := by
    intro habsent
    have := hturn.tasks task hmem
    rwa [habsent] at this
  have := hturn.launched task hthread _ (mem_turns (htodo ▸ List.mem_cons_self) hop)
  exact absurd this (Nat.lt_irrefl _)

theorem tasks_concat (hturn : InTurn s) {task : Task} (hnew : task ∉ s.tasks) {thread : Thread}
    (hthread : thread.Unjoined) :
    (∀ other ∈ s.tasks ++ [task], (Function.update s.thread task thread other).Unjoined) ∧
      (s.tasks ++ [task]).Nodup := by
  refine ⟨fun other hmem => ?_, ?_⟩
  · by_cases hother : other = task
    · simpa [hother] using hthread
    · simpa [hother] using hturn.tasks other (by simpa [hother] using hmem)
  · rw [List.nodup_append]
    refine ⟨hturn.nodup, List.pairwise_singleton _ _, fun other hmem last hlast heq => hnew ?_⟩
    rwa [← List.mem_singleton.mp hlast, ← heq]

theorem tasks (hturn : InTurn s) (hstep : ShellStep s t) :
    (∀ task ∈ t.tasks, (t.thread task).Unjoined) ∧ t.tasks.Nodup := by
  cases hstep with
  | openPipe | duplicate | close | start | await | leave => exact ⟨hturn.tasks, hturn.nodup⟩
  | feed htodo => exact tasks_concat hturn (not_mem_tasks hturn htodo rfl) trivial
  | watch htodo => exact tasks_concat hturn (not_mem_tasks hturn htodo rfl) trivial
  | @join rest task tasks htodo htasks hended =>
      obtain ⟨hnew, hnodup⟩ := List.nodup_cons.mp (htasks ▸ hturn.nodup)
      refine ⟨fun other hmem => ?_, hnodup⟩
      have hne : other ≠ task := fun h => hnew (h ▸ hmem)
      simpa [hne] using hturn.tasks other (htasks ▸ List.mem_cons_of_mem _ hmem)

end ShellStep

theorem InTurn.shellStep {conducts : List Conduct} {s t : State} (hturn : InTurn s)
    (hinv : Inv conducts s) (hstep : ShellStep s t) : InTurn t where
  started := hstep.started hinv hturn
  awaited := hstep.awaited hinv hturn
  launched := hstep.launched hinv hturn
  watched := hstep.watched hinv hturn
  tasks := (hstep.tasks hturn).1
  nodup := (hstep.tasks hturn).2

/-- A thread changes only while it is alive, and then it is still to be joined. -/
theorem ThreadStep.thread_eq {capacity : Nat} {s t : State} (hstep : ThreadStep capacity s t)
    (task : Task) :
    t.thread task = s.thread task ∨ (s.thread task).Alive ∧ (t.thread task).Unjoined := by
  have hupdate : ∀ {own : Task} {left : Bytes} {next : Thread},
      s.thread own = .running left → next.Unjoined →
      Function.update s.thread own next task = s.thread task ∨
        (s.thread task).Alive ∧ (Function.update s.thread own next task).Unjoined := by
    intro own left next hown hnext
    by_cases htask : task = own
    · exact .inr ⟨by simp [htask, hown, Thread.Alive], by simpa [htask] using hnext⟩
    · exact .inl (by simp [htask])
  cases hstep with
  | write hthread | stop hthread | reap hthread => exact hupdate hthread trivial

theorem InTurn.threadStep {capacity : Nat} {s t : State} (hturn : InTurn s)
    (hstep : ThreadStep capacity s t) : InTurn t := by
  obtain ⟨htodo, -, htasks⟩ := hstep.shell_eq
  refine ⟨fun stage hchild => ?_, fun stage hchild => ?_, fun task hthread => ?_,
    fun stage halive => ?_, fun task hmem => ?_, htasks ▸ hturn.nodup⟩
  · rw [htodo]
    rcases hstep.child_eq stage with hsame | ⟨hended, -⟩
    · exact hturn.started stage (hsame ▸ hchild)
    · exact hturn.started stage (by simp [hended])
  · rw [htodo]
    cases hstep with
    | write | stop => exact hturn.awaited stage hchild
    | @reap other left hthread hended =>
        by_cases hother : stage = other
        · exact hother ▸ hturn.launched (.waiter other) (by simp [hthread])
        · exact hturn.awaited stage (by simpa [hother] using hchild)
  · rw [htodo]
    refine hturn.launched task fun habsent => hthread ?_
    rcases hstep.thread_eq task with hsame | ⟨halive, -⟩
    · rw [hsame, habsent]
    · rw [habsent] at halive
      exact halive.elim
  · cases hstep with
    | write | stop => exact hturn.watched stage (by simpa using halive)
    | @reap other left hthread hended =>
        by_cases hother : stage = other
        · simp [hother, Thread.Alive] at halive
        · simpa [hother] using hturn.watched stage (by simpa [hother] using halive)
  · rcases hstep.thread_eq task with hsame | ⟨-, hunjoined⟩
    · exact hsame ▸ hturn.tasks task (htasks ▸ hmem)
    · exact hunjoined

theorem InTurn.childStep {capacity : Nat} {s t : State} (hturn : InTurn s)
    (hstep : ChildStep capacity s t) : InTurn t := by
  obtain ⟨htodo, -, htasks, hthread, stage, intent, hchild, hnext⟩ := hstep.frame
  -- the program that moves was running, and it still has to be waited for
  obtain ⟨next, hupdate, hnextAlive⟩ : ∃ next, t.child = Function.update s.child stage next ∧
      next.Unawaited := by
    rcases hnext with ⟨next, hupdate, -⟩ | ⟨hupdate, -⟩ <;> exact ⟨_, hupdate, trivial⟩
  refine ⟨fun other hother => ?_, fun other hother => ?_, fun task htask => ?_,
    fun other halive => ?_, fun task hmem => ?_, htasks ▸ hturn.nodup⟩
  · rw [htodo]
    by_cases hstage : other = stage
    · exact hturn.started other (by simp [hstage, hchild])
    · exact hturn.started other (by simpa [hupdate, hstage] using hother)
  · rw [htodo]
    by_cases hstage : other = stage
    · obtain rfl : next = .awaited := by simpa [hupdate, hstage] using hother
      exact hnextAlive.elim
    · exact hturn.awaited other (by simpa [hupdate, hstage] using hother)
  · rw [htodo]
    exact hturn.launched task (hthread ▸ htask)
  · by_cases hstage : other = stage
    · simpa [hupdate, hstage] using hnextAlive
    · simpa [hupdate, hstage] using hturn.watched other (hthread ▸ halive)
  · exact hthread ▸ hturn.tasks task (htasks ▸ hmem)

theorem inTurn_of_reachable {conducts : List Conduct} {capacity : Nat} {s : State}
    (hreach : Reachable capacity conducts s) : InTurn s := by
  induction hreach with
  | refl => exact inTurn_initial conducts
  | tail hbefore hstep ih =>
      cases hstep with
      | shell h => exact ih.shellStep (inv_of_reachable hbefore) h
      | thread h => exact ih.threadStep h
      | child h => exact ih.childStep h

end PipelineShell.PipeMachine
