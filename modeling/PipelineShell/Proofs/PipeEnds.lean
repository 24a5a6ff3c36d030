import PipelineShell.Proofs.PipeMachine

/-!
# Nobody keeps an end too long

A reader of a pipe sees the end of its input only when nobody holds the end that
is written to.  Whatever comes of the stages, the shell gives each end to the one
program or thread that uses it and keeps no copy, so that it holds none while it
waits.
-/

namespace PipelineShell.PipeMachine

/-! ## The list of the shell -/

/-- The ends that the shell holds after doing a list. -/
def ownAfter (own : List PipeEnd) (done : List Op) : List PipeEnd := done.foldl Op.own own

@[simp]
theorem ownAfter_nil (own : List PipeEnd) : ownAfter own [] = own := rfl

@[simp]
theorem ownAfter_cons (own : List PipeEnd) (op : Op) (done : List Op) :
    ownAfter own (op :: done) = ownAfter (op.own own) done := rfl

@[simp]
theorem ownAfter_append (own : List PipeEnd) (front done : List Op) :
    ownAfter own (front ++ done) = ownAfter (ownAfter own front) done := List.foldl_append

/-- The end that is written to goes to a thread, or is closed at once. -/
theorem ownAfter_emitOps (own : List PipeEnd) (stage : Nat) (text : Bytes) :
    ownAfter own (emitOps false stage text) = own.erase ⟨.write, stage⟩ := by
  cases text <;> rfl

/-- Doing a stage trades the end of the pipe before it for the end of the pipe after it. -/
theorem ownAfter_stageOps (stage : Nat) (conduct : Conduct) :
    ownAfter (inputEnds stage) (stageOps false stage conduct) = inputEnds (stage + 1) := by
  cases stage <;> cases conduct <;>
    simp [stageOps, inputEnds, outputEnds, Op.own, ownAfter_emitOps]

/-- The last stage opens no pipe, and nothing is left. -/
theorem ownAfter_lastOps (stage : Nat) (conduct : Conduct) :
    ownAfter (inputEnds stage) (stageOps true stage conduct) = [] := by
  cases stage <;> cases conduct <;> simp [stageOps, inputEnds, outputEnds, emitOps, Op.own]

/-- What the shell does for stages that are not the last one. -/
def frontOps : (stage : Nat) → List Conduct → List Op
  | _, [] => []
  | stage, conduct :: rest => stageOps false stage conduct ++ frontOps (stage + 1) rest

theorem ops_append (stage : Nat) (front : List Conduct) {rest : List Conduct}
    (hrest : rest ≠ []) :
    ops stage (front ++ rest) = frontOps stage front ++ ops (stage + front.length) rest := by
  induction front generalizing stage with
  | nil => rfl
  | cons conduct front ih =>
      have hmore : (front ++ rest).isEmpty = false := by simp [hrest]
      rw [List.cons_append, ops, hmore, ih (stage + 1), frontOps, List.append_assoc,
        List.length_cons, Nat.add_right_comm, Nat.add_assoc]

theorem ownAfter_frontOps (stage : Nat) (front : List Conduct) :
    ownAfter (inputEnds stage) (frontOps stage front) = inputEnds (stage + front.length) := by
  induction front generalizing stage with
  | nil => rfl
  | cons conduct front ih =>
      rw [frontOps, ownAfter_append, ownAfter_stageOps, ih (stage + 1), List.length_cons,
        Nat.add_right_comm, Nat.add_assoc]

/-- The shell waits for a program or for its threads. -/
def Op.Waits : Op → Prop
  | await _ | join => True
  | openPipe _ | duplicate _ | close _ | start _ _ | feed _ _ | watch _ => False

/-- Whenever the shell waits, it holds no end. -/
def WaitsBare : List PipeEnd → List Op → Prop
  | _, [] => True
  | own, op :: rest => (op.Waits → own = []) ∧ WaitsBare (op.own own) rest

theorem waitsBare_append (own : List PipeEnd) (front rest : List Op) :
    WaitsBare own (front ++ rest) ↔
      WaitsBare own front ∧ WaitsBare (ownAfter own front) rest := by
  induction front generalizing own with
  | nil => simp [WaitsBare]
  | cons op front ih => simp [WaitsBare, ih, and_assoc]

theorem waitsBare_of_forall {own : List PipeEnd} {front : List Op}
    (hfront : ∀ op ∈ front, ¬ op.Waits) : WaitsBare own front := by
  induction front generalizing own with
  | nil => exact trivial
  | cons op front ih =>
      exact ⟨fun h => absurd h (hfront op List.mem_cons_self),
        ih fun op hop => hfront op (List.mem_cons_of_mem _ hop)⟩

/-- What can stand in the list for a stage. -/
def Op.Fits (isLast : Bool) (stage : Nat) (conduct : Conduct) : Op → Prop
  | openPipe _ | duplicate _ | close _ => True
  | start i ends => i = stage ∧ conduct = .starts ∧ ends = inputEnds i ++ outputEnds isLast i
  | feed i text => i = stage ∧ conduct.text = text ∧ text ≠ []
  | watch i => i = stage ∧ isLast = false
  | await _ => isLast = true
  | join => False

theorem fits_of_mem_emitOps {isLast : Bool} {stage : Nat} {conduct : Conduct} :
    ∀ op ∈ emitOps isLast stage conduct.text, op.Fits isLast stage conduct := by
  cases isLast with
  | true => exact List.forall_mem_nil _
  | false =>
      by_cases htext : conduct.text = []
      · simp [emitOps, htext, Op.Fits]
      · simp [emitOps, htext, Op.Fits]

theorem fits_of_mem_stageOps {isLast : Bool} {stage : Nat} {conduct : Conduct} :
    ∀ op ∈ stageOps isLast stage conduct, op.Fits isLast stage conduct := by
  have hemit : ∀ op ∈ emitOps isLast stage conduct.text, op.Fits isLast stage conduct :=
    fits_of_mem_emitOps
  have hclose : ∀ ends : List PipeEnd, ∀ op ∈ ends.map Op.close,
      op.Fits isLast stage conduct := by
    simp [Op.Fits]
  have hduplicate : ∀ ends : List PipeEnd, ∀ op ∈ ends.map Op.duplicate,
      op.Fits isLast stage conduct := by
    simp [Op.Fits]
  have hopen : ∀ op ∈ if isLast then [] else [Op.openPipe stage],
      op.Fits isLast stage conduct := by
    cases isLast <;> simp [Op.Fits]
  cases conduct with
  | writes text =>
      simp only [stageOps, List.forall_mem_append]
      exact ⟨⟨hopen, hclose _⟩, hemit⟩
  | fails text =>
      simp only [stageOps, List.forall_mem_append]
      exact ⟨⟨⟨hopen, hduplicate _⟩, hclose _⟩, hemit⟩
  | starts =>
      simp only [stageOps, List.forall_mem_append]
      refine ⟨⟨⟨⟨⟨hopen, hduplicate _⟩, ?_⟩, hclose _⟩, hclose _⟩, ?_⟩
      · simp [Op.Fits]
      · cases isLast <;> simp [Op.Fits]

theorem waitsBare_stageOps (stage : Nat) (conduct : Conduct) :
    WaitsBare (inputEnds stage) (stageOps false stage conduct) := by
  refine waitsBare_of_forall fun op hop hwaits => ?_
  have hfits := fits_of_mem_stageOps op hop
  cases op with
  | await i => exact absurd hfits Bool.false_ne_true
  | join => exact hfits
  | openPipe | duplicate | close | start | feed | watch => exact hwaits

theorem waitsBare_lastOps (stage : Nat) (conduct : Conduct) :
    WaitsBare (inputEnds stage) (stageOps true stage conduct) := by
  cases stage <;> cases conduct <;>
    simp [stageOps, inputEnds, outputEnds, emitOps, WaitsBare, Op.Waits, Op.own]

theorem waitsBare_ops (stage : Nat) {conducts : List Conduct} (hne : conducts ≠ []) :
    WaitsBare (inputEnds stage) (ops stage conducts) := by
  induction conducts generalizing stage with
  | nil => exact absurd rfl hne
  | cons conduct rest ih =>
      cases rest with
      | nil =>
          have hlast : WaitsBare [] (ops (stage + 1) []) := ⟨fun _ => rfl, trivial⟩
          rw [ops, List.isEmpty_nil, waitsBare_append, ownAfter_lastOps]
          exact ⟨waitsBare_lastOps stage conduct, hlast⟩
      | cons next rest =>
          rw [ops, List.isEmpty_cons, waitsBare_append, ownAfter_stageOps]
          exact ⟨waitsBare_stageOps stage conduct, ih (stage + 1) (List.cons_ne_nil _ _)⟩

theorem waitsBare_program (conducts : List Conduct) : WaitsBare [] (ops 0 conducts) := by
  cases conducts with
  | nil => exact ⟨fun _ => rfl, trivial⟩
  | cons conduct rest => exact waitsBare_ops 0 (List.cons_ne_nil _ _)

/-- The list ends with the joining of the threads, and nothing of a stage comes after it. -/
theorem getLast?_ops (stage : Nat) (conducts : List Conduct) :
    (ops stage conducts).getLast? = some .join := by
  induction conducts generalizing stage with
  | nil => rfl
  | cons conduct rest ih => rw [ops, List.getLast?_append, ih, Option.some_or]

/-- The shell holds no end when its list is done. -/
theorem ownAfter_ops (conducts : List Conduct) : ownAfter [] (ops 0 conducts) = [] := by
  obtain ⟨front, hops⟩ := List.getLast?_eq_some_iff.mp (getLast?_ops 0 conducts)
  have hbare := waitsBare_program conducts
  rw [hops, waitsBare_append] at hbare
  rw [hops, ownAfter_append, hbare.2.1 trivial]
  rfl

/-- After each start of a program the list says who waits for it. -/
def Followed : List Op → Prop
  | [] => True
  | op :: rest =>
    (∀ stage ends, op = .start stage ends → .watch stage ∈ rest ∨ .await stage ∈ rest) ∧
      Followed rest

theorem followed_append {front rest : List Op} (hfront : Followed front)
    (hrest : Followed rest) : Followed (front ++ rest) := by
  induction front with
  | nil => exact hrest
  | cons op front ih =>
      refine ⟨fun stage ends hop => ?_, ih hfront.2⟩
      exact (hfront.1 stage ends hop).imp (List.mem_append_left _) (List.mem_append_left _)

theorem followed_of_append {front rest : List Op} (h : Followed (front ++ rest)) :
    Followed rest := by
  induction front with
  | nil => exact h
  | cons op front ih => exact ih h.2

theorem followed_of_forall {front : List Op}
    (hfront : ∀ op ∈ front, ∀ stage ends, op ≠ .start stage ends) : Followed front := by
  induction front with
  | nil => exact trivial
  | cons op front ih =>
      refine ⟨fun stage ends hop => absurd hop (hfront op List.mem_cons_self stage ends), ?_⟩
      exact ih fun op hop => hfront op (List.mem_cons_of_mem _ hop)

theorem followed_stageOps (isLast : Bool) (stage : Nat) (conduct : Conduct) :
    Followed (stageOps isLast stage conduct) := by
  by_cases hstarts : conduct = .starts
  · subst hstarts
    cases isLast <;> cases stage <;>
      simp [stageOps, inputEnds, outputEnds, Followed]
  · refine followed_of_forall fun op hop i ends hstart => ?_
    have hfits := fits_of_mem_stageOps op hop
    rw [hstart] at hfits
    exact hstarts hfits.2.1

theorem followed_ops (stage : Nat) (conducts : List Conduct) :
    Followed (ops stage conducts) := by
  induction conducts generalizing stage with
  | nil => exact ⟨fun _ _ h => (nomatch h), trivial⟩
  | cons conduct rest ih => exact followed_append (followed_stageOps _ _ _) (ih (stage + 1))

/-- Everything in the list but its end is there for a stage. -/
theorem fits_of_mem_ops {stage : Nat} {conducts : List Conduct} {op : Op}
    (hop : op ∈ ops stage conducts) (hjoin : op ≠ .join) :
    ∃ i conduct, conducts[i]? = some conduct ∧
      op.Fits (i + 1 == conducts.length) (stage + i) conduct := by
  induction conducts generalizing stage with
  | nil => exact absurd (List.mem_singleton.mp hop) hjoin
  | cons conduct rest ih =>
      rcases List.mem_append.mp hop with hfirst | hlater
      · refine ⟨0, conduct, rfl, ?_⟩
        have hlast : rest.isEmpty = (0 + 1 == (conduct :: rest).length) := by
          cases rest <;> rfl
        rw [← hlast]
        exact fits_of_mem_stageOps op hfirst
      · obtain ⟨i, later, hi, hfits⟩ := ih hlater
        refine ⟨i + 1, later, hi, ?_⟩
        have hlast : (i + 1 + 1 == (conduct :: rest).length) = (i + 1 == rest.length) := by simp
        rwa [hlast, ← Nat.add_assoc, Nat.add_right_comm]

theorem start_mem_ops {conducts : List Conduct} {i : Nat} (stage : Nat)
    (hstarts : conducts[i]? = some .starts) :
    ∃ ends, .start (stage + i) ends ∈ ops stage conducts := by
  induction conducts generalizing stage i with
  | nil => nomatch hstarts
  | cons conduct rest ih =>
      cases i with
      | zero =>
          obtain rfl : conduct = .starts := Option.some.inj hstarts
          have hfirst : .start stage (inputEnds stage ++ outputEnds rest.isEmpty stage) ∈
              stageOps rest.isEmpty stage .starts := by
            simp [stageOps]
          exact ⟨_, List.mem_append_left _ hfirst⟩
      | succ i =>
          obtain ⟨ends, hmem⟩ := ih (stage + 1) hstarts
          rw [Nat.add_right_comm] at hmem
          exact ⟨ends, List.mem_append_right _ hmem⟩

/-! ## What holds at every step -/

def Child.Alive : Child → Prop
  | running _ => True
  | absent | ended | awaited => False

/-- Nobody has waited for it. -/
def Child.Unawaited : Child → Prop
  | running _ | ended => True
  | absent | awaited => False

def Thread.Alive : Thread → Prop
  | running _ => True
  | absent | ended | joined => False

def Thread.Unjoined : Thread → Prop
  | running _ | ended => True
  | absent | joined => False

theorem Child.Alive.unawaited {child : Child} (halive : child.Alive) : child.Unawaited := by
  cases child <;> trivial

theorem Child.not_unawaited {child : Child} (h : ¬ child.Unawaited) :
    child = .absent ∨ child = .awaited := by
  cases child with
  | absent => exact .inl rfl
  | awaited => exact .inr rfl
  | running | ended => exact absurd trivial h

theorem Thread.not_unjoined {thread : Thread} (h : ¬ thread.Unjoined) :
    thread = .absent ∨ thread = .joined := by
  cases thread with
  | absent => exact .inl rfl
  | joined => exact .inr rfl
  | running | ended => exact absurd trivial h

theorem Thread.Alive.unjoined {thread : Thread} (halive : thread.Alive) : thread.Unjoined := by
  cases thread <;> trivial

/-- The ends that a program or a thread can ever get. -/
def Holder.MayHold (conducts : List Conduct) : Holder → PipeEnd → Prop
  | child stage, pipeEnd =>
    conducts[stage]? = some .starts ∧ pipeEnd ∈ inputEnds stage ++ [⟨.write, stage⟩]
  | feeder stage, pipeEnd =>
    (∃ conduct, conducts[stage]? = some conduct ∧ conduct.text ≠ []) ∧ pipeEnd = ⟨.write, stage⟩

def State.IsAlive (s : State) : Holder → Prop
  | .child stage => (s.child stage).Alive
  | .feeder stage => (s.thread (.feeder stage)).Alive

/-- A holder stays alive while a program changes, if it is not that program or if
the program stays alive. -/
theorem State.IsAlive.setChild {s : State} {holder : Holder} (halive : s.IsAlive holder)
    {stage : Nat} {child : Child} (hself : holder = .child stage → child.Alive) :
    (s.setChild stage child).IsAlive holder := by
  cases holder with
  | child other =>
      by_cases hother : other = stage
      · simpa [State.IsAlive, hother] using hself (congrArg Holder.child hother)
      · simpa [State.IsAlive, hother] using halive
  | feeder other => exact halive

theorem State.IsAlive.setThread {s : State} {holder : Holder} (halive : s.IsAlive holder)
    {task : Task} {thread : Thread}
    (hself : ∀ stage, holder = .feeder stage → task = .feeder stage → thread.Alive) :
    (s.setThread task thread).IsAlive holder := by
  cases holder with
  | child other => exact halive
  | feeder other =>
      by_cases hother : .feeder other = task
      · simpa [State.IsAlive, hother] using hself other rfl hother.symm
      · simpa [State.IsAlive, hother] using halive

/-- What has ended is not alive. -/
theorem State.IsAlive.ne_child {s : State} {holder : Holder} (halive : s.IsAlive holder)
    {stage : Nat} (hended : s.child stage = .ended) : holder ≠ .child stage := by
  rintro rfl
  rw [State.IsAlive, hended] at halive
  exact halive

theorem State.IsAlive.ne_feeder {s : State} {holder : Holder} (halive : s.IsAlive holder)
    {stage : Nat} (hended : s.thread (.feeder stage) = .ended) : holder ≠ .feeder stage := by
  rintro rfl
  rw [State.IsAlive, hended] at halive
  exact halive

/-- What holds of a run at every step.  That the shell keeps no end comes from
`list` alone; the other fields say who else has one and who will wait for whom. -/
structure Inv (conducts : List Conduct) (s : State) : Prop where
  list : ∃ done, ops 0 conducts = done ++ s.todo ∧ s.own = ownAfter [] done
  held : ∀ holder, ∀ pipeEnd ∈ s.held holder, holder.MayHold conducts pipeEnd ∧ s.IsAlive holder
  present : ∀ stage, s.child stage ≠ .absent → conducts[stage]? = some .starts
  absent : ∀ stage, conducts[stage]? = some .starts → s.child stage = .absent →
    ∃ ends, .start stage ends ∈ s.todo
  unawaited : ∀ stage, (s.child stage).Unawaited →
    .watch stage ∈ s.todo ∨ .await stage ∈ s.todo ∨ (s.thread (.waiter stage)).Alive
  unjoined : ∀ task, (s.thread task).Unjoined → task ∈ s.tasks
  ending : s.todo = [] → s.tasks = []

theorem inv_initial (conducts : List Conduct) : Inv conducts (initial conducts) where
  list := ⟨[], rfl, rfl⟩
  held := fun _ _ h => nomatch h
  present := fun _ h => absurd rfl h
  absent := fun stage hstarts _ => by
    obtain ⟨ends, hmem⟩ := start_mem_ops 0 hstarts
    rw [Nat.zero_add] at hmem
    exact ⟨ends, hmem⟩
  unawaited := fun _ h => h.elim
  unjoined := fun _ h => h.elim
  ending := fun _ => rfl

/-! ## A step of the shell -/

namespace ShellStep

variable {conducts : List Conduct} {s t : State}

theorem todo (hstep : ShellStep s t) :
    (∃ op, s.todo = op :: t.todo ∧ t.own = op.own s.own) ∨
      (t.todo = s.todo ∧ t.own = s.own) := by
  cases hstep with
  | openPipe htodo | duplicate htodo | close htodo | start htodo | feed htodo | watch htodo
  | await htodo | leave htodo => exact .inl ⟨_, htodo, rfl⟩
  | join htodo => exact .inr ⟨rfl, rfl⟩

theorem list (hinv : Inv conducts s) (hstep : ShellStep s t) :
    ∃ done, ops 0 conducts = done ++ t.todo ∧ t.own = ownAfter [] done := by
  obtain ⟨done, hops, hown⟩ := hinv.list
  rcases hstep.todo with ⟨op, htodo, hnext⟩ | ⟨htodo, hnext⟩
  · refine ⟨done ++ [op], ?_, ?_⟩
    · rw [hops, htodo, List.append_assoc, List.singleton_append]
    · rw [hnext, hown, ownAfter_append, ownAfter_cons, ownAfter_nil]
  · exact ⟨done, by rw [hops, htodo], by rw [hnext, hown]⟩

/-- What the list still holds is fit for its stage. -/
theorem fits (hinv : Inv conducts s) {op : Op} (hop : op ∈ s.todo) (hjoin : op ≠ .join) :
    ∃ i conduct, conducts[i]? = some conduct ∧
      op.Fits (i + 1 == conducts.length) i conduct := by
  obtain ⟨done, hops, -⟩ := hinv.list
  have hmem : op ∈ ops 0 conducts := by rw [hops]; exact List.mem_append_right _ hop
  obtain ⟨i, conduct, hi, hfits⟩ := fits_of_mem_ops hmem hjoin
  rw [Nat.zero_add] at hfits
  exact ⟨i, conduct, hi, hfits⟩

/-- A program is started with the ends of its stage. -/
theorem of_start (hinv : Inv conducts s) {stage : Nat} {ends : List PipeEnd}
    (hop : .start stage ends ∈ s.todo) :
    conducts[stage]? = some .starts ∧
      ends = inputEnds stage ++ outputEnds (stage + 1 == conducts.length) stage := by
  obtain ⟨i, conduct, hi, rfl, rfl, hends⟩ := fits hinv hop (by simp)
  exact ⟨hi, hends⟩

theorem mayHold_of_start (hinv : Inv conducts s) {stage : Nat} {ends : List PipeEnd}
    (hop : .start stage ends ∈ s.todo) :
    conducts[stage]? = some .starts ∧
      ∀ pipeEnd ∈ ends, (Holder.child stage).MayHold conducts pipeEnd := by
  obtain ⟨hstarts, rfl⟩ := of_start hinv hop
  refine ⟨hstarts, fun pipeEnd hmem => ⟨hstarts, ?_⟩⟩
  rcases List.mem_append.1 hmem with hinput | houtput
  · exact List.mem_append_left _ hinput
  · refine List.mem_append_right _ ?_
    rw [outputEnds] at houtput
    split at houtput
    · cases houtput
    · exact houtput

theorem mayHold_of_feed (hinv : Inv conducts s) {stage : Nat} {text : Bytes}
    (hop : .feed stage text ∈ s.todo) :
    (Holder.feeder stage).MayHold conducts ⟨.write, stage⟩ := by
  obtain ⟨i, conduct, hi, rfl, rfl, hne⟩ := fits hinv hop (by simp)
  exact ⟨⟨conduct, hi, hne⟩, rfl⟩

theorem held (hinv : Inv conducts s) (hstep : ShellStep s t) :
    ∀ holder, ∀ pipeEnd ∈ t.held holder,
      holder.MayHold conducts pipeEnd ∧ t.IsAlive holder := by
  intro holder pipeEnd hmem
  cases hstep with
  | openPipe | duplicate | close | leave => exact hinv.held holder pipeEnd hmem
  | @start stage ends rest htodo intent =>
      by_cases hholder : holder = .child stage
      · subst hholder
        have hends := (mayHold_of_start hinv (htodo ▸ List.mem_cons_self)).2
        exact ⟨hends pipeEnd (by simpa using hmem), by simp [State.IsAlive, Child.Alive]⟩
      · obtain ⟨hmay, halive⟩ := hinv.held holder pipeEnd (by simpa [hholder] using hmem)
        exact ⟨hmay, halive.setChild fun h => absurd h hholder⟩
  | @feed stage text rest htodo =>
      by_cases hholder : holder = .feeder stage
      · subst hholder
        have hmay := mayHold_of_feed hinv (htodo ▸ List.mem_cons_self)
        obtain rfl : pipeEnd = ⟨.write, stage⟩ := by simpa using hmem
        exact ⟨hmay, by simp [State.IsAlive, Thread.Alive]⟩
      · obtain ⟨hmay, halive⟩ := hinv.held holder pipeEnd (by simpa [hholder] using hmem)
        have hfed : (s.setThread (.feeder stage) (.running text)).IsAlive holder :=
          halive.setThread fun _ _ _ => trivial
        exact ⟨hmay, hfed⟩
  | @watch stage rest htodo =>
      obtain ⟨hmay, halive⟩ := hinv.held holder pipeEnd hmem
      have hwatched : (s.setThread (.waiter stage) (.running [])).IsAlive holder :=
        halive.setThread fun _ _ htask => nomatch htask
      exact ⟨hmay, hwatched⟩
  | @await stage rest htodo hended =>
      obtain ⟨hmay, halive⟩ := hinv.held holder pipeEnd hmem
      exact ⟨hmay, halive.setChild fun h => absurd h (halive.ne_child hended)⟩
  | @join rest task tasks htodo htasks hended =>
      obtain ⟨hmay, halive⟩ := hinv.held holder pipeEnd hmem
      refine ⟨hmay, halive.setThread fun stage hholder htask => ?_⟩
      exact absurd hholder (halive.ne_feeder (htask ▸ hended))

theorem present (hinv : Inv conducts s) (hstep : ShellStep s t) :
    ∀ stage, t.child stage ≠ .absent → conducts[stage]? = some .starts := by
  intro other hchild
  cases hstep with
  | openPipe | duplicate | close | feed | watch | join | leave => exact hinv.present other hchild
  | @start stage ends rest htodo intent =>
      by_cases hother : other = stage
      · exact hother ▸ (mayHold_of_start hinv (htodo ▸ List.mem_cons_self)).1
      · exact hinv.present other (by simpa [hother] using hchild)
  | @await stage rest htodo hended =>
      by_cases hother : other = stage
      · exact hinv.present other (by simp [hother, hended])
      · exact hinv.present other (by simpa [hother] using hchild)

theorem absent (hinv : Inv conducts s) (hstep : ShellStep s t) :
    ∀ stage, conducts[stage]? = some .starts → t.child stage = .absent →
      ∃ ends, .start stage ends ∈ t.todo := by
  intro other hstarts hchild
  cases hstep with
  | openPipe htodo | duplicate htodo | close htodo | feed htodo | watch htodo | leave htodo =>
      simpa [htodo] using hinv.absent other hstarts hchild
  | join => exact hinv.absent other hstarts hchild
  | @start stage ends rest htodo intent =>
      by_cases hother : other = stage
      · simp [hother] at hchild
      · simpa [htodo, hother] using hinv.absent other hstarts (by simpa [hother] using hchild)
  | @await stage rest htodo hended =>
      by_cases hother : other = stage
      · simp [hother] at hchild
      · simpa [htodo] using hinv.absent other hstarts (by simpa [hother] using hchild)

theorem unawaited (hinv : Inv conducts s) (hstep : ShellStep s t) :
    ∀ stage, (t.child stage).Unawaited →
      .watch stage ∈ t.todo ∨ .await stage ∈ t.todo ∨ (t.thread (.waiter stage)).Alive := by
  intro other hchild
  cases hstep with
  | openPipe htodo | duplicate htodo | close htodo | leave htodo =>
      simpa [htodo] using hinv.unawaited other hchild
  | feed htodo => simpa [htodo] using hinv.unawaited other hchild
  | @start stage ends rest htodo intent =>
      by_cases hother : other = stage
      · obtain ⟨done, hops, -⟩ := hinv.list
        have hfollowed : Followed (.start stage ends :: rest) := by
          have := followed_ops 0 conducts
          rw [hops, htodo] at this
          exact followed_of_append this
        rw [hother]
        exact (hfollowed.1 stage ends rfl).imp_right .inl
      · simpa [htodo] using hinv.unawaited other (by simpa [hother] using hchild)
  | @watch stage rest htodo =>
      by_cases hother : other = stage
      · exact .inr (.inr (by simp [hother, Thread.Alive]))
      · simpa [htodo, hother] using hinv.unawaited other hchild
  | @await stage rest htodo hended =>
      by_cases hother : other = stage
      · simp [hother, Child.Unawaited] at hchild
      · simpa [htodo, hother] using hinv.unawaited other (by simpa [hother] using hchild)
  | @join rest task tasks htodo htasks hended =>
      refine (hinv.unawaited other hchild).imp_right (.imp_right fun halive => ?_)
      have hne : .waiter other ≠ task := by
        rintro rfl
        rw [hended] at halive
        exact halive
      simpa [hne] using halive

theorem unjoined (hinv : Inv conducts s) (hstep : ShellStep s t) :
    ∀ task, (t.thread task).Unjoined → task ∈ t.tasks := by
  intro other hthread
  cases hstep with
  | openPipe | duplicate | close | start | await | leave => exact hinv.unjoined other hthread
  | @feed stage text rest htodo =>
      by_cases hother : other = .feeder stage
      · simp [hother]
      · exact List.mem_append_left _ (hinv.unjoined other (by simpa [hother] using hthread))
  | @watch stage rest htodo =>
      by_cases hother : other = .waiter stage
      · simp [hother]
      · exact List.mem_append_left _ (hinv.unjoined other (by simpa [hother] using hthread))
  | @join rest task tasks htodo htasks hended =>
      by_cases hother : other = task
      · simp [hother, Thread.Unjoined] at hthread
      · have hmem := hinv.unjoined other (by simpa [hother] using hthread)
        simpa [htasks, hother] using hmem

theorem ending (hinv : Inv conducts s) (hstep : ShellStep s t) : t.todo = [] → t.tasks = [] := by
  intro hempty
  obtain ⟨done, hops, -⟩ := hinv.list
  have hjoin : ∀ op, s.todo = [op] → op = .join := by
    intro op htodo
    have hlast := getLast?_ops 0 conducts
    rw [hops, htodo, List.getLast?_append, List.getLast?_singleton, Option.some_or] at hlast
    exact Option.some.inj hlast
  cases hstep with
  | leave htodo htasks => exact htasks
  | join htodo => nomatch htodo.symm.trans hempty
  | openPipe htodo | duplicate htodo | close htodo | start htodo | feed htodo | watch htodo
  | await htodo =>
      obtain rfl : _ = [] := hempty
      nomatch hjoin _ htodo

end ShellStep

theorem Inv.shellStep {conducts : List Conduct} {s t : State} (hinv : Inv conducts s)
    (hstep : ShellStep s t) : Inv conducts t where
  list := hstep.list hinv
  held := hstep.held hinv
  present := hstep.present hinv
  absent := hstep.absent hinv
  unawaited := hstep.unawaited hinv
  unjoined := hstep.unjoined hinv
  ending := hstep.ending hinv

/-! ## A step of a thread or a program -/

namespace ThreadStep

variable {conducts : List Conduct} {capacity : Nat} {s t : State}

theorem held (hinv : Inv conducts s) (hstep : ThreadStep capacity s t) :
    ∀ holder, ∀ pipeEnd ∈ t.held holder,
      holder.MayHold conducts pipeEnd ∧ t.IsAlive holder := by
  intro holder pipeEnd hmem
  cases hstep with
  | @write stage byte left hthread hreader hroom =>
      obtain ⟨hmay, halive⟩ := hinv.held holder pipeEnd hmem
      exact ⟨hmay, halive.setThread fun _ _ _ => trivial⟩
  | @stop stage left hthread hstop =>
      have hholder : holder ≠ .feeder stage := by
        rintro rfl
        simp at hmem
      obtain ⟨hmay, halive⟩ := hinv.held holder pipeEnd (by simpa [hholder] using hmem)
      refine ⟨hmay, halive.setThread fun other hother htask => ?_⟩
      exact absurd (hother.trans (congrArg Holder.feeder (Task.feeder.inj htask).symm)) hholder
  | @reap stage left hthread hended =>
      obtain ⟨hmay, halive⟩ := hinv.held holder pipeEnd hmem
      have hchild : holder ≠ .child stage := halive.ne_child hended
      have hreaped : (s.setThread (.waiter stage) .ended).IsAlive holder :=
        halive.setThread fun _ _ htask => nomatch htask
      exact ⟨hmay, hreaped.setChild fun h => absurd h hchild⟩

theorem child_eq (hstep : ThreadStep capacity s t) (stage : Nat) :
    t.child stage = s.child stage ∨ s.child stage = .ended ∧ t.child stage = .awaited := by
  cases hstep with
  | write | stop => exact .inl rfl
  | @reap other left hthread hended =>
      by_cases hstage : stage = other
      · exact .inr (by simp [hstage, hended])
      · exact .inl (by simp [hstage])

theorem unawaited (hinv : Inv conducts s) (hstep : ThreadStep capacity s t) :
    ∀ stage, (t.child stage).Unawaited →
      .watch stage ∈ t.todo ∨ .await stage ∈ t.todo ∨ (t.thread (.waiter stage)).Alive := by
  intro other hchild
  cases hstep with
  | write | stop => simpa using hinv.unawaited other hchild
  | @reap stage left hthread hended =>
      by_cases hother : other = stage
      · simp [hother, Child.Unawaited] at hchild
      · simpa [hother] using hinv.unawaited other (by simpa [hother] using hchild)

theorem unjoined (hinv : Inv conducts s) (hstep : ThreadStep capacity s t) :
    ∀ task, (t.thread task).Unjoined → task ∈ t.tasks := by
  intro other hthreadOther
  cases hstep with
  | @write stage byte left hthread =>
      by_cases hother : other = .feeder stage
      · exact hinv.unjoined other (by simp [hother, hthread, Thread.Unjoined])
      · exact hinv.unjoined other (by simpa [hother] using hthreadOther)
  | @stop stage left hthread =>
      by_cases hother : other = .feeder stage
      · exact hinv.unjoined other (by simp [hother, hthread, Thread.Unjoined])
      · exact hinv.unjoined other (by simpa [hother] using hthreadOther)
  | @reap stage left hthread =>
      by_cases hother : other = .waiter stage
      · exact hinv.unjoined other (by simp [hother, hthread, Thread.Unjoined])
      · exact hinv.unjoined other (by simpa [hother] using hthreadOther)

theorem shell_eq (hstep : ThreadStep capacity s t) :
    t.todo = s.todo ∧ t.own = s.own ∧ t.tasks = s.tasks := by
  cases hstep <;> exact ⟨rfl, rfl, rfl⟩

end ThreadStep

theorem Inv.threadStep {conducts : List Conduct} {capacity : Nat} {s t : State}
    (hinv : Inv conducts s) (hstep : ThreadStep capacity s t) : Inv conducts t := by
  obtain ⟨htodo, hown, htasks⟩ := hstep.shell_eq
  refine ⟨?_, hstep.held hinv, fun stage hchild => ?_, fun stage hstarts hchild => ?_,
    hstep.unawaited hinv, hstep.unjoined hinv, ?_⟩
  · rw [htodo, hown]
    exact hinv.list
  · rcases hstep.child_eq stage with hsame | ⟨hended, -⟩
    · exact hinv.present stage (hsame ▸ hchild)
    · exact hinv.present stage (by simp [hended])
  · rcases hstep.child_eq stage with hsame | ⟨-, hawaited⟩
    · rw [htodo]
      exact hinv.absent stage hstarts (hsame ▸ hchild)
    · rw [hawaited] at hchild
      nomatch hchild
  · rw [htodo, htasks]
    exact hinv.ending

/-- A program changes nothing but itself, what it holds and what is in pipes. -/
theorem ChildStep.frame {capacity : Nat} {s t : State} (hstep : ChildStep capacity s t) :
    t.todo = s.todo ∧ t.own = s.own ∧ t.tasks = s.tasks ∧ t.thread = s.thread ∧
      ∃ stage intent, s.child stage = .running intent ∧
        ((∃ next, t.child = Function.update s.child stage (.running next) ∧
            ∀ holder, ∀ pipeEnd ∈ t.held holder, pipeEnd ∈ s.held holder) ∨
          t.child = Function.update s.child stage .ended ∧
            t.held = Function.update s.held (.child stage) []) := by
  cases hstep with
  | read hchild | readEnd hchild | write hchild | writeElsewhere hchild =>
      exact ⟨rfl, rfl, rfl, rfl, _, _, hchild, .inl ⟨_, rfl, fun _ _ h => h⟩⟩
  | stopped hchild | exit hchild =>
      exact ⟨rfl, rfl, rfl, rfl, _, _, hchild, .inr ⟨rfl, rfl⟩⟩
  | @close stage side hchild next =>
      refine ⟨rfl, rfl, rfl, rfl, _, _, hchild, .inl ⟨_, rfl, fun holder pipeEnd hmem => ?_⟩⟩
      by_cases hholder : holder = .child stage
      · subst hholder
        have hkept : pipeEnd ∈ s.held (.child stage) ∧ pipeEnd.side ≠ side := by simpa using hmem
        exact hkept.1
      · simpa [hholder] using hmem

theorem Inv.childStep {conducts : List Conduct} {capacity : Nat} {s t : State}
    (hinv : Inv conducts s) (hstep : ChildStep capacity s t) : Inv conducts t := by
  obtain ⟨htodo, hown, htasks, hthread, stage, intent, hchild, hnext⟩ := hstep.frame
  have hself : (s.child stage).Unawaited := by rw [hchild]; trivial
  have hsame : ∀ other, other ≠ stage → t.child other = s.child other := by
    intro other hother
    rcases hnext with ⟨next, hupdate, -⟩ | ⟨hupdate, -⟩ <;> simp [hupdate, hother]
  have hpresent : t.child stage ≠ .absent := by
    rcases hnext with ⟨next, hupdate, -⟩ | ⟨hupdate, -⟩ <;> simp [hupdate]
  refine ⟨?_, fun holder pipeEnd hmem => ?_, fun other hother => ?_, fun other hstarts hother => ?_,
    fun other hother => ?_, fun task htask => ?_, ?_⟩
  · rw [htodo, hown]
    exact hinv.list
  · have hbefore : pipeEnd ∈ s.held holder ∧
        (holder = .child stage → ∃ next, t.child stage = .running next) := by
      rcases hnext with ⟨next, hupdate, hheld⟩ | ⟨hupdate, hheld⟩
      · exact ⟨hheld holder pipeEnd hmem, fun _ => ⟨next, by simp [hupdate]⟩⟩
      · have hne : holder ≠ .child stage := by
          rintro rfl
          simp [hheld] at hmem
        exact ⟨by simpa [hheld, hne] using hmem, fun h => absurd h hne⟩
    obtain ⟨hmay, halive⟩ := hinv.held holder pipeEnd hbefore.1
    refine ⟨hmay, ?_⟩
    cases holder with
    | child other =>
        by_cases hother : other = stage
        · obtain ⟨next, hrunning⟩ := hbefore.2 (by rw [hother])
          rw [State.IsAlive, hother, hrunning]
          trivial
        · rwa [State.IsAlive, hsame other hother]
    | feeder other => rwa [State.IsAlive, hthread]
  · by_cases hstage : other = stage
    · exact hinv.present other (by simp [hstage, hchild])
    · exact hinv.present other (hsame other hstage ▸ hother)
  · by_cases hstage : other = stage
    · exact absurd (hstage ▸ hother) hpresent
    · rw [htodo]
      exact hinv.absent other hstarts (hsame other hstage ▸ hother)
  · rw [htodo, hthread]
    by_cases hstage : other = stage
    · exact hinv.unawaited other (hstage ▸ hself)
    · exact hinv.unawaited other (hsame other hstage ▸ hother)
  · rw [htasks]
    exact hinv.unjoined task (hthread ▸ htask)
  · rw [htodo, htasks]
    exact hinv.ending

theorem inv_of_reachable {conducts : List Conduct} {capacity : Nat} {s : State}
    (hreach : Reachable capacity conducts s) : Inv conducts s := by
  induction hreach with
  | refl => exact inv_initial conducts
  | tail _ hstep ih =>
      cases hstep with
      | shell h => exact ih.shellStep h
      | thread h => exact ih.threadStep h
      | child h => exact ih.childStep h

/-! ## Who holds an end -/

namespace Inv

variable {conducts : List Conduct} {s : State}

/-- While the shell waits, it holds no end. -/
theorem own_of_waits (hinv : Inv conducts s) {op : Op} {rest : List Op}
    (htodo : s.todo = op :: rest) (hwaits : op.Waits) : s.own = [] := by
  obtain ⟨done, hops, hown⟩ := hinv.list
  have hbare := waitsBare_program conducts
  rw [hops, htodo, waitsBare_append] at hbare
  rw [hown]
  exact hbare.2.1 hwaits

/-- Between two stages the shell holds the end from which the next one reads. -/
theorem own_of_todo (hinv : Inv conducts s) {stage : Nat} (hstage : stage < conducts.length)
    (htodo : s.todo = ops stage (conducts.drop stage)) : s.own = inputEnds stage := by
  obtain ⟨done, hops, hown⟩ := hinv.list
  have hrest : conducts.drop stage ≠ [] := by simpa using hstage
  have hfront := ops_append 0 (conducts.take stage) hrest
  have hlength : 0 + (conducts.take stage).length = stage := by
    rw [List.length_take, Nat.min_eq_left (Nat.le_of_lt hstage), Nat.zero_add]
  rw [List.take_append_drop, hlength, hops, htodo] at hfront
  rw [hown, List.append_cancel_right hfront]
  exact (ownAfter_frontOps 0 (conducts.take stage)).trans (congrArg inputEnds hlength)

/-- Only the program of a stage can read from the pipe before it. -/
theorem holder_of_read (hinv : Inv conducts s) {stage : Nat} {holder : Holder}
    (hheld : ⟨.read, stage⟩ ∈ s.held holder) :
    holder = .child (stage + 1) ∧ conducts[stage + 1]? = some .starts := by
  obtain ⟨hmay, -⟩ := hinv.held holder _ hheld
  cases holder with
  | child other =>
      obtain ⟨hstarts, hmem⟩ := hmay
      cases other with
      | zero => simp [inputEnds] at hmem
      | succ before =>
          obtain rfl : stage = before := by simpa [inputEnds] using hmem
          exact ⟨rfl, hstarts⟩
  | feeder other => nomatch congrArg PipeEnd.side hmay.2

/-- Only the program of a stage, or the thread that writes for the stage, can write
to the pipe after it. -/
theorem holder_of_write (hinv : Inv conducts s) {stage : Nat} {holder : Holder}
    (hheld : ⟨.write, stage⟩ ∈ s.held holder) :
    holder = .child stage ∧ conducts[stage]? = some .starts ∨
      holder = .feeder stage ∧ ∃ conduct, conducts[stage]? = some conduct ∧ conduct.text ≠ [] := by
  obtain ⟨hmay, -⟩ := hinv.held holder _ hheld
  cases holder with
  | child other =>
      obtain ⟨hstarts, hmem⟩ := hmay
      obtain rfl : stage = other := by
        cases other <;> simpa [inputEnds] using hmem
      exact .inl ⟨rfl, hstarts⟩
  | feeder other =>
      obtain rfl : stage = other := congrArg PipeEnd.stage hmay.2
      exact .inr ⟨rfl, hmay.1⟩

/-- If a program starts, nothing but the program gets the end to which it writes. -/
theorem heldOnlyBy_child (hinv : Inv conducts s) {stage : Nat}
    (hstarts : conducts[stage]? = some .starts) (hown : ⟨.write, stage⟩ ∉ s.own) :
    s.HeldOnlyBy (.child stage) ⟨.write, stage⟩ := by
  refine ⟨hown, fun holder hheld => ?_⟩
  rcases hinv.holder_of_write hheld with ⟨hholder, -⟩ | ⟨-, conduct, hconduct, htext⟩
  · exact hholder
  · obtain rfl := Option.some.inj (hstarts.symm.trans hconduct)
    exact absurd rfl htext

/-- If no program starts, nothing but a thread that writes a text gets the end. -/
theorem heldOnlyBy_feeder (hinv : Inv conducts s) {stage : Nat}
    (hstarts : conducts[stage]? ≠ some .starts) (hown : ⟨.write, stage⟩ ∉ s.own) :
    s.HeldOnlyBy (.feeder stage) ⟨.write, stage⟩ := by
  refine ⟨hown, fun holder hheld => ?_⟩
  rcases hinv.holder_of_write hheld with ⟨-, hprogram⟩ | ⟨hholder, -⟩
  · exact absurd hprogram hstarts
  · exact hholder

/-- If there is neither a program nor a text, nothing gets the end. -/
theorem not_isOpen_of_silent (hinv : Inv conducts s) {stage : Nat} {conduct : Conduct}
    (hconduct : conducts[stage]? = some conduct) (hstarts : conduct ≠ .starts)
    (htext : conduct.text = []) (hown : ⟨.write, stage⟩ ∉ s.own) :
    ¬ s.IsOpen ⟨.write, stage⟩ := by
  rintro (hmem | ⟨holder, hheld⟩)
  · exact hown hmem
  · rcases hinv.holder_of_write hheld with ⟨-, hprogram⟩ | ⟨-, other, hother, hne⟩
    · exact hstarts (Option.some.inj (hconduct.symm.trans hprogram))
    · obtain rfl := Option.some.inj (hconduct.symm.trans hother)
      exact hne htext

/-- All threads have been joined when the list is done. -/
theorem not_unjoined_of_todo_nil (hinv : Inv conducts s) (htodo : s.todo = []) (task : Task) :
    ¬ (s.thread task).Unjoined := by
  intro hthread
  have hmem := hinv.unjoined task hthread
  rw [hinv.ending htodo] at hmem
  nomatch hmem

/-- All programs have been waited for when the list is done. -/
theorem not_unawaited_of_todo_nil (hinv : Inv conducts s) (htodo : s.todo = []) (stage : Nat) :
    ¬ (s.child stage).Unawaited := by
  intro hchild
  rcases hinv.unawaited stage hchild with hmem | hmem | halive
  · rw [htodo] at hmem
    nomatch hmem
  · rw [htodo] at hmem
    nomatch hmem
  · exact hinv.not_unjoined_of_todo_nil htodo _ halive.unjoined

/-- No end is open when the list is done. -/
theorem not_isOpen_of_todo_nil (hinv : Inv conducts s) (htodo : s.todo = [])
    (pipeEnd : PipeEnd) : ¬ s.IsOpen pipeEnd := by
  obtain ⟨done, hops, hown⟩ := hinv.list
  have hempty : s.own = [] := by
    rw [htodo, List.append_nil] at hops
    rw [hown, ← hops, ownAfter_ops]
  rintro (hmem | ⟨holder, hmem⟩)
  · rw [hempty] at hmem
    nomatch hmem
  · obtain ⟨-, halive⟩ := hinv.held holder pipeEnd hmem
    cases holder with
    | child stage => exact hinv.not_unawaited_of_todo_nil htodo stage halive.unawaited
    | feeder stage => exact hinv.not_unjoined_of_todo_nil htodo _ halive.unjoined

end Inv

end PipelineShell.PipeMachine
