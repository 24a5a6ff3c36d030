import PipelineShell.Proofs.PipeOrder

/-!
# What goes through a pipe

A pipe gives its reader what was written to it, in order and without a gap.  A
thread writes the text of its stage from the beginning, and stops early only when
nobody can read any more.  So a reader that comes to the end of its input has had
all of it.
-/

namespace PipelineShell.PipeMachine

/-- What has been written when a thread has a text to write, and whether somebody
can read it. -/
def Thread.HasFed (text sent : Bytes) (isRead : Prop) : Thread → Prop
  | absent => sent = []
  | running left => sent ++ left = text
  | ended | joined => sent <+: text ∧ (isRead → sent = text)

theorem Thread.HasFed.isPrefix {text sent : Bytes} {isRead : Prop} {thread : Thread}
    (hfed : thread.HasFed text sent isRead) : sent <+: text := by
  cases thread with
  | absent => exact (show sent = [] from hfed) ▸ List.nil_prefix
  | running left => exact ⟨left, hfed⟩
  | ended | joined => exact hfed.1

/-- What holds of the contents of pipes, and of the threads that write texts. -/
structure Conveys (conducts : List Conduct) (s : State) : Prop where
  kept : ∀ stage, s.sent stage = s.taken stage ++ s.content stage
  fed : ∀ stage conduct, conducts[stage]? = some conduct → conduct ≠ .starts →
    (s.thread (.feeder stage)).HasFed conduct.text (s.sent stage) (s.IsOpen ⟨.read, stage⟩)
  feeding : ∀ stage, (s.thread (.feeder stage)).Alive → ⟨.write, stage⟩ ∈ s.held (.feeder stage)
  unfed : ∀ stage conduct, conducts[stage]? = some conduct → conduct.text ≠ [] →
    stage + 1 < conducts.length → s.thread (.feeder stage) = .absent →
    .feed stage conduct.text ∈ s.todo

/-- A text for a pipe is in the list of the shell. -/
theorem feed_mem_ops {stage i : Nat} {conducts : List Conduct} {conduct : Conduct}
    (hconduct : conducts[i]? = some conduct) (htext : conduct.text ≠ [])
    (hlast : i + 1 < conducts.length) : .feed (stage + i) conduct.text ∈ ops stage conducts := by
  induction conducts generalizing stage i with
  | nil => nomatch hconduct
  | cons first rest ih =>
      cases i with
      | zero =>
          obtain rfl : first = conduct := Option.some.inj hconduct
          have hmore : rest.isEmpty = false := by
            cases rest with
            | nil => simp at hlast
            | cons next rest => rfl
          rw [ops, hmore]
          refine List.mem_append_left _ ?_
          cases first with
          | starts => exact absurd rfl htext
          | writes text | fails text =>
              simp only [Conduct.text] at htext ⊢
              simp [stageOps, emitOps, htext]
      | succ i =>
          have hlater : .feed (stage + 1 + i) conduct.text ∈ ops (stage + 1) rest :=
            ih hconduct (by simpa using hlast)
          rw [Nat.add_right_comm] at hlater
          exact List.mem_append_right _ hlater

theorem conveys_initial (conducts : List Conduct) : Conveys conducts (initial conducts) where
  kept := fun _ => rfl
  fed := fun _ _ _ _ => rfl
  feeding := fun _ h => h.elim
  unfed := fun stage conduct hconduct htext hlast _ => by
    have hmem : .feed (0 + stage) conduct.text ∈ ops 0 conducts :=
      feed_mem_ops hconduct htext hlast
    rwa [Nat.zero_add] at hmem

/-! ## Steps -/

theorem Step.kept {capacity : Nat} {s t : State} (hstep : Step capacity s t)
    (hkept : ∀ stage, s.sent stage = s.taken stage ++ s.content stage) :
    ∀ stage, t.sent stage = t.taken stage ++ t.content stage := by
  intro other
  cases hstep with
  | shell h => cases h <;> exact hkept other
  | thread h =>
      cases h with
      | @write stage byte left =>
          by_cases hother : other = stage
          · simp [hother, hkept stage]
          · simp [hother, hkept other]
      | stop | reap => exact hkept other
  | child h =>
      cases h with
      | @read stage pipe front rest hchild hheld hcontent =>
          by_cases hother : other = pipe
          · simp [hother, hkept pipe, hcontent]
          · simp [hother, hkept other]
      | @write stage pipe byte =>
          by_cases hother : other = pipe
          · simp [hother, hkept pipe]
          · simp [hother, hkept other]
      | readEnd | writeElsewhere | stopped | close | exit => exact hkept other

/-- Once a thread is there, nothing makes its pipe readable again. -/
theorem InTurn.isOpen_of_step {conducts : List Conduct} {capacity : Nat} {s t : State}
    (hturn : InTurn s) (hinv : Inv conducts s) (hstep : Step capacity s t) {stage : Nat}
    (hthread : s.thread (.feeder stage) ≠ .absent) (hopen : t.IsOpen ⟨.read, stage⟩) :
    s.IsOpen ⟨.read, stage⟩ := by
  rcases PipeMachine.isOpen_of_step hinv hstep hopen with hbefore | ⟨rest, htodo⟩
  · exact hbefore
  · have := hturn.launched _ hthread _ (mem_turns (htodo ▸ List.mem_cons_self) rfl)
    simp only [Task.stage] at this
    omega

theorem Thread.HasFed.step {conducts : List Conduct} {capacity : Nat} {s t : State}
    {stage : Nat} {text sent : Bytes}
    (hfed : (s.thread (.feeder stage)).HasFed text sent (s.IsOpen ⟨.read, stage⟩))
    (hinv : Inv conducts s) (hturn : InTurn s) (hstep : Step capacity s t) :
    (s.thread (.feeder stage)).HasFed text sent (t.IsOpen ⟨.read, stage⟩) := by
  cases hthread : s.thread (.feeder stage) with
  | absent | running => simpa [hthread, Thread.HasFed] using hfed
  | ended | joined =>
      rw [hthread] at hfed
      exact ⟨hfed.1, fun hopen => hfed.2 (hturn.isOpen_of_step hinv hstep (by simp [hthread]) hopen)⟩

theorem ShellStep.fed {conducts : List Conduct} {s t : State} (hstep : ShellStep s t)
    (hconveys : Conveys conducts s) (hinv : Inv conducts s) (hturn : InTurn s) {stage : Nat}
    {conduct : Conduct} (hconduct : conducts[stage]? = some conduct)
    (hstarts : conduct ≠ .starts) :
    (t.thread (.feeder stage)).HasFed conduct.text (t.sent stage) (t.IsOpen ⟨.read, stage⟩) := by
  have hbefore := hconveys.fed stage conduct hconduct hstarts
  have hany : Step 1 s t := .shell hstep
  have hafter := hbefore.step hinv hturn hany
  cases hstep with
  | openPipe | duplicate | close | start | await | leave => exact hafter
  | watch htodo => simpa using hafter
  | @feed other text rest htodo =>
      by_cases hother : stage = other
      · subst hother
        -- the thread was not there, so nothing has been written yet
        have habsent : s.thread (.feeder stage) = .absent := by
          by_contra hthread
          have := hturn.launched _ hthread _ (mem_turns (htodo ▸ List.mem_cons_self) rfl)
          exact absurd this (Nat.lt_irrefl _)
        have hsent : s.sent stage = [] := by simpa [habsent, Thread.HasFed] using hbefore
        have htext : conduct.text = text := by
          obtain ⟨i, other, hi, rfl, htext, -⟩ :=
            ShellStep.fits hinv (htodo ▸ List.mem_cons_self) (by simp)
          obtain rfl := Option.some.inj (hconduct.symm.trans hi)
          exact htext
        simp [Thread.HasFed, hsent, htext]
      · simpa [hother] using hafter
  | @join rest task tasks htodo htasks hended =>
      by_cases htask : .feeder stage = task
      · subst htask
        rw [hended] at hafter
        simpa [Thread.HasFed] using hafter
      · simpa [htask] using hafter

theorem ThreadStep.fed {conducts : List Conduct} {capacity : Nat} {s t : State}
    (hstep : ThreadStep capacity s t) (hconveys : Conveys conducts s) (hinv : Inv conducts s)
    (hturn : InTurn s) {stage : Nat} {conduct : Conduct}
    (hconduct : conducts[stage]? = some conduct) (hstarts : conduct ≠ .starts) :
    (t.thread (.feeder stage)).HasFed conduct.text (t.sent stage) (t.IsOpen ⟨.read, stage⟩) := by
  have hbefore := hconveys.fed stage conduct hconduct hstarts
  have hafter := hbefore.step hinv hturn (.thread hstep)
  have hreader : s.thread (.feeder stage) ≠ .absent → t.IsOpen ⟨.read, stage⟩ →
      s.IsOpen ⟨.read, stage⟩ := hturn.isOpen_of_step hinv (.thread hstep)
  cases hstep with
  | @write other byte left hthread =>
      by_cases hother : stage = other
      · subst hother
        rw [hthread] at hafter
        simpa [Thread.HasFed] using hafter
      · simpa [hother] using hafter
  | @stop other left hthread hstop =>
      by_cases hother : stage = other
      · subst hother
        have hall : s.sent stage ++ left = conduct.text := by
          simpa [hthread, Thread.HasFed] using hbefore
        have hread : s.IsOpen ⟨.read, stage⟩ → s.sent stage = conduct.text := by
          intro hopen
          rcases hstop with rfl | hclosed
          · simpa using hall
          · exact absurd hopen hclosed
        simp only [State.setHeld, State.setThread, Function.update_self]
        exact ⟨⟨left, hall⟩, fun hopen => hread (hreader (by simp [hthread]) hopen)⟩
      · simpa [hother] using hafter
  | reap => simpa using hafter

/-- A program writes only to the pipe after its own stage. -/
theorem ChildStep.sent_eq {conducts : List Conduct} {capacity : Nat} {s t : State}
    (hstep : ChildStep capacity s t) (hinv : Inv conducts s) {stage : Nat} {conduct : Conduct}
    (hconduct : conducts[stage]? = some conduct) (hstarts : conduct ≠ .starts) :
    t.sent stage = s.sent stage := by
  cases hstep with
  | @write other pipe byte hchild hheld =>
      have hprogram : conducts[pipe]? = some .starts := by
        rcases hinv.holder_of_write hheld with ⟨-, hprogram⟩ | ⟨hholder, -⟩
        · exact hprogram
        · nomatch hholder
      have hne : stage ≠ pipe := by
        rintro rfl
        exact hstarts (Option.some.inj (hconduct.symm.trans hprogram))
      simp [hne]
  | read | readEnd | writeElsewhere | stopped | close | exit => rfl

theorem ChildStep.fed {conducts : List Conduct} {capacity : Nat} {s t : State}
    (hstep : ChildStep capacity s t) (hconveys : Conveys conducts s) (hinv : Inv conducts s)
    (hturn : InTurn s) {stage : Nat} {conduct : Conduct}
    (hconduct : conducts[stage]? = some conduct) (hstarts : conduct ≠ .starts) :
    (t.thread (.feeder stage)).HasFed conduct.text (t.sent stage) (t.IsOpen ⟨.read, stage⟩) := by
  obtain ⟨-, -, -, hthread, -⟩ := hstep.frame
  rw [hstep.sent_eq hinv hconduct hstarts, hthread]
  exact (hconveys.fed stage conduct hconduct hstarts).step hinv hturn (.child hstep)

/-- A thread that is writing keeps the end to which it writes. -/
theorem Step.feeding {capacity : Nat} {s t : State} (hstep : Step capacity s t)
    (hfeeding : ∀ stage, (s.thread (.feeder stage)).Alive →
      ⟨.write, stage⟩ ∈ s.held (.feeder stage)) :
    ∀ stage, (t.thread (.feeder stage)).Alive → ⟨.write, stage⟩ ∈ t.held (.feeder stage) := by
  intro other halive
  cases hstep with
  | shell h =>
      cases h with
      | openPipe | duplicate | close | start | await | leave => simpa using hfeeding other halive
      | watch => simpa using hfeeding other (by simpa using halive)
      | @feed stage text rest htodo =>
          by_cases hother : other = stage
          · simp [hother]
          · simpa [hother] using hfeeding other (by simpa [hother] using halive)
      | @join rest task tasks htodo htasks hended =>
          by_cases hother : .feeder other = task
          · simp [hother, Thread.Alive] at halive
          · exact hfeeding other (by simpa [hother] using halive)
  | thread h =>
      cases h with
      | @write stage byte left hthread =>
          by_cases hother : other = stage
          · exact hfeeding other (by simp [hother, hthread, Thread.Alive])
          · exact hfeeding other (by simpa [hother] using halive)
      | @stop stage left hthread =>
          by_cases hother : other = stage
          · simp [hother, Thread.Alive] at halive
          · simpa [hother] using hfeeding other (by simpa [hother] using halive)
      | reap => exact hfeeding other (by simpa using halive)
  | child h =>
      have hheld : t.held (.feeder other) = s.held (.feeder other) := by
        cases h <;> simp
      rw [hheld]
      exact hfeeding other (h.frame.2.2.2.1 ▸ halive)

theorem ShellStep.unfed {s t : State} (hstep : ShellStep s t)
    {stage : Nat} {text : Bytes}
    (hunfed : s.thread (.feeder stage) = .absent → .feed stage text ∈ s.todo)
    (habsent : t.thread (.feeder stage) = .absent) : .feed stage text ∈ t.todo := by
  cases hstep with
  | openPipe htodo | duplicate htodo | close htodo | start htodo | await htodo | leave htodo
  | watch htodo => simpa [htodo] using hunfed (by simpa using habsent)
  | @feed other text rest htodo =>
      by_cases hother : stage = other
      · simp [hother] at habsent
      · simpa [htodo, hother] using hunfed (by simpa [hother] using habsent)
  | @join rest task tasks htodo htasks hended =>
      by_cases htask : .feeder stage = task
      · simp [htask] at habsent
      · exact hunfed (by simpa [htask] using habsent)

theorem Conveys.step {conducts : List Conduct} {capacity : Nat} {s t : State}
    (hconveys : Conveys conducts s) (hinv : Inv conducts s) (hturn : InTurn s)
    (hstep : Step capacity s t) : Conveys conducts t where
  kept := hstep.kept hconveys.kept
  fed := fun stage conduct hconduct hstarts => by
    cases hstep with
    | shell h => exact h.fed hconveys hinv hturn hconduct hstarts
    | thread h => exact h.fed hconveys hinv hturn hconduct hstarts
    | child h => exact h.fed hconveys hinv hturn hconduct hstarts
  feeding := hstep.feeding hconveys.feeding
  unfed := fun stage conduct hconduct htext hlast habsent => by
    have hbefore := hconveys.unfed stage conduct hconduct htext hlast
    cases hstep with
    | shell h => exact h.unfed hbefore habsent
    | thread h =>
        rw [h.shell_eq.1]
        refine hbefore ?_
        rcases h.thread_eq (.feeder stage) with hsame | ⟨-, hunjoined⟩
        · rw [← hsame, habsent]
        · rw [habsent] at hunjoined
          exact hunjoined.elim
    | child h =>
        obtain ⟨htodo, -, -, hthread, -⟩ := h.frame
        rw [htodo]
        exact hbefore (hthread ▸ habsent)

theorem conveys_of_reachable {conducts : List Conduct} {capacity : Nat} {s : State}
    (hreach : Reachable capacity conducts s) : Conveys conducts s := by
  induction hreach with
  | refl => exact conveys_initial conducts
  | tail hbefore hstep ih =>
      exact ih.step (inv_of_reachable hbefore) (inTurn_of_reachable hbefore) hstep

/-! ## What a reader gets -/

namespace Conveys

variable {conducts : List Conduct} {s : State}

theorem taken_isPrefix_sent (hconveys : Conveys conducts s) (stage : Nat) :
    s.taken stage <+: s.sent stage :=
  ⟨s.content stage, (hconveys.kept stage).symm⟩

/-- A reader that finds its pipe empty, and nobody who can write to it, has had the
whole text. -/
theorem sent_eq_text (hconveys : Conveys conducts s) (hinv : Inv conducts s) (hturn : InTurn s)
    {stage : Nat} {conduct : Conduct} (hconduct : conducts[stage]? = some conduct)
    (hstarts : conduct ≠ .starts) (hread : ⟨.read, stage⟩ ∈ s.held (.child (stage + 1)))
    (hclosed : ¬ s.IsOpen ⟨.write, stage⟩) : s.sent stage = conduct.text := by
  have hfed := hconveys.fed stage conduct hconduct hstarts
  cases hthread : s.thread (.feeder stage) with
  | absent =>
      rw [hthread] at hfed
      refine hfed.trans (Eq.symm ?_)
      -- a text that nobody has started to write comes before the reader starts
      by_contra htext
      obtain ⟨⟨hreader, -⟩, halive⟩ := hinv.held _ _ hread
      have hlast := (List.getElem?_eq_some_iff.mp hreader).1
      have hmem := hconveys.unfed stage conduct hconduct htext hlast hthread
      have hchild : s.child (stage + 1) ≠ .absent := by
        intro habsent
        simp [State.IsAlive, habsent, Child.Alive] at halive
      have := hturn.started _ hchild _ (mem_turns hmem rfl)
      omega
  | running left =>
      have hwrite := hconveys.feeding stage (by simp [hthread, Thread.Alive])
      exact absurd (.inr ⟨_, hwrite⟩) hclosed
  | ended | joined =>
      rw [hthread] at hfed
      exact hfed.2 (.inr ⟨_, hread⟩)

end Conveys

end PipelineShell.PipeMachine
