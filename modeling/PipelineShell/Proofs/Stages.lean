import Mathlib.Data.List.Forall2
import Mathlib.Data.List.TakeWhile
import PipelineShell.Pipeline
import PipelineShell.Proofs.Splitting

/-!
# Stages and their commands

The stages of a line are the non-empty pieces between its pipes.  A stage is a
command unless it starts with a redirection operator, and its words can be read
off the command again.
-/

namespace PipelineShell

/-- A traversal that succeeds has succeeded at every element. -/
theorem mapM_eq_ok_iff {A B E : Type} (f : A → Except E B) (inputs : List A)
    (outputs : List B) :
    inputs.mapM f = .ok outputs ↔
      List.Forall₂ (fun input output => f input = .ok output) inputs outputs := by
  induction inputs generalizing outputs with
  | nil => cases outputs <;> simp [pure, Except.pure]
  | cons input inputs ih =>
      rw [List.mapM_cons]
      cases outputs with
      | nil =>
          cases f input <;> cases inputs.mapM f <;> simp [bind, Except.bind, pure, Except.pure]
      | cons output outputs =>
          rw [List.forall₂_cons, ← ih]
          cases f input <;> cases inputs.mapM f <;> simp [bind, Except.bind, pure, Except.pure]

/-- A traversal fails with what its first failing element fails with. -/
theorem mapM_eq_error_iff {A B E : Type} (f : A → Except E B) (inputs : List A) (e : E) :
    inputs.mapM f = .error e ↔
      ∃ before input after, inputs = before ++ input :: after ∧
        (∀ earlier ∈ before, ∃ output, f earlier = .ok output) ∧ f input = .error e := by
  constructor
  · intro hmap
    induction inputs with
    | nil => nomatch hmap
    | cons first inputs ih =>
        rw [List.mapM_cons] at hmap
        cases hfirst : f first with
        | error found =>
            obtain rfl : found = e := by simpa [hfirst, bind, Except.bind] using hmap
            exact ⟨[], first, inputs, rfl, by simp, hfirst⟩
        | ok output =>
            have hrest : inputs.mapM f = .error e := by
              cases hinputs : inputs.mapM f with
              | error found => simpa [hfirst, hinputs, bind, Except.bind] using hmap
              | ok outputs => simp [hfirst, hinputs, bind, Except.bind, pure, Except.pure] at hmap
            obtain ⟨before, input, after, rfl, hbefore, hinput⟩ := ih hrest
            exact ⟨first :: before, input, after, rfl,
              List.forall_mem_cons.2 ⟨⟨output, hfirst⟩, hbefore⟩, hinput⟩
  · rintro ⟨before, input, after, rfl, hbefore, hinput⟩
    induction before with
    | nil =>
        rw [List.nil_append, List.mapM_cons, hinput]
        rfl
    | cons first before ih =>
        obtain ⟨⟨output, hfirst⟩, hrest⟩ := List.forall_mem_cons.1 hbefore
        rw [List.cons_append, List.mapM_cons, hfirst, ih hrest]
        rfl

/-- What stands on the right of related lists is related to something on the left. -/
theorem exists_left_of_forall₂ {A B : Type} {R : A → B → Prop} {inputs : List A}
    {outputs : List B} (hrelated : List.Forall₂ R inputs outputs) {output : B}
    (hmem : output ∈ outputs) : ∃ input ∈ inputs, R input output := by
  induction hrelated with
  | nil => nomatch hmem
  | @cons input _ inputs _ hfirst _ ih =>
      rcases List.mem_cons.1 hmem with rfl | hrest
      · exact ⟨input, List.mem_cons_self, hfirst⟩
      · obtain ⟨found, hfound, hR⟩ := ih hrest
        exact ⟨found, List.mem_cons_of_mem _ hfound, hR⟩

/-- The last element on the right is related to the last one on the left. -/
theorem getLast?_of_forall₂ {A B : Type} {R : A → B → Prop} {inputs : List A} {outputs : List B}
    (hrelated : List.Forall₂ R inputs outputs) {output : B}
    (hlast : outputs.getLast? = some output) :
    ∃ input, inputs.getLast? = some input ∧ R input output := by
  have hreversed := List.forall₂_reverse_iff.2 hrelated
  rw [List.getLast?_eq_head?_reverse] at hlast ⊢
  generalize inputs.reverse = fromEnd at hreversed ⊢
  generalize outputs.reverse = relatedFromEnd at hreversed hlast
  cases hreversed with
  | nil => nomatch hlast
  | cons hfirst _ =>
      obtain rfl := Option.some.inj hlast
      exact ⟨_, rfl, hfirst⟩

/-! ## Cutting at the pipes -/

theorem foldr_consWord (words : List String) :
    words.foldr consWord [[]] = words.splitOn "|" := by
  induction words with
  | nil => simp
  | cons word words ih =>
      rw [List.foldr_cons, ih, List.splitOn_cons_eq_if_modifyHead]
      obtain ⟨stage, rest, hsplit⟩ := List.exists_cons_of_ne_nil (List.splitOn_ne_nil "|" words)
      by_cases hpipe : word = "|"
      · simp [consWord, hpipe]
      · simp [consWord, hpipe, hsplit]

theorem splitStages_eq (words : List String) :
    splitStages words = (words.splitOn "|").filter (fun stage => !stage.isEmpty) := by
  rw [splitStages, foldr_consWord]

/-- A stage is not empty and holds no pipe. -/
theorem stage_of_mem_splitStages {words stage : List String}
    (hstage : stage ∈ splitStages words) : stage ≠ [] ∧ "|" ∉ stage := by
  rw [splitStages_eq, List.mem_filter] at hstage
  exact ⟨by simpa using hstage.2, not_mem_of_mem_splitOn hstage.1⟩

/-- Stages that pipes join are the stages that are read. -/
theorem splitStages_intercalate {stages : List (List String)}
    (hstages : ∀ stage ∈ stages, stage ≠ [] ∧ "|" ∉ stage) :
    splitStages (["|"].intercalate stages) = stages := by
  by_cases hne : stages = []
  · subst hne
    rfl
  · rw [splitStages_eq, List.splitOn_intercalate "|" (fun stage h => (hstages stage h).2) hne,
      List.filter_eq_self]
    intro stage hmem
    simpa using (hstages stage hmem).1

/-! ## The command of a stage -/

theorem getLast?_operator {operator : String} (hoperator : isOperator operator = true) :
    operator.toList.getLast? = some '>' := by
  rw [isOperator, Redirect.ofOperator?.eq_def] at hoperator
  split at hoperator
  all_goals first | decide | simp at hoperator

/-- Words of which none is a redirection operator. -/
def OperatorFree (words : List String) : Prop :=
  ∀ word ∈ words, isOperator word = false

theorem takeWhile_operatorFree {before : List String} (hbefore : OperatorFree before)
    {operator : String} (hoperator : isOperator operator = true) (after : List String) :
    (before ++ operator :: after).takeWhile (fun word => !isOperator word) = before := by
  rw [List.takeWhile_append_of_pos (by simpa [OperatorFree] using hbefore)]
  simp [hoperator]

theorem dropWhile_operatorFree {before : List String} (hbefore : OperatorFree before)
    {operator : String} (hoperator : isOperator operator = true) (after : List String) :
    (before ++ operator :: after).dropWhile (fun word => !isOperator word) =
      operator :: after := by
  rw [List.dropWhile_append_of_pos (by simpa [OperatorFree] using hbefore)]
  simp [hoperator]

theorem buildCommand_of_operatorFree {name : String} {args : List String}
    (hfree : OperatorFree (name :: args)) :
    buildCommand (name :: args) = .ok ⟨name, args, none, none, none⟩ := by
  have htake : (name :: args).takeWhile (fun word => !isOperator word) = name :: args :=
    List.takeWhile_eq_self_iff.2 (by simpa [OperatorFree] using hfree)
  have hdrop : (name :: args).dropWhile (fun word => !isOperator word) = [] :=
    List.dropWhile_eq_nil_iff.2 (by simpa [OperatorFree] using hfree)
  rw [buildCommand, htake, hdrop]

theorem buildCommand_of_operator {name operator : String} {args : List String}
    (hfree : OperatorFree (name :: args)) (hoperator : isOperator operator = true)
    (after : List String) :
    buildCommand (name :: (args ++ operator :: after)) =
      .ok ⟨name, args ++ after.tail, Redirect.ofOperator? operator, some operator,
        after.head?⟩ := by
  rw [← List.cons_append, buildCommand, takeWhile_operatorFree hfree hoperator,
    dropWhile_operatorFree hfree hoperator]

theorem buildCommand_of_leading {operator : String} (hoperator : isOperator operator = true)
    (after : List String) :
    buildCommand (operator :: after) = .error (.missingCommand operator) := by
  simp [buildCommand, hoperator]

/-- A stage starts with an operator, or it is a name and arguments without one,
or these and then an operator. -/
theorem stage_cases {stage : List String} (hne : stage ≠ []) :
    (∃ operator after, isOperator operator = true ∧ stage = operator :: after) ∨
    (∃ name args, OperatorFree (name :: args) ∧ stage = name :: args) ∨
    ∃ name args operator after, OperatorFree (name :: args) ∧ isOperator operator = true ∧
      stage = name :: (args ++ operator :: after) := by
  have hsplit : stage.takeWhile (fun word => !isOperator word) ++
      stage.dropWhile (fun word => !isOperator word) = stage := List.takeWhile_append_dropWhile
  have hfree : OperatorFree (stage.takeWhile (fun word => !isOperator word)) := by
    intro word hword
    simpa using List.mem_takeWhile_imp hword
  have hhead := List.head?_dropWhile_not (fun word => !isOperator word) stage
  cases hrest : stage.dropWhile (fun word => !isOperator word) with
  | nil =>
      rw [hrest, List.append_nil] at hsplit
      rw [hsplit] at hfree
      obtain ⟨name, args, rfl⟩ := List.exists_cons_of_ne_nil hne
      exact .inr (.inl ⟨name, args, hfree, rfl⟩)
  | cons operator after =>
      have hoperator : isOperator operator = true := by simpa [hrest] using hhead
      rw [hrest] at hsplit
      cases hbefore : stage.takeWhile (fun word => !isOperator word) with
      | nil =>
          rw [hbefore] at hsplit
          exact .inl ⟨operator, after, hoperator, hsplit.symm⟩
      | cons name args =>
          rw [hbefore] at hsplit hfree
          exact .inr (.inr ⟨name, args, operator, after, hfree, hoperator, hsplit.symm⟩)

/-- Only a stage that starts with an operator is no command. -/
theorem buildCommand_eq_error_iff {stage : List String} (hne : stage ≠ []) (e : LineError) :
    buildCommand stage = .error e ↔
      ∃ operator after, isOperator operator = true ∧ stage = operator :: after ∧
        e = .missingCommand operator := by
  constructor
  · intro hbuild
    rcases stage_cases hne with ⟨operator, after, hoperator, rfl⟩ |
      ⟨name, args, hfree, rfl⟩ | ⟨name, args, operator, after, hfree, hoperator, rfl⟩
    · rw [buildCommand_of_leading hoperator] at hbuild
      exact ⟨operator, after, hoperator, rfl, (Except.error.inj hbuild).symm⟩
    · rw [buildCommand_of_operatorFree hfree] at hbuild
      nomatch hbuild
    · rw [buildCommand_of_operator hfree hoperator] at hbuild
      nomatch hbuild
  · rintro ⟨operator, after, hoperator, rfl, rfl⟩
    exact buildCommand_of_leading hoperator after

/-- A command whose redirection has a target: in its stage the target follows the first
operator. -/
theorem stage_of_target {stage : List String} (hne : stage ≠ []) {c : Command}
    (hbuild : buildCommand stage = .ok c) {target : String} (htarget : c.target = some target) :
    ∃ before operator after, OperatorFree before ∧ isOperator operator = true ∧
      stage = before ++ operator :: target :: after := by
  rcases stage_cases hne with ⟨operator, after, hoperator, rfl⟩ |
    ⟨name, args, hfree, rfl⟩ | ⟨name, args, operator, after, hfree, hoperator, rfl⟩
  · rw [buildCommand_of_leading hoperator] at hbuild
    nomatch hbuild
  · rw [buildCommand_of_operatorFree hfree] at hbuild
    obtain rfl := Except.ok.inj hbuild
    nomatch htarget
  · rw [buildCommand_of_operator hfree hoperator] at hbuild
    obtain rfl := Except.ok.inj hbuild
    obtain ⟨rest, rfl⟩ := List.head?_eq_some_iff.1 htarget
    exact ⟨name :: args, operator, rest, hfree, hoperator, rfl⟩

end PipelineShell
