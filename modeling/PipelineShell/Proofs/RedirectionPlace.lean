import PipelineShell.Proofs.Stages

/-!
# The place of a redirection

A command keeps the words of its stage, which can be written down again from the command and
the place of its first operator.  The place is needed because the arguments before the
operator and those behind the target are kept together; and so it does not matter where
between the arguments a redirection stands.
-/

namespace PipelineShell

/-- A stage whose first operator has a place is cut there. -/
theorem exists_cut_of_findIdx? {stage : List String} {k : Nat}
    (hplace : stage.findIdx? isOperator = some k) :
    ∃ before operator after, stage = before ++ operator :: after ∧ OperatorFree before ∧
      isOperator operator = true ∧ before.length = k := by
  obtain ⟨hk, hoperator, hbefore⟩ := List.findIdx?_eq_some_iff_getElem.1 hplace
  have hcut : stage = stage.take k ++ stage[k] :: stage.drop (k + 1) := by
    rw [List.getElem_cons_drop, List.take_append_drop]
  refine ⟨stage.take k, stage[k], stage.drop (k + 1), hcut, ?_, hoperator,
    List.length_take_of_le (Nat.le_of_lt hk)⟩
  intro word hword
  obtain ⟨j, hj, rfl⟩ := List.mem_take_iff_getElem.1 hword
  have hearlier : j < k := Nat.lt_of_lt_of_le hj (Nat.min_le_left k stage.length)
  exact Bool.eq_false_iff.2 (hbefore j hearlier)

/-- The words of a command, with the redirection as the word of a place. -/
def Command.wordsAt (c : Command) (k : Nat) : List String :=
  c.name :: c.args.take (k - 1) ++ c.operator.toList ++ c.target.toList ++ c.args.drop (k - 1)

/-- A command that a stage gives whose first operator is the word of a place. -/
structure BuiltAt (stage : List String) (k : Nat) (c : Command) : Prop where
  words : c.wordsAt k = stage
  operator : c.operator = stage[k]?
  redirect : c.redirect = stage[k]?.bind Redirect.ofOperator?
  redirects : c.redirect ≠ none
  /-- the target is the next word, also if that is an operator itself -/
  target : c.target = stage[k + 1]?
  /-- all other words are arguments, also operators -/
  args : c.args = (stage.take k).tail ++ stage.drop (k + 2)

theorem builtAt_of_operator {name operator : String} {args : List String}
    (hoperator : isOperator operator = true) (after : List String) :
    BuiltAt (name :: (args ++ operator :: after)) (args.length + 1)
      ⟨name, args ++ after.tail, Redirect.ofOperator? operator, some operator, after.head?⟩ where
  words := by
    cases after <;> simp [Command.wordsAt]
  operator := by simp
  redirect := by simp
  redirects := by
    simpa [isOperator, Option.isSome_iff_ne_none] using hoperator
  target := by
    cases after <;> simp
  args := by
    cases after <;> simp

/-- A redirection may as well stand behind all arguments. -/
theorem buildCommand_moved {front back : List String} {operator : String} (hne : front ≠ [])
    (hfront : OperatorFree front) (hback : OperatorFree back)
    (hoperator : isOperator operator = true) (target : String) :
    buildCommand (front ++ [operator, target] ++ back) =
      buildCommand (front ++ back ++ [operator, target]) := by
  obtain ⟨name, args, rfl⟩ := List.exists_cons_of_ne_nil hne
  have hall : OperatorFree (name :: (args ++ back)) := by
    intro word hword
    rw [← List.cons_append] at hword
    exact (List.mem_append.1 hword).elim (hfront word) (hback word)
  calc buildCommand (name :: args ++ [operator, target] ++ back)
      = buildCommand (name :: (args ++ operator :: target :: back)) := by simp
    _ = .ok ⟨name, args ++ back, Redirect.ofOperator? operator, some operator, some target⟩ :=
        buildCommand_of_operator hfront hoperator (target :: back)
    _ = .ok ⟨name, args ++ back ++ [], Redirect.ofOperator? operator, some operator,
          some target⟩ := by rw [List.append_nil]
    _ = buildCommand (name :: (args ++ back ++ operator :: [target])) :=
        (buildCommand_of_operator hall hoperator [target]).symm
    _ = buildCommand (name :: args ++ back ++ [operator, target]) := by simp

/-- A command keeps the words of its stage, and the place of its redirection does not
matter. -/
theorem buildCommand_keeps_words :
    (∀ stage, stage ≠ [] → stage.findIdx? isOperator = none →
      ∃ c, buildCommand stage = .ok c ∧ stage = c.name :: c.args ∧ c.redirect = none ∧
        c.operator = none ∧ c.target = none) ∧
    (∀ stage k, stage.findIdx? isOperator = some k → 1 ≤ k →
      ∃ c, buildCommand stage = .ok c ∧ BuiltAt stage k c) ∧
    ∀ front back operator target, front ≠ [] → OperatorFree front → OperatorFree back →
      isOperator operator = true →
      buildCommand (front ++ [operator, target] ++ back) =
        buildCommand (front ++ back ++ [operator, target]) := by
  refine ⟨?_, ?_, ?_⟩
  · intro stage hne hplace
    obtain ⟨name, args, rfl⟩ := List.exists_cons_of_ne_nil hne
    exact ⟨_, buildCommand_of_operatorFree (List.findIdx?_eq_none_iff.1 hplace), rfl, rfl, rfl, rfl⟩
  · intro stage k hplace hk
    obtain ⟨before, operator, after, rfl, hfree, hoperator, rfl⟩ := exists_cut_of_findIdx? hplace
    obtain ⟨name, args, rfl⟩ := List.exists_cons_of_ne_nil (List.ne_nil_of_length_pos hk)
    exact ⟨_, buildCommand_of_operator hfree hoperator after, builtAt_of_operator hoperator after⟩
  · intro front back operator target hne hfront hback hoperator
    exact buildCommand_moved hne hfront hback hoperator target

/-- A stage with three operators, of which the first redirects to the second. -/
theorem buildCommand_keeps_words_thrice :
    ∃ c, buildCommand ["sort", "-r", "2>", ">", "a", ">>", "b"] = .ok c ∧
      BuiltAt ["sort", "-r", "2>", ">", "a", ">>", "b"] 2 c ∧ c.target = some ">" ∧
      c.args = ["-r", "a", ">>", "b"] ∧
      buildCommand (["sort", "-r"] ++ ["2>", ">"] ++ ["a", "b"]) =
        buildCommand (["sort", "-r"] ++ ["a", "b"] ++ ["2>", ">"]) ∧
      ∃ plain, buildCommand ["sort", "a"] = .ok plain ∧
        ["sort", "a"] = plain.name :: plain.args := by
  obtain ⟨c, hbuild, hbuilt⟩ := buildCommand_keeps_words.2.1
    ["sort", "-r", "2>", ">", "a", ">>", "b"] 2 (by decide) (by decide)
  obtain ⟨plain, hplain, hwords, -⟩ :=
    buildCommand_keeps_words.1 ["sort", "a"] (by decide) (by decide)
  have hmoved := buildCommand_keeps_words.2.2 ["sort", "-r"] ["a", "b"] "2>" ">" (by decide)
    (by unfold OperatorFree; decide) (by unfold OperatorFree; decide) (by decide)
  exact ⟨c, hbuild, hbuilt, hbuilt.target, hbuilt.args, hmoved, plain, hplain, hwords⟩

end PipelineShell
