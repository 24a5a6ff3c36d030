import PipelineShell.Proofs.Rendering

/-!
# What a line means

A line whose quotes are closed is judged by the groups of words between its pipes.  The
leftmost group without a command comes first; then the last group counts, which alone has
to name the file of its redirection; and any other line means one command for each group.
-/

namespace PipelineShell

namespace LineMeaning

/-- The groups of words between the words `|`, without the empty ones. -/
def groups (words : List String) : List (List String) :=
  (words.splitOn "|").filter fun group => !group.isEmpty

/-- A group that starts with a redirection operator. -/
def LacksCommand (operator : String) (group : List String) : Prop :=
  isOperator operator = true ∧ ∃ after, group = operator :: after

def HasCommand (group : List String) : Prop :=
  ∀ operator, ¬ LacksCommand operator group

/-- A group whose first redirection operator is its last word. -/
def LacksTarget (operator : String) (group : List String) : Prop :=
  isOperator operator = true ∧ ∃ before, OperatorFree before ∧ group = before ++ [operator]

/-- What groups of words mean together. -/
inductive Verdict (stages : List (List String)) : Except LineError (Option Pipeline) → Prop where
  /-- the leftmost group without a command, whatever else is wrong -/
  | missingCommand {before after : List (List String)} {group : List String} {operator : String} :
      stages = before ++ group :: after → (∀ earlier ∈ before, HasCommand earlier) →
      LacksCommand operator group → Verdict stages (.error (.missingCommand operator))
  /-- the last group, if no group is without a command -/
  | missingTarget {last : List String} {operator : String} :
      (∀ group ∈ stages, HasCommand group) → stages.getLast? = some last →
      LacksTarget operator last → Verdict stages (.error (.missingRedirectTarget operator))
  | nothing : stages = [] → Verdict stages (.ok none)
  /-- each command is built from its own group alone -/
  | commands {p : Pipeline} :
      (∀ group ∈ stages, HasCommand group) →
      (∀ last, stages.getLast? = some last → ∀ operator, ¬ LacksTarget operator last) →
      List.Forall₂ (fun group command => buildCommand group = .ok command) stages p.commands →
      Verdict stages (.ok (some p))

/-- What a line means: nothing if a quote is open, and else what its groups mean. -/
inductive Meaning (line : String) : Except LineError (Option Pipeline) → Prop where
  | unreadable {quote : Quote} : Token.read line = .error quote →
      Meaning line (.error (.unterminatedQuote quote))
  | readable {words : List String} {result : Except LineError (Option Pipeline)} :
      Token.read line = .ok words → Verdict (groups words) result → Meaning line result

theorem splitStages_eq_groups (words : List String) : splitStages words = groups words :=
  splitStages_eq words

theorem ne_nil_of_mem_groups {words group : List String} (hgroup : group ∈ groups words) :
    group ≠ [] := by
  rw [← splitStages_eq_groups] at hgroup
  exact (stage_of_mem_splitStages hgroup).1

/-! ## The command of a group -/

theorem buildCommand_eq_missingCommand_iff {group : List String} (hne : group ≠ [])
    (operator : String) :
    buildCommand group = .error (.missingCommand operator) ↔ LacksCommand operator group := by
  rw [buildCommand_eq_error_iff hne]
  constructor
  · rintro ⟨found, after, hfound, hgroup, herror⟩
    obtain rfl := LineError.missingCommand.inj herror
    exact ⟨hfound, after, hgroup⟩
  · rintro ⟨hoperator, after, hgroup⟩
    exact ⟨operator, after, hoperator, hgroup, rfl⟩

theorem exists_command_iff {group : List String} (hne : group ≠ []) :
    (∃ command, buildCommand group = .ok command) ↔ HasCommand group := by
  constructor
  · rintro ⟨command, hbuild⟩ operator hlacks
    rw [(buildCommand_eq_missingCommand_iff hne operator).2 hlacks] at hbuild
    nomatch hbuild
  · intro hhas
    cases hbuild : buildCommand group with
    | ok command => exact ⟨command, rfl⟩
    | error e =>
        obtain ⟨operator, after, hoperator, hgroup, -⟩ := (buildCommand_eq_error_iff hne e).1 hbuild
        exact absurd ⟨hoperator, after, hgroup⟩ (hhas operator)

/-- A command has a redirection without a target if the first operator of its group is the
last word. -/
theorem lacksTarget_iff {group : List String} (hne : group ≠ []) {command : Command}
    (hbuild : buildCommand group = .ok command) (operator : String) :
    LacksTarget operator group ↔
      command.redirect ≠ none ∧ command.target = none ∧ command.operator.getD "" = operator := by
  rcases stage_cases hne with ⟨first, after, hfirst, rfl⟩ |
    ⟨name, args, hfree, rfl⟩ | ⟨name, args, first, after, hfree, hfirst, rfl⟩
  · rw [buildCommand_of_leading hfirst] at hbuild
    nomatch hbuild
  · rw [buildCommand_of_operatorFree hfree] at hbuild
    obtain rfl := Except.ok.inj hbuild
    constructor
    · rintro ⟨hoperator, before, -, hgroup⟩
      have hmem : operator ∈ name :: args := by simp [hgroup]
      simp [hfree operator hmem] at hoperator
    · rintro ⟨hredirect, -⟩
      exact absurd rfl hredirect
  · rw [buildCommand_of_operator hfree hfirst] at hbuild
    obtain rfl := Except.ok.inj hbuild
    have hredirect : Redirect.ofOperator? first ≠ none := by
      simpa [isOperator, Option.isSome_iff_ne_none] using hfirst
    constructor
    · rintro ⟨hoperator, before, hbefore, hgroup⟩
      -- both cuts are at the first operator
      have hcut := dropWhile_operatorFree hbefore hoperator []
      rw [← hgroup, ← List.cons_append, dropWhile_operatorFree hfree hfirst] at hcut
      obtain ⟨rfl, rfl⟩ := List.cons.inj hcut
      exact ⟨hredirect, rfl, rfl⟩
    · rintro ⟨-, htarget, rfl⟩
      obtain rfl := List.head?_eq_none_iff.1 htarget
      exact ⟨hfirst, name :: args, hfree, rfl⟩

/-- The commands of groups end in a redirection without a target if the last group does. -/
theorem danglingOperator_eq_some_iff {stages : List (List String)} {commands : List Command}
    (hne : ∀ group ∈ stages, group ≠ [])
    (hbuilt : List.Forall₂ (fun group command => buildCommand group = .ok command) stages commands)
    (operator : String) :
    danglingOperator commands = some operator ↔
      ∃ last, stages.getLast? = some last ∧ LacksTarget operator last := by
  cases hlast : commands.getLast? with
  | none =>
      obtain rfl := List.getLast?_eq_none_iff.1 hlast
      obtain rfl := List.forall₂_nil_right_iff.1 hbuilt
      simp [danglingOperator]
  | some command =>
      obtain ⟨last, hstage, hbuild⟩ := getLast?_of_forall₂ hbuilt hlast
      have hlacks := lacksTarget_iff (hne last (List.mem_of_getLast? hstage)) hbuild operator
      rw [danglingOperator, hlast]
      simp only [hstage, Option.some.injEq, exists_eq_left', hlacks]
      cases hredirect : command.redirect <;> cases htarget : command.target <;> simp

/-- If the last group does not lack a target, the commands do not either. -/
theorem danglingOperator_eq_none_iff_lacksTarget {stages : List (List String)}
    {commands : List Command} (hne : ∀ group ∈ stages, group ≠ [])
    (hbuilt : List.Forall₂ (fun group command => buildCommand group = .ok command) stages commands) :
    danglingOperator commands = none ↔
      ∀ last, stages.getLast? = some last → ∀ operator, ¬ LacksTarget operator last := by
  rw [Option.eq_none_iff_forall_ne_some]
  constructor
  · intro hnone last hlast operator hlacks
    exact hnone operator ((danglingOperator_eq_some_iff hne hbuilt operator).2 ⟨last, hlast, hlacks⟩)
  · intro hnone operator hsome
    obtain ⟨last, hlast, hlacks⟩ := (danglingOperator_eq_some_iff hne hbuilt operator).1 hsome
    exact hnone last hlast operator hlacks

theorem exists_commands_iff {stages : List (List String)} (hne : ∀ group ∈ stages, group ≠ []) :
    (∃ commands, stages.mapM buildCommand = .ok commands) ↔ ∀ group ∈ stages, HasCommand group := by
  constructor
  · rintro ⟨commands, hmap⟩ group hgroup
    have hflipped : List.Forall₂ (fun command group => buildCommand group = .ok command)
        commands stages := ((mapM_eq_ok_iff _ _ _).1 hmap).flip
    obtain ⟨command, -, hbuild⟩ := exists_left_of_forall₂ hflipped hgroup
    exact (exists_command_iff (hne group hgroup)).1 ⟨command, hbuild⟩
  · intro hhas
    cases hmap : stages.mapM buildCommand with
    | ok commands => exact ⟨commands, rfl⟩
    | error e =>
        obtain ⟨before, group, after, rfl, -, hfails⟩ := (mapM_eq_error_iff _ _ _).1 hmap
        have hgroup : group ∈ before ++ group :: after := by simp
        obtain ⟨command, hbuild⟩ := (exists_command_iff (hne group hgroup)).2 (hhas group hgroup)
        nomatch hfails.symm.trans hbuild

theorem verdict_of_buildPipeline (words : List String) :
    Verdict (groups words) (buildPipeline words) := by
  have hne : ∀ group ∈ groups words, group ≠ [] := fun _ hgroup => ne_nil_of_mem_groups hgroup
  rw [buildPipeline, splitStages_eq_groups]
  cases hmap : (groups words).mapM buildCommand with
  | error e =>
      obtain ⟨before, group, after, hgroups, hbefore, hgroup⟩ := (mapM_eq_error_iff _ _ _).1 hmap
      have hgroupNe : group ≠ [] := hne group (by simp [hgroups])
      obtain ⟨operator, rest, hoperator, hstart, rfl⟩ :=
        (buildCommand_eq_error_iff hgroupNe e).1 hgroup
      refine .missingCommand hgroups (fun earlier hearlier => ?_) ⟨hoperator, rest, hstart⟩
      exact (exists_command_iff (hne earlier (by simp [hgroups, hearlier]))).1
        (hbefore earlier hearlier)
  | ok commands =>
      have hbuilt := (mapM_eq_ok_iff _ _ _).1 hmap
      have hhas := (exists_commands_iff hne).1 ⟨commands, hmap⟩
      cases hdangling : danglingOperator commands with
      | some operator =>
          obtain ⟨last, hlast, hlacks⟩ :=
            (danglingOperator_eq_some_iff hne hbuilt operator).1 hdangling
          simp only [hdangling]
          exact .missingTarget hhas hlast hlacks
      | none =>
          simp only [hdangling]
          cases hlist : Pipeline.ofList? commands with
          | none =>
              have hcommands : commands = [] := by simpa [Pipeline.ofList?] using hlist
              subst hcommands
              exact .nothing (List.forall₂_nil_right_iff.1 hbuilt)
          | some p =>
              obtain rfl := (ofList?_eq_some_iff commands p).1 hlist
              exact .commands hhas
                ((danglingOperator_eq_none_iff_lacksTarget hne hbuilt).1 hdangling) hbuilt

/-- What groups of words mean is what is made of them. -/
theorem buildPipeline_eq_iff (words : List String) (result : Except LineError (Option Pipeline)) :
    buildPipeline words = result ↔ Verdict (groups words) result := by
  have hne : ∀ group ∈ groups words, group ≠ [] := fun _ hgroup => ne_nil_of_mem_groups hgroup
  constructor
  · rintro rfl
    exact verdict_of_buildPipeline words
  · intro hverdict
    rw [buildPipeline, splitStages_eq_groups]
    cases hverdict with
    | @missingCommand before after group operator hgroups hbefore hlacks =>
        have hfails : (groups words).mapM buildCommand = .error (.missingCommand operator) := by
          rw [mapM_eq_error_iff]
          refine ⟨before, group, after, hgroups, fun earlier hearlier => ?_, ?_⟩
          · exact (exists_command_iff (hne earlier (by simp [hgroups, hearlier]))).2
              (hbefore earlier hearlier)
          · exact (buildCommand_eq_missingCommand_iff (hne group (by simp [hgroups])) _).2 hlacks
        rw [hfails]
    | @missingTarget last operator hhas hlast hlacks =>
        obtain ⟨commands, hmap⟩ := (exists_commands_iff hne).2 hhas
        have hdangling := (danglingOperator_eq_some_iff hne ((mapM_eq_ok_iff _ _ _).1 hmap)
          operator).2 ⟨last, hlast, hlacks⟩
        simp only [hmap, hdangling]
    | nothing hgroups =>
        rw [hgroups]
        rfl
    | @commands p hhas hnone hbuilt =>
        have hdangling := (danglingOperator_eq_none_iff_lacksTarget hne hbuilt).2 hnone
        have hlist := (ofList?_eq_some_iff p.commands p).2 rfl
        simp only [(mapM_eq_ok_iff _ _ _).2 hbuilt, hdangling, hlist]

/-- A group without a command is an error wherever it stands. -/
theorem exists_missingCommand_iff (words : List String) :
    (∃ operator, buildPipeline words = .error (.missingCommand operator)) ↔
      ∃ group ∈ groups words, ∃ operator, LacksCommand operator group := by
  constructor
  · rintro ⟨operator, hbuild⟩
    cases (buildPipeline_eq_iff words _).1 hbuild with
    | @missingCommand before after group _ hgroups _ hlacks =>
        exact ⟨group, by simp [hgroups], operator, hlacks⟩
  · rintro ⟨group, hgroup, operator, hlacks⟩
    cases hresult : buildPipeline words with
    | ok parsed =>
        cases (buildPipeline_eq_iff words _).1 hresult with
        | nothing hgroups =>
            rw [hgroups] at hgroup
            nomatch hgroup
        | commands hhas => exact absurd hlacks (hhas group hgroup operator)
    | error e =>
        cases (buildPipeline_eq_iff words _).1 hresult with
        | missingCommand => exact ⟨_, rfl⟩
        | missingTarget hhas => exact absurd hlacks (hhas group hgroup operator)

/-- A missing target is an error in the last group only. -/
theorem exists_ok_iff (words : List String) :
    (∃ parsed, buildPipeline words = .ok parsed) ↔
      (∀ group ∈ groups words, HasCommand group) ∧
        ∀ last, (groups words).getLast? = some last → ∀ operator, ¬ LacksTarget operator last := by
  constructor
  · rintro ⟨parsed, hbuild⟩
    cases (buildPipeline_eq_iff words _).1 hbuild with
    | nothing hgroups =>
        rw [hgroups]
        exact ⟨nofun, nofun⟩
    | commands hhas hnone => exact ⟨hhas, hnone⟩
  · rintro ⟨hhas, hnone⟩
    cases hresult : buildPipeline words with
    | ok parsed => exact ⟨parsed, rfl⟩
    | error e =>
        cases (buildPipeline_eq_iff words _).1 hresult with
        | @missingCommand before after group operator hgroups _ hlacks =>
            exact absurd hlacks (hhas group (by simp [hgroups]) operator)
        | @missingTarget last operator _ hlast hlacks => exact absurd hlacks (hnone last hlast operator)

/-- Words are built into a pipeline only when the line has been read. -/
theorem parse_eq_iff_exists_words (line : String) (result : Except LineError (Option Pipeline))
    (hquote : ∀ quote, result ≠ .error (.unterminatedQuote quote)) :
    parse line = result ↔
      ∃ words, Token.read line = .ok words ∧ buildPipeline words = result := by
  rw [parse]
  cases hread : Token.read line with
  | error quote =>
      simp [Ne.symm (hquote quote)]
  | ok words => simp

theorem parse_eq_iff_meaning (line : String) (result : Except LineError (Option Pipeline)) :
    parse line = result ↔ Meaning line result := by
  rw [parse]
  cases hread : Token.read line with
  | error quote =>
      constructor
      · rintro rfl
        exact .unreadable hread
      · intro hmeaning
        cases hmeaning with
        | unreadable hother =>
            obtain rfl := Except.error.inj (hread.symm.trans hother)
            rfl
        | readable hother => simp [hread] at hother
  | ok words =>
      constructor
      · intro hbuild
        exact .readable hread ((buildPipeline_eq_iff words result).1 hbuild)
      · intro hmeaning
        cases hmeaning with
        | unreadable hother => simp [hread] at hother
        | readable hother hverdict =>
            obtain rfl := Except.ok.inj (hread.symm.trans hother)
            exact (buildPipeline_eq_iff words result).2 hverdict

/-- Reading a line gives exactly what the line means.  In particular a group without a command
is an error wherever it stands, and a missing target is one in the last group only. -/
theorem parse_iff_meaning (line : String) :
    (∀ result, parse line = result ↔ Meaning line result) ∧
      ((∃ operator, parse line = .error (.missingCommand operator)) ↔
        ∃ words, Token.read line = .ok words ∧
          ∃ group ∈ groups words, ∃ operator, LacksCommand operator group) ∧
      ((∃ parsed, parse line = .ok parsed) ↔
        ∃ words, Token.read line = .ok words ∧ (∀ group ∈ groups words, HasCommand group) ∧
          ∀ last, (groups words).getLast? = some last →
            ∀ operator, ¬ LacksTarget operator last) := by
  refine ⟨parse_eq_iff_meaning line, ?_, ?_⟩
  · have hwords : ∀ operator, parse line = .error (.missingCommand operator) ↔
        ∃ words, Token.read line = .ok words ∧
          buildPipeline words = .error (.missingCommand operator) :=
      fun operator => parse_eq_iff_exists_words line _ (by simp)
    simp only [hwords, ← exists_missingCommand_iff]
    constructor
    · rintro ⟨operator, words, hread, hbuild⟩
      exact ⟨words, hread, operator, hbuild⟩
    · rintro ⟨words, hread, operator, hbuild⟩
      exact ⟨operator, words, hread, hbuild⟩
  · have hwords : ∀ parsed, parse line = .ok parsed ↔
        ∃ words, Token.read line = .ok words ∧ buildPipeline words = .ok parsed :=
      fun parsed => parse_eq_iff_exists_words line _ (by simp)
    simp only [hwords, ← exists_ok_iff]
    constructor
    · rintro ⟨parsed, words, hread, hbuild⟩
      exact ⟨words, hread, parsed, hbuild⟩
    · rintro ⟨words, hread, parsed, hbuild⟩
      exact ⟨parsed, words, hread, hbuild⟩

/-- A stage that is dropped decides which stage is the last one. -/
example : parse "a > |" = .error (.missingRedirectTarget ">") ∧
    parse "a > | b" = .ok (some ⟨[⟨"a", [], some .stdoutTruncate, some ">", none⟩,
      ⟨"b", [], none, none, none⟩], by simp⟩) ∧
    parse "a | 2> x | > y | b >" = .error (.missingCommand "2>") := by
  decide +kernel

end LineMeaning

end PipelineShell
