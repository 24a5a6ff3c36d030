import PipelineShell.Proofs.LineGrammar
import PipelineShell.Proofs.Stages

/-!
# Writing a pipeline as a line

A pipeline is written with every word between single quotes and with pipes
between its stages.  Quoting is lost when words are read, so that operators are
special by value, but only up to the first of a stage.  The pipelines that some
line means are exactly the well-formed ones, and each is read back from the line
that it is written as.
-/

namespace PipelineShell

open LineGrammar

/-! ## Words between quotes -/

/-- A word as it stands between single quotes: a single quote closes them, stands
escaped by itself, and opens them again. -/
def quotedBody (word : List Char) : List Char :=
  word.flatMap fun c => if c = '\'' then ['\'', '\\', '\'', '\''] else [c]

def quotedChars (word : List Char) : List Char :=
  '\'' :: (quotedBody word ++ ['\''])

/-- A word between single quotes. -/
def quoteWord (word : String) : String :=
  String.ofList (quotedChars word.toList)

/-- A text that is read as one and the same word wherever it stands. -/
def Written (text value : List Char) : Prop :=
  ∀ rest, Word (text ++ rest) value rest

/-- What stands in the open quotes already belongs to the word. -/
theorem word_quotedBody {front : List Char} (hfront : '\'' ∉ front) (word rest : List Char) :
    Word ('\'' :: (front ++ quotedBody word ++ '\'' :: rest)) (front ++ word) rest := by
  induction word generalizing front with
  | nil =>
      simpa [quotedBody] using Word.one (Chunk.single hfront)
  | cons c word ih =>
      by_cases hquote : c = '\''
      · subst hquote
        have htail : Word ('\'' :: ([] ++ quotedBody word ++ '\'' :: rest)) ([] ++ word) rest :=
          ih (by simp)
        have hescaped : Chunk ('\\' :: '\'' :: '\'' :: ([] ++ quotedBody word ++ '\'' :: rest))
            ['\''] ('\'' :: ([] ++ quotedBody word ++ '\'' :: rest)) := .escaped
        simpa [quotedBody] using Word.more (Chunk.single hfront) (.more hescaped htail)
      · have hmore : '\'' ∉ front ++ [c] := by simp [hfront, Ne.symm hquote]
        simpa [quotedBody, hquote] using ih hmore

theorem written_quotedChars (word : List Char) : Written (quotedChars word) word := by
  intro rest
  have hword : Word ('\'' :: ([] ++ quotedBody word ++ '\'' :: rest)) ([] ++ word) rest :=
    word_quotedBody (by simp) word rest
  simpa [quotedChars] using hword

theorem written_pipe : Written ['|'] ['|'] := by
  intro rest
  exact .one (.plain ⟨by decide, by decide, by decide, by decide⟩)

/-! ## Words with blanks between them -/

theorem words_append {line next rest : List Char} {values more : List (List Char)}
    (gap : List Char) (hfirst : Words line values (gap ++ next)) (hne : gap ≠ [])
    (hgap : gap.all Text.isBlank = true) (hnext : Words next more rest) :
    Words line (values ++ more) rest := by
  generalize hend : gap ++ next = finish at hfirst
  induction hfirst with
  | one hword =>
      subst hend
      exact .more gap hword hne hgap hnext
  | more before hword hneFirst hgapFirst _ ih =>
      exact .more before hword hneFirst hgapFirst (ih hend)

/-- Written words with spaces between them. -/
theorem words_spaced {texts values : List (List Char)}
    (hwritten : List.Forall₂ Written texts values) (hne : texts ≠ []) (rest : List Char) :
    Words ([' '].intercalate texts ++ rest) values rest := by
  induction hwritten with
  | nil => exact absurd rfl hne
  | @cons text value texts values hfirst hrest ih =>
      cases hrest with
      | nil =>
          rw [List.intercalate_singleton]
          exact .one (hfirst rest)
      | cons hsecond hothers =>
          rw [List.intercalate_cons_cons, List.append_assoc, List.append_assoc]
          exact .more [' '] (hfirst _) (by simp) (by decide) (ih (by simp))

/-- Stages of written words with pipes between them. -/
theorem words_piped {texts : List (List Char)} {stages : List (List (List Char))}
    (hstages : List.Forall₂
      (fun text stage => ∀ rest, Words (text ++ rest) stage rest) texts stages)
    (hne : texts ≠ []) (rest : List Char) :
    Words ([' ', '|', ' '].intercalate texts ++ rest) ([['|']].intercalate stages) rest := by
  induction hstages with
  | nil => exact absurd rfl hne
  | @cons text stage texts stages hfirst hrest ih =>
      cases hrest with
      | nil =>
          rw [List.intercalate_singleton, List.intercalate_singleton]
          exact hfirst rest
      | cons hsecond hothers =>
          rw [List.intercalate_cons_cons, List.intercalate_cons_cons, List.append_assoc,
            List.append_assoc, List.append_assoc]
          have hpipe : ∀ next, Words (['|'] ++ next) [['|']] next :=
            fun next => .one (written_pipe next)
          exact words_append [' '] (hfirst _) (by simp) (by decide)
            (words_append [' '] (hpipe _) (by simp) (by decide) (ih (by simp)))

/-! ## Commands and pipelines as text -/

/-- The words of a command.  The file of a redirection comes right after the
operator; an operator without a file comes last. -/
def Command.words (c : Command) : List String :=
  match c.operator, c.target with
  | some operator, some target => c.name :: operator :: target :: c.args
  | some operator, none => c.name :: (c.args ++ [operator])
  | none, _ => c.name :: c.args

def Command.render (c : Command) : String :=
  " ".intercalate (c.words.map quoteWord)

def Pipeline.render (p : Pipeline) : String :=
  " | ".intercalate (p.commands.map Command.render)

theorem Command.words_ne_nil (c : Command) : c.words ≠ [] := by
  rw [Command.words]
  split <;> exact List.cons_ne_nil _ _

theorem words_render (c : Command) (rest : List Char) :
    Words (c.render.toList ++ rest) (c.words.map String.toList) rest := by
  have hwritten : List.Forall₂ Written (c.words.map fun word => quotedChars word.toList)
      (c.words.map String.toList) := by
    rw [List.forall₂_map_left_iff, List.forall₂_map_right_iff, List.forall₂_same]
    exact fun word _ => written_quotedChars word.toList
  have htext : c.render.toList =
      [' '].intercalate (c.words.map fun word => quotedChars word.toList) := by
    simp [Command.render, quoteWord, Function.comp_def]
  rw [htext]
  exact words_spaced hwritten (by simpa using c.words_ne_nil) rest

theorem map_intercalate {A B : Type} (f : A → B) (separator : List A) (lists : List (List A)) :
    (separator.intercalate lists).map f =
      (separator.map f).intercalate (lists.map (List.map f)) := by
  induction lists with
  | nil => rfl
  | cons first lists ih =>
      cases lists with
      | nil => simp
      | cons second lists =>
          rw [List.intercalate_cons_cons, List.map_append, List.map_append, ih]
          simp [List.intercalate_cons_cons]

/-- The words of a written pipeline are those of its commands with pipes between
them. -/
theorem read_render (p : Pipeline) :
    Token.read p.render = .ok (["|"].intercalate (p.commands.map Command.words)) := by
  have hcommands : List.Forall₂ (fun text stage => ∀ rest, Words (text ++ rest) stage rest)
      (p.commands.map fun c => c.render.toList)
      (p.commands.map fun c => c.words.map String.toList) := by
    rw [List.forall₂_map_left_iff, List.forall₂_map_right_iff, List.forall₂_same]
    exact fun c _ => words_render c
  have hwords := words_piped hcommands (by simpa using p.commands_ne_nil) []
  have htext : p.render.toList =
      [' ', '|', ' '].intercalate (p.commands.map fun c => c.render.toList) := by
    simp [Pipeline.render, Function.comp_def]
  rw [List.append_nil] at hwords
  have hline := Line.words [] [] rfl hwords rfl
  rw [read_eq_ok_iff, map_intercalate, htext]
  simpa [Function.comp_def] using hline

/-! ## Well-formed pipelines -/

/-- What a line can say about a stage. -/
structure Command.WellFormed (c : Command) : Prop where
  name_ne_pipe : c.name ≠ "|"
  args_ne_pipe : ∀ arg ∈ c.args, arg ≠ "|"
  target_ne_pipe : c.target ≠ some "|"
  name_not_operator : isOperator c.name = false
  unredirected : c.redirect = none → c.operator = none ∧ c.target = none ∧ OperatorFree c.args
  redirected : c.redirect ≠ none →
    ∃ operator, c.operator = some operator ∧ Redirect.ofOperator? operator = c.redirect
  without_target : c.redirect ≠ none → c.target = none → OperatorFree c.args

/-- Only a stage before the last one may leave out the file of its redirection. -/
structure Pipeline.WellFormed (p : Pipeline) : Prop where
  commands : ∀ c ∈ p.commands, c.WellFormed
  last : p.last.redirect ≠ none → p.last.target ≠ none

theorem isOperator_pipe : isOperator "|" = false := by decide

theorem ne_pipe_of_isOperator {operator : String} (hoperator : isOperator operator = true) :
    operator ≠ "|" := by
  rintro rfl
  simp [isOperator_pipe] at hoperator

/-- A stage that is a command is a well-formed one. -/
theorem wellFormed_of_buildCommand {stage : List String} {c : Command} (hne : stage ≠ [])
    (hpipe : "|" ∉ stage) (hbuild : buildCommand stage = .ok c) : c.WellFormed := by
  rcases stage_cases hne with ⟨operator, after, hoperator, rfl⟩ |
    ⟨name, args, hfree, rfl⟩ | ⟨name, args, operator, after, hfree, hoperator, rfl⟩
  · rw [buildCommand_of_leading hoperator] at hbuild
    nomatch hbuild
  · rw [buildCommand_of_operatorFree hfree] at hbuild
    obtain rfl := Except.ok.inj hbuild
    have hargs : OperatorFree args := fun arg harg => hfree arg (List.mem_cons_of_mem _ harg)
    have hwords : ∀ word ∈ name :: args, word ≠ "|" := fun word hword h => hpipe (h ▸ hword)
    exact
      { name_ne_pipe := hwords name List.mem_cons_self
        args_ne_pipe := fun arg harg => hwords arg (List.mem_cons_of_mem _ harg)
        target_ne_pipe := by simp
        name_not_operator := hfree name List.mem_cons_self
        unredirected := fun _ => ⟨rfl, rfl, hargs⟩
        redirected := fun h => absurd rfl h
        without_target := fun _ _ => hargs }
  · rw [buildCommand_of_operator hfree hoperator] at hbuild
    obtain rfl := Except.ok.inj hbuild
    have hargs : OperatorFree args := fun arg harg => hfree arg (List.mem_cons_of_mem _ harg)
    have hredirect : Redirect.ofOperator? operator ≠ none := by
      simpa [isOperator, Option.isSome_iff_ne_none] using hoperator
    have hwords : ∀ word ∈ name :: (args ++ operator :: after), word ≠ "|" :=
      fun word hword h => hpipe (h ▸ hword)
    refine
      { name_ne_pipe := hwords name (by simp)
        args_ne_pipe := ?_
        target_ne_pipe := ?_
        name_not_operator := hfree name List.mem_cons_self
        unredirected := fun h => absurd h hredirect
        redirected := fun _ => ⟨operator, rfl, rfl⟩
        without_target := ?_ }
    · intro arg harg
      rcases List.mem_append.1 harg with hbefore | hafter
      · exact hwords arg (by simp [hbefore])
      · exact hwords arg (by simp [List.mem_of_mem_tail hafter])
    · intro htarget
      exact hwords "|" (by simp [List.mem_of_head? htarget]) rfl
    · intro _ htarget
      rw [List.head?_eq_none_iff] at htarget
      simpa [htarget] using hargs

theorem Command.WellFormed.pipe_not_mem_words {c : Command} (hc : c.WellFormed) :
    "|" ∉ c.words := by
  have hoperator : ∀ operator, c.operator = some operator → operator ≠ "|" := by
    intro operator hsome
    have hredirect : c.redirect ≠ none := fun hnone => by
      simp [(hc.unredirected hnone).1] at hsome
    obtain ⟨found, hfound, hkind⟩ := hc.redirected hredirect
    obtain rfl : found = operator := Option.some.inj (hfound.symm.trans hsome)
    exact ne_pipe_of_isOperator (by simp [isOperator, hkind, Option.isSome_iff_ne_none, hredirect])
  have hname := Ne.symm hc.name_ne_pipe
  have hargs : "|" ∉ c.args := fun hmem => hc.args_ne_pipe "|" hmem rfl
  rw [Command.words]
  split
  · rename_i operator target hop htarget
    have htargetNe : "|" ≠ target := fun h => hc.target_ne_pipe (h ▸ htarget)
    simp [hname, hargs, Ne.symm (hoperator operator hop), htargetNe]
  · rename_i operator hop htarget
    simp [hname, hargs, Ne.symm (hoperator operator hop)]
  · simp [hname, hargs]

/-- A well-formed command is read off its words. -/
theorem Command.WellFormed.buildCommand_words {c : Command} (hc : c.WellFormed) :
    buildCommand c.words = .ok c := by
  obtain ⟨name, args, redirect, operator, target⟩ := c
  have hname : OperatorFree [name] := by
    simpa [OperatorFree] using hc.name_not_operator
  cases hredirect : redirect with
  | none =>
      obtain ⟨rfl, rfl, hargs⟩ := hc.unredirected hredirect
      exact buildCommand_of_operatorFree (List.forall_mem_cons.2 ⟨hc.name_not_operator, hargs⟩)
  | some kind =>
      have hne : redirect ≠ none := by simp [hredirect]
      obtain ⟨found, rfl, hkind⟩ := hc.redirected hne
      have hoperator : isOperator found = true := by
        simpa [isOperator, hkind, Option.isSome_iff_ne_none] using hne
      cases target with
      | none =>
          have hargs : OperatorFree (name :: args) :=
            List.forall_mem_cons.2 ⟨hc.name_not_operator, hc.without_target hne rfl⟩
          rw [Command.words, buildCommand_of_operator hargs hoperator, hkind]
          simp [hredirect]
      | some file =>
          have hwords := buildCommand_of_operator hname hoperator (file :: args)
          rw [List.nil_append, hkind] at hwords
          simpa [Command.words, hredirect] using hwords

/-! ## Reading and writing pipelines -/

theorem ofList?_eq_some_iff (commands : List Command) (p : Pipeline) :
    Pipeline.ofList? commands = some p ↔ commands = p.commands := by
  rw [Pipeline.ofList?]
  split
  · rename_i hempty
    subst hempty
    simpa using Ne.symm p.commands_ne_nil
  · rw [Option.some.injEq]
    constructor
    · rintro rfl
      rfl
    · rintro rfl
      rfl

theorem getLast?_commands (p : Pipeline) : p.commands.getLast? = some p.last :=
  List.getLast?_eq_some_getLast p.commands_ne_nil

theorem danglingOperator_eq_none_iff (p : Pipeline) :
    danglingOperator p.commands = none ↔ (p.last.redirect ≠ none → p.last.target ≠ none) := by
  rw [danglingOperator, getLast?_commands]
  cases hredirect : p.last.redirect <;> cases htarget : p.last.target <;>
    simp [hredirect, htarget]

/-- A list of words means a pipeline if its stages are the commands of the
pipeline and the last one names the file of its redirection. -/
theorem buildPipeline_eq_some_iff (words : List String) (p : Pipeline) :
    buildPipeline words = .ok (some p) ↔
      List.Forall₂ (fun stage c => buildCommand stage = .ok c) (splitStages words) p.commands ∧
        (p.last.redirect ≠ none → p.last.target ≠ none) := by
  rw [← mapM_eq_ok_iff, buildPipeline]
  cases hcommands : (splitStages words).mapM buildCommand with
  | error e => simp
  | ok commands =>
      rw [Except.ok.injEq]
      constructor
      · intro hbuild
        cases hdangling : danglingOperator commands with
        | some operator => simp [hdangling] at hbuild
        | none =>
            simp only [hdangling, Except.ok.injEq, ofList?_eq_some_iff] at hbuild
            rw [hbuild, danglingOperator_eq_none_iff] at hdangling
            exact ⟨hbuild, hdangling⟩
      · rintro ⟨rfl, hlast⟩
        rw [← danglingOperator_eq_none_iff] at hlast
        simp [hlast, ofList?_eq_some_iff]

theorem wellFormed_of_buildPipeline {words : List String} {p : Pipeline}
    (hbuild : buildPipeline words = .ok (some p)) : p.WellFormed := by
  obtain ⟨hstages, hlast⟩ := (buildPipeline_eq_some_iff words p).1 hbuild
  refine ⟨fun c hc => ?_, hlast⟩
  obtain ⟨stage, hstage, hcommand⟩ := exists_left_of_forall₂ hstages hc
  obtain ⟨hne, hpipe⟩ := stage_of_mem_splitStages hstage
  exact wellFormed_of_buildCommand hne hpipe hcommand

theorem Pipeline.WellFormed.buildPipeline_words {p : Pipeline} (hp : p.WellFormed) :
    buildPipeline (["|"].intercalate (p.commands.map Command.words)) = .ok (some p) := by
  have hstages : ∀ stage ∈ p.commands.map Command.words, stage ≠ [] ∧ "|" ∉ stage := by
    intro stage hstage
    obtain ⟨c, hc, rfl⟩ := List.mem_map.1 hstage
    exact ⟨c.words_ne_nil, (hp.commands c hc).pipe_not_mem_words⟩
  rw [buildPipeline_eq_some_iff, splitStages_intercalate hstages]
  refine ⟨?_, hp.last⟩
  rw [List.forall₂_map_left_iff, List.forall₂_same]
  exact fun c hc => (hp.commands c hc).buildCommand_words

/-- Lines mean exactly the well-formed pipelines, and a well-formed pipeline is
what the line means that it is written as. -/
theorem parse_wellFormed_and_render :
    (∀ line p, parse line = .ok (some p) → p.WellFormed) ∧
      ∀ p : Pipeline, p.WellFormed → parse p.render = .ok (some p) := by
  constructor
  · intro line p hparse
    rw [parse] at hparse
    cases hread : Token.read line with
    | error quote => simp [hread] at hparse
    | ok words =>
        simp only [hread] at hparse
        exact wellFormed_of_buildPipeline hparse
  · intro p hp
    rw [parse, read_render]
    exact hp.buildPipeline_words

/-- A quoted word, an operator without a file before the last stage, and an
operator as an argument after the file. -/
theorem parse_wellFormed_and_render_quoted :
    ∃ p : Pipeline,
      parse "echo 'it''s' 2> | cat >> '|x' > a\\'b" = .ok (some p) ∧ p.WellFormed ∧
        parse p.render = .ok (some p) := by
  have hparse : parse "echo 'it''s' 2> | cat >> '|x' > a\\'b" = .ok (some
      ⟨[⟨"echo", ["its"], some .stderrTruncate, some "2>", none⟩,
        ⟨"cat", [">", "a'b"], some .stdoutAppend, some ">>", some "|x"⟩], by simp⟩) := by
    decide +kernel
  exact ⟨_, hparse, parse_wellFormed_and_render.1 _ _ hparse,
    parse_wellFormed_and_render.2 _ (parse_wellFormed_and_render.1 _ _ hparse)⟩

end PipelineShell
