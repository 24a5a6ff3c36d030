import PipelineShell.Proofs.LineEffects
import PipelineShell.Proofs.Rendering

/-!
# What a failed line says is one line

The words of a line hold only characters of the line.  What is said of a line that
fails names an operator or a word of the line, so that it has no line feed if the
line has none.
-/

namespace PipelineShell

/-! ## The characters of words -/

namespace Token.Reader

/-- No word that has been read holds a character. -/
structure Avoids (r : Reader) (c : Char) : Prop where
  words : ∀ word ∈ r.words, c ∉ word
  word : ∀ word, r.word = some word → c ∉ word

variable {r : Reader} {c d : Char}

theorem Avoids.getD (hr : r.Avoids c) : c ∉ r.word.getD [] := by
  cases hword : r.word with
  | none => exact List.not_mem_nil
  | some word => exact hr.word word hword

theorem Avoids.enter (hr : r.Avoids c) (mode : Mode) : (r.enter mode).Avoids c where
  words := hr.words
  word := by
    rintro word ⟨⟩
    exact hr.getD

theorem Avoids.push (hr : r.Avoids c) (hd : c ≠ d) (mode : Mode) : (r.push d mode).Avoids c where
  words := hr.words
  word := by
    rintro word ⟨⟩
    exact List.not_mem_cons_of_ne_of_not_mem hd hr.getD

theorem Avoids.close (hr : r.Avoids c) : r.close.Avoids c := by
  rw [Reader.close]
  cases hword : r.word with
  | none => exact ⟨hr.words, by simp⟩
  | some word =>
      refine ⟨List.forall_mem_cons.2 ⟨?_, hr.words⟩, by simp⟩
      rw [List.mem_reverse]
      exact hr.word word hword

/-- Reading another character keeps a character out, unless it is the backslash,
which can stand for itself. -/
theorem Avoids.step (hr : r.Avoids c) (hd : c ≠ d) (hbackslash : c ≠ '\\') :
    (r.step d).Avoids c := by
  unfold Reader.step
  split
  · split
    · exact hr.close
    · split
      · exact hr.enter _
      · split
        · exact hr.enter _
        · split
          · exact hr.enter _
          · exact hr.push hd _
  · exact hr.push hd _
  · split
    · exact hr.enter _
    · exact hr.push hd _
  · split
    · exact hr.enter _
    · split
      · exact hr.enter _
      · exact hr.push hd _
  · split
    · exact hr.push hd _
    · exact (hr.push hbackslash _).push hd _

theorem Avoids.foldl_step {cs : List Char} (hr : r.Avoids c) (hcs : c ∉ cs)
    (hbackslash : c ≠ '\\') : (cs.foldl Reader.step r).Avoids c := by
  induction cs generalizing r with
  | nil => exact hr
  | cons d cs ih =>
      exact ih (hr.step (List.ne_of_not_mem_cons hcs) hbackslash)
        (List.not_mem_of_not_mem_cons hcs)

theorem Avoids.finish {words : List (List Char)} (hr : r.Avoids c) (hbackslash : c ≠ '\\')
    (hfinish : r.finish = .ok words) : ∀ word ∈ words, c ∉ word := by
  unfold Reader.finish at hfinish
  split at hfinish <;> cases hfinish
  · simpa using hr.close.words
  · simpa using (hr.push hbackslash .plain).close.words

end Token.Reader

/-- The words of a line hold only characters of the line, and backslashes. -/
theorem not_mem_of_read {line : String} {words : List String} (hread : Token.read line = .ok words)
    {c : Char} (hbackslash : c ≠ '\\') (hline : c ∉ line.toList) :
    ∀ word ∈ words, c ∉ word.toList := by
  rw [Token.read, Token.readChars] at hread
  have hstart : Token.Reader.start.Avoids c :=
    ⟨by simp [Token.Reader.start], by simp [Token.Reader.start]⟩
  cases hfinish : (line.toList.foldl Token.Reader.step Token.Reader.start).finish with
  | error quote => simp [hfinish, Except.map] at hread
  | ok values =>
      obtain rfl : values.map String.ofList = words := by simpa [hfinish, Except.map] using hread
      have hvalues := (hstart.foldl_step hline hbackslash).finish hbackslash hfinish
      simpa using hvalues

/-! ## The texts of errors -/

theorem mem_of_mem_splitStages {words stage : List String} {word : String}
    (hstage : stage ∈ splitStages words) (hword : word ∈ stage) : word ∈ words := by
  have hpieces : ∀ {words stage : List String}, stage ∈ words.foldr consWord [[]] →
      word ∈ stage → word ∈ words := by
    intro words stage hstage hword
    induction words generalizing stage with
    | nil => simp_all
    | cons first words ih =>
        rw [List.foldr_cons, consWord.eq_def] at hstage
        split at hstage
        · rcases List.mem_cons.1 hstage with rfl | hrest
          · nomatch hword
          · exact List.mem_cons_of_mem _ (ih hrest hword)
        · split at hstage <;> rename_i hsplit
          · obtain rfl := List.mem_singleton.1 hstage
            exact List.mem_cons.2 (.inl (List.mem_singleton.1 hword))
          · rcases List.mem_cons.1 hstage with rfl | hrest
            · rcases List.mem_cons.1 hword with rfl | hword
              · exact List.mem_cons_self
              · exact List.mem_cons_of_mem _ (ih (hsplit ▸ List.mem_cons_self) hword)
            · exact List.mem_cons_of_mem _ (ih (hsplit ▸ List.mem_cons_of_mem _ hrest) hword)
  exact hpieces (List.mem_filter.1 hstage).1 hword

theorem lineFeed_not_mem_operator {operator : String} (hoperator : isOperator operator = true) :
    '\n' ∉ operator.toList := by
  rw [isOperator, Redirect.ofOperator?.eq_def] at hoperator
  split at hoperator
  all_goals first | decide | simp at hoperator

theorem lineFeed_not_mem_osError (e : OsError) : '\n' ∉ e.message.toList := by
  cases e <;> decide +kernel

theorem lineFeed_not_mem_append {s t : String} (hs : '\n' ∉ s.toList) (ht : '\n' ∉ t.toList) :
    '\n' ∉ (s ++ t).toList := by
  rw [String.toList_append]
  exact fun hmem => (List.mem_append.1 hmem).elim hs ht

/-- What is said of an operator that stands in a wrong place. -/
theorem lineFeed_not_mem_of_operator {operator : String} (hoperator : '\n' ∉ operator.toList)
    {e : LineError} (he : e = .missingCommand operator ∨ e = .missingRedirectTarget operator) :
    '\n' ∉ e.message.toList := by
  have hquote : '\n' ∉ "\x60".toList := by decide +kernel
  rcases he with rfl | rfl
  · exact lineFeed_not_mem_append (lineFeed_not_mem_append (by decide +kernel) hoperator) hquote
  · exact lineFeed_not_mem_append (lineFeed_not_mem_append (by decide +kernel) hoperator) hquote

/-- What a stage is built into: its operator is one, and its target is a word. -/
theorem buildCommand_words {stage : List String} (hne : stage ≠ []) {c : Command}
    (hbuild : buildCommand stage = .ok c) :
    (∀ operator, c.operator = some operator → isOperator operator = true) ∧
      ∀ target, c.target = some target → target ∈ stage := by
  rcases stage_cases hne with ⟨operator, after, hoperator, rfl⟩ |
    ⟨name, args, hfree, rfl⟩ | ⟨name, args, operator, after, hfree, hoperator, rfl⟩
  · rw [buildCommand_of_leading hoperator] at hbuild
    nomatch hbuild
  · rw [buildCommand_of_operatorFree hfree] at hbuild
    obtain rfl := Except.ok.inj hbuild
    exact ⟨nofun, nofun⟩
  · rw [buildCommand_of_operator hfree hoperator] at hbuild
    obtain rfl := Except.ok.inj hbuild
    refine ⟨?_, fun target htarget => ?_⟩
    · rintro _ ⟨⟩
      exact hoperator
    · simp [List.mem_of_head? htarget]

/-- A list of words that is no pipeline: an operator is named. -/
theorem buildPipeline_error {words : List String} {e : LineError}
    (hbuild : buildPipeline words = .error e) :
    ∃ operator, '\n' ∉ operator.toList ∧
      (e = .missingCommand operator ∨ e = .missingRedirectTarget operator) := by
  rw [buildPipeline] at hbuild
  cases hcommands : (splitStages words).mapM buildCommand with
  | error found =>
      obtain rfl : found = e := by simpa [hcommands] using hbuild
      obtain ⟨before, stage, after, hstages, -, hfailed⟩ := (mapM_eq_error_iff _ _ _).1 hcommands
      have hstage : stage ∈ splitStages words := by simp [hstages]
      obtain ⟨operator, -, hoperator, -, rfl⟩ :=
        (buildCommand_eq_error_iff (stage_of_mem_splitStages hstage).1 _).1 hfailed
      exact ⟨operator, lineFeed_not_mem_operator hoperator, .inl rfl⟩
  | ok commands =>
      cases hdangling : danglingOperator commands with
      | none => simp [hcommands, hdangling] at hbuild
      | some operator =>
          obtain rfl : LineError.missingRedirectTarget operator = e := by
            simpa [hcommands, hdangling] using hbuild
          refine ⟨operator, ?_, .inr rfl⟩
          rw [danglingOperator.eq_def] at hdangling
          split at hdangling
          · cases hdangling
          rename_i last hlast
          split at hdangling
          · obtain rfl := Option.some.inj hdangling
            obtain ⟨stage, hstage, hcommand⟩ := exists_left_of_forall₂
              ((mapM_eq_ok_iff _ _ _).1 hcommands) (List.mem_of_getLast? hlast)
            cases hoperator : last.operator with
            | none => exact List.not_mem_nil
            | some operator =>
                exact lineFeed_not_mem_operator
                  ((buildCommand_words (stage_of_mem_splitStages hstage).1 hcommand).1 _ hoperator)
          · cases hdangling

/-- A line that cannot be read is told in one line. -/
theorem lineFeed_not_mem_of_parse_error {line : String} {e : LineError}
    (hparse : parse line = .error e) : '\n' ∉ e.message.toList := by
  cases hread : Token.read line with
  | error quote =>
      have he : e = .unterminatedQuote quote := by simpa [parse, hread] using hparse.symm
      rw [he]
      cases quote <;> decide +kernel
  | ok words =>
      simp only [parse, hread] at hparse
      obtain ⟨operator, hoperator, he⟩ := buildPipeline_error hparse
      exact lineFeed_not_mem_of_operator hoperator he

/-- A line that fails is told in one line. -/
theorem lineFeed_not_mem_of_fails {ex : Executor} {w : World} {line : String} {e : LineError}
    (hfails : Session.Fails ex w line e) (hline : '\n' ∉ line.toList) :
    '\n' ∉ e.message.toList := by
  rcases hfails with hparse | ⟨p, hparse, hopen⟩
  · exact lineFeed_not_mem_of_parse_error hparse
  cases hread : Token.read line with
  | error quote => simp [parse, hread] at hparse
  | ok words =>
      simp only [parse, hread] at hparse
      obtain ⟨stage, hstage, hlast⟩ := exists_left_of_forall₂
        ((buildPipeline_eq_some_iff words p).1 hparse).1 (List.getLast_mem p.commands_ne_nil)
      obtain ⟨hoperator, htarget⟩ := buildCommand_words (stage_of_mem_splitStages hstage).1 hlast
      rw [Executor.openRedirect.eq_def] at hopen
      split at hopen
      · cases hopen
      · refine lineFeed_not_mem_of_operator ?_ (.inr (Except.error.inj hopen).symm)
        cases hop : p.last.operator with
        | none => exact List.not_mem_nil
        | some operator => exact lineFeed_not_mem_operator (hoperator _ hop)
      · rename_i redirect target hredirect hnamed
        split at hopen
        · cases hopen
        · have hword := not_mem_of_read hread (by decide) hline target
            (mem_of_mem_splitStages hstage (htarget _ hnamed))
          rw [← Except.error.inj hopen]
          exact lineFeed_not_mem_append (lineFeed_not_mem_append hword (by decide +kernel))
            (lineFeed_not_mem_osError _)

theorem mem_of_mem_trim {s : String} {c : Char} (hmem : c ∈ (Text.trim s).toList) :
    c ∈ s.toList := by
  rw [Text.trim, String.toList_ofList, Text.trimChars, Text.trimEndChars, List.mem_reverse] at hmem
  exact List.dropWhile_subset _ (List.mem_reverse.1 (List.dropWhile_subset _ hmem))

/-- All that a failure shows is one line. -/
theorem lineFeed_not_mem_failureLine {ex : Executor} {w : World} {typed : String} {e : LineError}
    (hfails : Session.Fails ex w (Text.trim typed) e) (htyped : '\n' ∉ typed.toList)
    (colour : Bool) (name : String) :
    '\n' ∉ (Session.failureLine (Theme.ofName colour name) e).toList := by
  have hname : '\n' ∉ ((Theme.ofName colour name).error programName).toList := by
    change '\n' ∉ (Style.paint colour Theme.brightRed programName).toList
    cases colour <;> decide +kernel
  have hmessage := lineFeed_not_mem_of_fails hfails (fun hmem => htyped (mem_of_mem_trim hmem))
  exact lineFeed_not_mem_append (lineFeed_not_mem_append hname (by decide +kernel)) hmessage

end PipelineShell
