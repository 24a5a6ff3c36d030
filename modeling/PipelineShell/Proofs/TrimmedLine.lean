import PipelineShell.Proofs.JoinedLines
import PipelineShell.Proofs.LineMeaning

/-!
# A line without the blanks at its ends

A session records and runs a line without the blanks at its ends.  They mean nothing there,
but for one: a blank that a backslash escapes belongs to the last word of the line, and
without it the backslash stands for itself.  So a line keeps its meaning exactly if it does
not end in an escaped blank, or is refused for an earlier group of words.
-/

namespace PipelineShell

/-! ## Trimming -/

namespace Text

theorem dropWhile_blank {lead : List Char} (hlead : lead.all isBlank = true) (cs : List Char) :
    (lead ++ cs).dropWhile isBlank = cs.dropWhile isBlank :=
  List.dropWhile_append_of_pos (List.all_eq_true.1 hlead)

theorem trimEndChars_blank {trail : List Char} (htrail : trail.all isBlank = true)
    (cs : List Char) : trimEndChars (cs ++ trail) = trimEndChars cs := by
  rw [trimEndChars, List.reverse_append, dropWhile_blank (by simpa using htrail)]
  rfl

/-- Trimming a text goes up to the last character that is no blank. -/
theorem trimChars_blank {c : Char} (hc : isBlank c = false) {gap : List Char}
    (hgap : gap.all isBlank = true) (front : List Char) :
    trimChars (front ++ c :: gap) = front.dropWhile isBlank ++ [c] := by
  have hdrop : (front ++ c :: gap).dropWhile isBlank = (front.dropWhile isBlank ++ [c]) ++ gap := by
    rw [List.append_assoc, List.singleton_append, List.dropWhile_append]
    split
    · rename_i hempty
      simp [List.isEmpty_iff.1 hempty, hc]
    · rfl
  rw [trimChars, hdrop, trimEndChars_blank hgap]
  simp [trimEndChars, hc]

/-- A text is its trimmed text with blanks around it. -/
theorem eq_blank_append_trimChars (cs : List Char) :
    ∃ lead trail, lead.all isBlank = true ∧ trail.all isBlank = true ∧
      cs = lead ++ (trimChars cs ++ trail) := by
  let rest := cs.dropWhile isBlank
  refine ⟨cs.takeWhile isBlank, (rest.reverse.takeWhile isBlank).reverse, ?_, ?_, ?_⟩
  · exact List.all_takeWhile
  · rw [List.all_reverse]
    exact List.all_takeWhile
  · have hrest : trimChars cs ++ (rest.reverse.takeWhile isBlank).reverse = rest := by
      change (rest.reverse.dropWhile isBlank).reverse ++ _ = rest
      rw [← List.reverse_append, List.takeWhile_append_dropWhile, List.reverse_reverse]
    rw [hrest]
    exact List.takeWhile_append_dropWhile.symm

end Text

namespace LineGrammar

/-- The last word ends in an escaped blank, and only blanks come after it. -/
def EndsInEscapedBlank (text : List Char) : Prop :=
  ∃ front values blank trail, Settles front values ∧ Text.isBlank blank = true ∧
    trail.all Text.isBlank = true ∧ text = front ++ '\\' :: blank :: trail

/-! ## Blanks at the ends of a line -/

theorem readChars_lead {lead : List Char} (hlead : lead.all Text.isBlank = true)
    (line : List Char) : Token.readChars (lead ++ line) = Token.readChars line := by
  change outcome Token.Reader.start (lead ++ line) = outcome Token.Reader.start line
  rw [outcome_append, Token.Reader.start, foldl_blanks_between hlead]

theorem DoubleQuoted.append {text value next more : List Char} (htext : DoubleQuoted text value)
    (hnext : DoubleQuoted next more) : DoubleQuoted (text ++ next) (value ++ more) := by
  induction htext with
  | nil => exact hnext
  | literal hquote hbackslash _ ih => exact .literal hquote hbackslash ih
  | escaped hescape _ ih => exact .escaped hescape ih
  | backslash hquote hbackslash _ ih => exact .backslash hquote hbackslash ih

theorem ne_of_isBlank {blank c : Char} (hblank : Text.isBlank blank = true)
    (hc : Text.isBlank c = false) : blank ≠ c := by
  rintro rfl
  simp [hc] at hblank

theorem doubleQuoted_blanks {gap : List Char} (hgap : gap.all Text.isBlank = true) :
    DoubleQuoted gap gap := by
  induction gap with
  | nil => exact .nil
  | cons c gap ih =>
      rw [List.all_cons, Bool.and_eq_true] at hgap
      exact .literal (ne_of_isBlank hgap.1 (by decide)) (ne_of_isBlank hgap.1 (by decide))
        (ih hgap.2)

/-- Blanks close no quote. -/
theorem Unclosed.append_blanks {quote : Quote} {text gap : List Char} (hopen : Unclosed quote text)
    (hgap : gap.all Text.isBlank = true) : Unclosed quote (text ++ gap) := by
  cases hopen with
  | single htext =>
      apply Unclosed.single
      intro hmem
      rcases List.mem_append.1 hmem with hin | hin
      · exact htext hin
      · exact ne_of_isBlank (List.all_eq_true.1 hgap _ hin) (by decide) rfl
  | double hquoted => exact .double (hquoted.append (doubleQuoted_blanks hgap))
  | @doubleBackslash text value hquoted =>
      cases gap with
      | nil =>
          rw [List.append_nil]
          exact .doubleBackslash hquoted
      | cons c gap =>
          rw [List.all_cons, Bool.and_eq_true] at hgap
          have hbackslash : DoubleQuoted ('\\' :: c :: gap) ('\\' :: c :: gap) :=
            .backslash (ne_of_isBlank hgap.1 (by decide)) (ne_of_isBlank hgap.1 (by decide))
              (doubleQuoted_blanks hgap.2)
          have hdouble := Unclosed.double (hquoted.append hbackslash)
          simpa using hdouble

/-- Blanks at the end of a line mean nothing unless a backslash escapes the first of them. -/
theorem readChars_trail {line trail : List Char} (htrail : trail.all Text.isBlank = true)
    (hescaped : ¬ EndsInEscapedBlank (line ++ trail)) :
    Token.readChars (line ++ trail) = Token.readChars line := by
  rcases line_or_leavesOpen line with ⟨values, hline⟩ | ⟨quote, values, rest, hline, hopen⟩
  · rcases hline.front with ⟨-, front, before, hsettles, rfl⟩ | ⟨front, rfl, hwhole⟩
    · cases trail with
      | nil => rw [List.append_nil]
      | cons blank trail =>
          rw [List.all_cons, Bool.and_eq_true] at htrail
          refine absurd ⟨front, before, blank, trail, hsettles, htrail.1, htrail.2, ?_⟩ hescaped
          simp
    · have hcut : CutsBetweenWords front trail := by
        by_cases hempty : trail = []
        · exact .inl hempty
        · have hstarts := startsWithBlank_append htrail hempty []
          rw [List.append_nil] at hstarts
          exact .inr (.inl hstarts)
      have hblanks : Line trail [] [] := by
        have hgap : Line (trail ++ []) [] [] := .blank trail htrail
        rwa [List.append_nil] at hgap
      have hboth := hwhole.append_of_cut hcut hblanks
      rw [List.append_nil] at hboth hline ⊢
      rw [readChars_of_line hboth, readChars_of_line hline]
  · have hfront : ∃ front, line = front ++ rest ∧ Whole front values := by
      refine hline.front.resolve_left ?_
      rintro ⟨rfl, -⟩
      nomatch hopen
    obtain ⟨front, rfl, hwhole⟩ := hfront
    have hboth : LeavesOpen quote ((front ++ rest) ++ trail) := by
      refine ⟨values, rest ++ trail, ?_, hopen.append_blanks htrail⟩
      rw [List.append_assoc]
      exact hwhole.settles (rest ++ trail)
    rw [readChars_of_leavesOpen hboth, readChars_of_leavesOpen ⟨values, rest, hline, hopen⟩]

theorem readChars_trimChars {line : List Char} (hescaped : ¬ EndsInEscapedBlank line) :
    Token.readChars (Text.trimChars line) = Token.readChars line := by
  obtain ⟨lead, trail, hlead, htrail, hline⟩ := Text.eq_blank_append_trimChars line
  rw [← List.append_assoc] at hline
  calc
    Token.readChars (Text.trimChars line) = Token.readChars (lead ++ Text.trimChars line) :=
      (readChars_lead hlead _).symm
    _ = Token.readChars ((lead ++ Text.trimChars line) ++ trail) :=
      (readChars_trail htrail (hline ▸ hescaped)).symm
    _ = Token.readChars line := by rw [← hline]

/-! ## An escaped blank at the end -/

/-- What is put behind a settled text goes on with the same word, whatever it is. -/
theorem Settles.append_word {front : List Char} {values : List (List Char)}
    (hsettles : Settles front values) :
    ∃ before last, ∀ next word, next ≠ [] → ¬ StartsWithBlank next → Line next [word] [] →
      Line (front ++ next) (before ++ [last ++ word]) [] := by
  by_cases hends : front = [] ∨ EndsInBlank front
  · refine ⟨values, [], fun next word _ _ hnext => ?_⟩
    exact hsettles.whole.append_of_cut (.inr (.inr hends)) hnext
  · have hcut : ∀ next, next ≠ [] → ¬ StartsWithBlank next → ¬ CutsBetweenWords front next := by
      rintro next hne hstarts (hempty | hblank | hfront)
      · exact hne hempty
      · exact hstarts hblank
      · exact hends hfront
    rcases List.eq_nil_or_concat' values with rfl | ⟨before, last, rfl⟩
    · refine ⟨[], [], fun next word hne hstarts hnext => ?_⟩
      obtain ⟨_, _, _, _, hvalues, -⟩ := hsettles.whole.append_of_not_cut (hcut next hne hstarts) hnext
      simp at hvalues
    · refine ⟨before, last, fun next word hne hstarts hnext => ?_⟩
      obtain ⟨front, found, first, others, hvalues, hword, hline⟩ :=
        hsettles.whole.append_of_not_cut (hcut next hne hstarts) hnext
      obtain ⟨rfl, rfl⟩ := List.append_singleton_inj.1 hvalues
      obtain ⟨rfl, rfl⟩ := List.cons.inj hword
      exact hline

theorem line_escaped (blank : Char) {trail : List Char} (htrail : trail.all Text.isBlank = true) :
    Line ('\\' :: blank :: trail) [[blank]] [] := by
  have hword : Word ('\\' :: blank :: trail) [blank] trail := .one .escaped
  refine .words [] trail rfl (.one ?_) htrail
  rwa [List.append_nil]

theorem line_final : Line ['\\'] [['\\']] [] :=
  .words [] [] rfl (.one (.one .final)) rfl

/-- Without the escaped blank at the end of a line, its last word ends in the backslash. -/
theorem read_trim_of_escapedBlank {line : String} (hescaped : EndsInEscapedBlank line.toList) :
    ∃ words last blank, Text.isBlank blank = true ∧
      Token.read line = .ok (words ++ [String.ofList (last ++ [blank])]) ∧
      Token.read (Text.trim line) = .ok (words ++ [String.ofList (last ++ ['\\'])]) := by
  obtain ⟨front, values, blank, trail, hsettles, hblank, htrail, hline⟩ := hescaped
  obtain ⟨before, last, hword⟩ := hsettles.append_word
  have hstarts : ∀ rest, ¬ StartsWithBlank ('\\' :: rest) := by
    rintro rest ⟨c, tail, hc, hstart⟩
    obtain ⟨rfl, -⟩ := List.cons.inj hstart
    exact absurd hc (by decide)
  have htyped : Token.readChars line.toList = .ok (before ++ [last ++ [blank]]) := by
    rw [hline]
    exact readChars_of_line (hword _ _ (by simp) (hstarts _) (line_escaped blank htrail))
  have htrimmed : Token.readChars (Text.trimChars line.toList) =
      .ok (before ++ [last ++ ['\\']]) := by
    have hgap : (blank :: trail).all Text.isBlank = true := by simp [hblank, htrail]
    rw [hline, Text.trimChars_blank (by decide) hgap,
      ← readChars_lead (List.all_takeWhile (l := front)), ← List.append_assoc,
      List.takeWhile_append_dropWhile]
    exact readChars_of_line (hword _ _ (by simp) (hstarts _) line_final)
  refine ⟨before.map String.ofList, last, blank, hblank, ?_, ?_⟩
  · simp [Token.read, htyped, Except.map]
  · simp [Token.read, Text.trim, htrimmed, Except.map]

end LineGrammar

namespace LineMeaning

/-! ## The last word of a line -/

/-- The last word of a line is the last word of its last group. -/
theorem groups_concat (words : List String) :
    ∃ front start, ∀ last, last ≠ "|" → groups (words ++ [last]) = front ++ [start ++ [last]] := by
  obtain ⟨front, start, hwords⟩ := splitOn_concat "|" words
  refine ⟨front.filter fun group => !group.isEmpty, start, fun last hlast => ?_⟩
  simp [groups, hwords last hlast]

/-- A command keeps the words of its group. -/
theorem words_perm_of_buildCommand {group : List String} (hne : group ≠ []) {c : Command}
    (hbuild : buildCommand group = .ok c) : c.words.Perm group := by
  rcases stage_cases hne with ⟨operator, after, hoperator, rfl⟩ |
    ⟨name, args, hfree, rfl⟩ | ⟨name, args, operator, after, hfree, hoperator, rfl⟩
  · rw [buildCommand_of_leading hoperator] at hbuild
    nomatch hbuild
  · rw [buildCommand_of_operatorFree hfree] at hbuild
    obtain rfl := Except.ok.inj hbuild
    exact .refl _
  · rw [buildCommand_of_operator hfree hoperator] at hbuild
    obtain rfl := Except.ok.inj hbuild
    cases after with
    | nil => exact .of_eq (by simp [Command.words])
    | cons target after =>
        have hmoved : (operator :: target :: (args ++ after)).Perm
            (args ++ operator :: target :: after) :=
          (List.Perm.cons operator List.perm_middle.symm).trans List.perm_middle.symm
        exact hmoved.cons name

/-- A command shows the last word of its group. -/
theorem last_eq_of_buildCommand {start : List String} {last other : String} {c : Command}
    (hlast : buildCommand (start ++ [last]) = .ok c)
    (hother : buildCommand (start ++ [other]) = .ok c) : last = other := by
  have hperm := (words_perm_of_buildCommand (by simp) hlast).symm.trans
    (words_perm_of_buildCommand (by simp) hother)
  rwa [List.perm_append_left_iff, List.singleton_perm_singleton] at hperm

theorem not_lacksTarget_concat {start : List String} {last : String}
    (hlast : isOperator last = false) (operator : String) :
    ¬ LacksTarget operator (start ++ [last]) := by
  rintro ⟨hoperator, before, -, hends⟩
  obtain ⟨-, rfl⟩ := List.append_singleton_inj.1 hends
  simp [hlast] at hoperator

/-- The group that lacks a command does so whatever the last word is, if that is no operator. -/
theorem Verdict.missingCommand_concat {front : List (List String)} {start : List String}
    {last operator : String} (hlast : isOperator last = false)
    (hverdict : Verdict (front ++ [start ++ [last]]) (.error (.missingCommand operator)))
    (other : String) :
    Verdict (front ++ [start ++ [other]]) (.error (.missingCommand operator)) := by
  cases hverdict with
  | @missingCommand before after group _ hstages hbefore hlacks =>
      rcases List.eq_nil_or_concat' after with rfl | ⟨after, final, rfl⟩
      · obtain ⟨rfl, rfl⟩ := List.append_singleton_inj.1 hstages
        obtain ⟨hoperator, rest, hstart⟩ := hlacks
        cases start with
        | nil =>
            obtain rfl := (List.cons.inj hstart).1
            simp [hlast] at hoperator
        | cons first start =>
            obtain rfl := (List.cons.inj hstart).1
            exact .missingCommand rfl hbefore ⟨hoperator, _, rfl⟩
      · rw [← List.cons_append, ← List.append_assoc] at hstages
        obtain ⟨rfl, -⟩ := List.append_singleton_inj.1 hstages
        have hgroups : (before ++ group :: after) ++ [start ++ [other]] =
            before ++ group :: (after ++ [start ++ [other]]) := by simp
        exact .missingCommand hgroups hbefore hlacks

/-- A word that is neither a pipe nor an operator. -/
def IsOrdinary (word : String) : Prop :=
  word ≠ "|" ∧ isOperator word = false

/-- Lines that differ in their last word mean the same only if they lack a command. -/
theorem buildPipeline_concat_eq_iff {words : List String} {last other : String}
    (hlast : IsOrdinary last) (hother : IsOrdinary other) (hne : last ≠ other) :
    buildPipeline (words ++ [other]) = buildPipeline (words ++ [last]) ↔
      ∃ operator, buildPipeline (words ++ [last]) = .error (.missingCommand operator) := by
  obtain ⟨front, start, hgroups⟩ := groups_concat words
  have hverdict : ∀ result, buildPipeline (words ++ [last]) = result ↔
      Verdict (front ++ [start ++ [last]]) result := by
    intro result
    rw [buildPipeline_eq_iff, hgroups last hlast.1]
  have hotherVerdict : ∀ result, buildPipeline (words ++ [other]) = result ↔
      Verdict (front ++ [start ++ [other]]) result := by
    intro result
    rw [buildPipeline_eq_iff, hgroups other hother.1]
  constructor
  · intro hsame
    rw [hotherVerdict] at hsame
    cases hresult : buildPipeline (words ++ [last]) with
    | error e =>
        cases (hverdict _).1 hresult with
        | missingCommand => exact ⟨_, rfl⟩
        | missingTarget _ hgroup hlacks =>
            rw [List.getLast?_concat] at hgroup
            obtain rfl := Option.some.inj hgroup
            exact absurd hlacks (not_lacksTarget_concat hlast.2 _)
    | ok parsed =>
        rw [hresult] at hsame
        cases (hverdict _).1 hresult with
        | nothing hnone => simp at hnone
        | @commands p _ _ hbuilt =>
            cases hsame with
            | @commands _ _ _ hotherBuilt =>
                have hp : p.commands.getLast? = some p.last :=
                  List.getLast?_eq_some_getLast p.commands_ne_nil
                obtain ⟨group, hgroup, hbuild⟩ := getLast?_of_forall₂ hbuilt hp
                obtain ⟨otherGroup, hotherGroup, hotherBuild⟩ := getLast?_of_forall₂ hotherBuilt hp
                rw [List.getLast?_concat] at hgroup hotherGroup
                obtain rfl := Option.some.inj hgroup
                obtain rfl := Option.some.inj hotherGroup
                exact absurd (last_eq_of_buildCommand hbuild hotherBuild) hne
  · rintro ⟨operator, hmissing⟩
    rw [hmissing, hotherVerdict]
    exact ((hverdict _).1 hmissing).missingCommand_concat hlast.2 other

end LineMeaning

open LineGrammar LineMeaning

theorem isOrdinary_of_getLast? {word : String} {c : Char} (hlast : word.toList.getLast? = some c)
    (hpipe : c ≠ '|') (hoperator : c ≠ '>') : IsOrdinary word := by
  constructor
  · rintro rfl
    exact hpipe (Option.some.inj hlast).symm
  · rw [← Bool.not_eq_true]
    intro hword
    exact hoperator (Option.some.inj (hlast.symm.trans (getLast?_operator hword)))

/-- Trimming a line changes what it means exactly if the line ends in an escaped blank, unless
the line is refused for a group of words without a command. -/
theorem parse_trim_iff (line : String) :
    parse (Text.trim line) = parse line ↔
      ¬ EndsInEscapedBlank line.toList ∨ ∃ operator, parse line = .error (.missingCommand operator) := by
  by_cases hescaped : EndsInEscapedBlank line.toList
  · obtain ⟨words, last, blank, hblank, htyped, htrimmed⟩ := read_trim_of_escapedBlank hescaped
    have hlast : IsOrdinary (String.ofList (last ++ [blank])) :=
      isOrdinary_of_getLast? (by simp) (ne_of_isBlank hblank (by decide))
        (ne_of_isBlank hblank (by decide))
    have hother : IsOrdinary (String.ofList (last ++ ['\\'])) :=
      isOrdinary_of_getLast? (c := '\\') (by simp) (by decide) (by decide)
    have hne : String.ofList (last ++ [blank]) ≠ String.ofList (last ++ ['\\']) := by
      intro hsame
      have hchars := List.append_cancel_left (String.ofList_injective hsame)
      exact ne_of_isBlank hblank (by decide) (List.cons.inj hchars).1
    simp only [hescaped, not_true_eq_false, false_or, parse, htyped, htrimmed]
    exact buildPipeline_concat_eq_iff hlast hother hne
  · have hread : Token.read (Text.trim line) = Token.read line := by
      simp [Token.read, Text.trim, readChars_trimChars hescaped]
    simp [parse, hread, hescaped]

/-- An escaped blank at the end is the end of a word when it is typed, and no more when the
line is trimmed. -/
theorem trim_changes_meaning :
    parse (Text.trim "echo a\\ ") ≠ parse "echo a\\ " := by
  decide +kernel

end PipelineShell
