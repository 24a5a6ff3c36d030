import PipelineShell.Proofs.DecodedFile
import PipelineShell.Proofs.LineEffects
import PipelineShell.Proofs.PipeGroups
import PipelineShell.Proofs.TrimmedLine

/-!
# Blank lines

Three parts of the shell ask whether a line is blank: the reader finds no word in it, the
session has nothing left of it when it is trimmed, and the history does not record it.  They
always give the same answer.  A line that is recorded need not be one that runs: it may leave
a quote open, or hold nothing but pipes.
-/

namespace PipelineShell

open LineGrammar

/-- A line with a word in it, or with a quote that nothing closes. -/
def HoldsWordOrOpenQuote (line : String) : Prop :=
  (∃ word words, Token.read line = .ok (word :: words)) ∨ ∃ quote, Token.read line = .error quote

/-! ## The reader of words -/

theorem line_nil_iff (text : List Char) : Line text [] [] ↔ text.all Text.isBlank = true := by
  constructor
  · generalize hvalues : ([] : List (List Char)) = values
    generalize hrest : ([] : List Char) = rest
    intro hline
    cases hline with
    | blank gap hgap => rwa [← hrest, List.append_nil]
    | words lead trail _ hwords _ => exact absurd hvalues.symm hwords.ne_nil
  · intro hblank
    have hgap : Line (text ++ []) [] [] := .blank text hblank
    rwa [List.append_nil] at hgap

theorem read_eq_nil_iff (line : String) :
    Token.read line = .ok [] ↔ Text.isBlankLine line = true :=
  (read_eq_ok_iff line []).trans (line_nil_iff line.toList)

/-- Every line but a blank one has a word or an open quote, wherever its first character stands
that is not blank. -/
theorem holdsWordOrOpenQuote_iff (line : String) :
    HoldsWordOrOpenQuote line ↔ Text.isBlankLine line = false := by
  rw [← Bool.not_eq_true, ← read_eq_nil_iff, HoldsWordOrOpenQuote]
  cases Token.read line with
  | error quote => simp
  | ok words => cases words <;> simp

theorem trim_isEmpty_iff (line : String) :
    (Text.trim line).isEmpty = true ↔ Text.isBlankLine line = true := by
  rw [Text.isBlankLine, ← Text.trimChars_eq_nil_iff]
  simp [Text.trim]

/-! ## The history -/

namespace History

theorem push_eq_self_iff (h : History) (line : String) :
    h.push line = h ↔ Text.isBlankLine line = true := by
  refine ⟨fun hpush => ?_, push_of_blank h⟩
  rw [← Bool.not_eq_false]
  intro hentry
  rw [push_of_entry h hentry] at hpush
  simpa using congrArg entries hpush

theorem push_eq_entry_iff (h : History) (line : String) :
    h.push line = ⟨h.entries ++ [line], h.appended⟩ ↔ Text.isBlankLine line = false := by
  refine ⟨fun hpush => ?_, push_of_entry h⟩
  rw [← Bool.not_eq_true]
  intro hblank
  rw [push_of_blank h hblank] at hpush
  simpa using congrArg entries hpush

end History

/-! ## The session -/

/-- Handling a typed line adds it to the history without the blanks at its ends, before all
that it adds itself. -/
def Session.Records (settings : Session.Settings) (w : World) (typed : String) : Prop :=
  ∃ added, (Session.handleLine settings w typed).1.state.history.entries =
    w.state.history.entries ++ Text.trim typed :: added

theorem Session.records_iff (settings : Session.Settings) (w : World) (typed : String) :
    Session.Records settings w typed ↔ Text.isBlankLine typed = false := by
  have heffect := effect_handleLine settings w typed
  rw [← Bool.not_eq_true, ← trim_isEmpty_iff]
  constructor
  · rintro ⟨added, hentries⟩ hblank
    rw [(heffect.blank hblank).1] at hentries
    simpa using congrArg List.length hentries
  · intro hblank
    refine ⟨recalled settings.executor
      ((record w (Text.trim typed)).log [commandRecord (Text.trim typed)]) (Text.trim typed), ?_⟩
    rw [heffect.entries, recorded, if_neg hblank]

/-! ## Lines of pipes -/

/-- There is nothing to run in a line exactly if it holds only pipes, or not even those. -/
theorem parse_eq_none_iff (line : String) :
    parse line = .ok none ↔ ∃ pipes, Token.read line = .ok (List.replicate pipes "|") := by
  rw [parse]
  cases Token.read line with
  | error quote => simp
  | ok words =>
      have hnothing : buildPipeline words = .ok none ↔ splitStages words = [] := by
        rw [LineMeaning.buildPipeline_eq_iff, LineMeaning.splitStages_eq_groups]
        refine ⟨fun hverdict => ?_, .nothing⟩
        cases hverdict with
        | nothing hnone => exact hnone
      simp only [hnothing, PipeGroups.splitStages_eq_nil_iff, Except.ok.injEq]

/-- A pipe is no blank, so that no pipe is lost when the line is trimmed. -/
theorem read_trim_of_pipes {line : String} {pipes : ℕ}
    (hread : Token.read line = .ok (List.replicate pipes "|")) :
    Token.read (Text.trim line) = .ok (List.replicate pipes "|") := by
  have hescaped : ¬ EndsInEscapedBlank line.toList := by
    intro hends
    obtain ⟨words, last, blank, hblank, htyped, -⟩ := read_trim_of_escapedBlank hends
    rw [hread] at htyped
    have hmem : String.ofList (last ++ [blank]) ∈ List.replicate pipes "|" := by
      rw [Except.ok.inj htyped]
      simp
    have hchars : last ++ [blank] = ['|'] := by
      rw [← String.toList_ofList (l := last ++ [blank]), List.eq_of_mem_replicate hmem]
      rfl
    have hpipe : blank = '|' := by simpa using congrArg List.getLast? hchars
    exact ne_of_isBlank hblank (by decide) hpipe
  rw [← hread]
  simp [Token.read, Text.trim, readChars_trimChars hescaped]

/-- A session does no more with a line of pipes than record it. -/
theorem Session.handleLine_of_pipes (settings : Session.Settings) (w : World) {line : String}
    {pipes : ℕ} (hread : Token.read line = .ok (List.replicate (pipes + 1) "|")) :
    Session.handleLine settings w line =
      ((Session.record w (Text.trim line)).log [Session.commandRecord (Text.trim line)],
        [.record (Session.commandRecord (Text.trim line))]) := by
  have hholds : HoldsWordOrOpenQuote line := .inl ⟨_, _, hread⟩
  have hempty : ¬ (Text.trim line).isEmpty = true := by
    rw [trim_isEmpty_iff, Bool.not_eq_true, ← holdsWordOrOpenQuote_iff]
    exact hholds
  have hparse : parse (Text.trim line) = .ok none :=
    (parse_eq_none_iff _).2 ⟨_, read_trim_of_pipes hread⟩
  rw [handleLine, if_neg hempty, handleCommand_eq]
  simp [runLine, hparse]

/-- A line has no words exactly if nothing is left of it when it is trimmed, and exactly if no
history records it.  It is recorded exactly if it has a word or leaves a quote open, and so it
is if all its words are pipes, though there is nothing in it to run. -/
theorem blank_notions_agree (line : String) :
    (Token.read line = .ok [] ↔ (Text.trim line).isEmpty = true) ∧
    (∀ h : History, (Text.trim line).isEmpty = true ↔ h.push line = h) ∧
    (∀ h : History,
      h.push line = ⟨h.entries ++ [line], h.appended⟩ ↔ HoldsWordOrOpenQuote line) ∧
    (∀ settings w, Token.read line = .ok [] → Session.handleLine settings w line = (w, [])) ∧
    (∀ settings w, Session.Records settings w line ↔ HoldsWordOrOpenQuote line) ∧
    ∀ pipes, Token.read line = .ok (List.replicate (pipes + 1) "|") →
      parse line = .ok none ∧
      (∀ h : History, h.push line = ⟨h.entries ++ [line], h.appended⟩) ∧
      ∀ settings w, Session.handleLine settings w line =
        ((Session.record w (Text.trim line)).log [Session.commandRecord (Text.trim line)],
          [.record (Session.commandRecord (Text.trim line))]) := by
  refine ⟨?_, fun h => ?_, fun h => ?_, fun settings w hread => ?_, fun settings w => ?_,
    fun pipes hread => ⟨?_, fun h => ?_, fun settings w => ?_⟩⟩
  · rw [read_eq_nil_iff, trim_isEmpty_iff]
  · rw [trim_isEmpty_iff, History.push_eq_self_iff]
  · rw [History.push_eq_entry_iff, holdsWordOrOpenQuote_iff]
  · have hblank : (Text.trim line).isEmpty = true := by
      rw [trim_isEmpty_iff, ← read_eq_nil_iff]
      exact hread
    obtain ⟨hworld, hevents⟩ := (Session.effect_handleLine settings w line).blank hblank
    exact Prod.ext hworld hevents
  · rw [Session.records_iff, holdsWordOrOpenQuote_iff]
  · exact (parse_eq_none_iff line).2 ⟨_, hread⟩
  · rw [History.push_eq_entry_iff, ← holdsWordOrOpenQuote_iff]
    exact .inl ⟨_, _, hread⟩
  · exact Session.handleLine_of_pipes settings w hread

/-- A line of blanks that are not all ASCII, and one of pipes, of which one is quoted. -/
theorem blank_notions_agree_pipes :
    Token.read "\t\u3000" = .ok [] ∧ Text.trim "\t\u3000" = "" ∧
      (∀ settings w, Session.handleLine settings w "\t\u3000" = (w, [])) ∧
      Token.read " | '|'" = .ok ["|", "|"] ∧ parse " | '|'" = .ok none ∧
      History.empty.push " | '|'" = ⟨[" | '|'"], 0⟩ := by
  obtain ⟨hnotions, -, -, hhandled, -, -⟩ := blank_notions_agree "\t\u3000"
  have hblank : Token.read "\t\u3000" = .ok [] := by decide +kernel
  have hpipes : Token.read " | '|'" = .ok ["|", "|"] := by decide +kernel
  obtain ⟨-, -, -, -, -, hrecorded⟩ := blank_notions_agree " | '|'"
  obtain ⟨hparse, hpush, -⟩ := hrecorded 1 hpipes
  exact ⟨hblank, by simpa using hnotions.1 hblank, fun settings w => hhandled settings w hblank,
    hpipes, hparse, hpush History.empty⟩

end PipelineShell
