import Mathlib.Data.List.Induction
import PipelineShell.Token

/-!
# The grammar of a line

A line is `blank* (word (blank+ word)*)? blank*`, and a word is a run of chunks
that touch.  Each relation below says what stands at the front of a text, what
it means, and what is left of the text.  The reader of words accepts exactly the
lines of this grammar, and a line that is not in it leaves a quote open.
-/

namespace PipelineShell.LineGrammar

open Token

/-- A character that stands for itself and ends nothing. -/
def IsPlain (c : Char) : Prop :=
  Text.isBlank c = false ∧ c ≠ '\'' ∧ c ≠ '"' ∧ c ≠ '\\'

/-- What stands between double quotes, and what it means.  A backslash removes
itself before a double quote or a backslash and stays before anything else. -/
inductive DoubleQuoted : List Char → List Char → Prop where
  | nil : DoubleQuoted [] []
  | literal {c : Char} {text value : List Char} : c ≠ '"' → c ≠ '\\' →
      DoubleQuoted text value → DoubleQuoted (c :: text) (c :: value)
  | escaped {c : Char} {text value : List Char} : c = '"' ∨ c = '\\' →
      DoubleQuoted text value → DoubleQuoted ('\\' :: c :: text) (c :: value)
  | backslash {c : Char} {text value : List Char} : c ≠ '"' → c ≠ '\\' →
      DoubleQuoted text value → DoubleQuoted ('\\' :: c :: text) ('\\' :: c :: value)

/-- The first chunk of a text: the text, the value of the chunk, the rest. -/
inductive Chunk : List Char → List Char → List Char → Prop where
  | plain {c : Char} {rest : List Char} : IsPlain c → Chunk (c :: rest) [c] rest
  | single {text rest : List Char} : '\'' ∉ text →
      Chunk ('\'' :: (text ++ '\'' :: rest)) text rest
  | double {text value rest : List Char} : DoubleQuoted text value →
      Chunk ('"' :: (text ++ '"' :: rest)) value rest
  | escaped {c : Char} {rest : List Char} : Chunk ('\\' :: c :: rest) [c] rest
  /-- a backslash that is the last character of the line -/
  | final : Chunk ['\\'] ['\\'] []

/-- A run of adjacent chunks; its value is that of the chunks together. -/
inductive Word : List Char → List Char → List Char → Prop where
  | one {line value rest : List Char} : Chunk line value rest → Word line value rest
  | more {line value next values rest : List Char} : Chunk line value next →
      Word next values rest → Word line (value ++ values) rest

/-- `word (blank+ word)*`.  A word that blanks or the end of the line follow is
a maximal run, because no chunk starts with a blank. -/
inductive Words : List Char → List (List Char) → List Char → Prop where
  | one {line value rest : List Char} : Word line value rest → Words line [value] rest
  | more {line value next rest : List Char} {values : List (List Char)} (gap : List Char) :
      Word line value (gap ++ next) → gap ≠ [] → gap.all Text.isBlank = true →
      Words next values rest → Words line (value :: values) rest

/-- `blank* (word (blank+ word)*)? blank*`. -/
inductive Line : List Char → List (List Char) → List Char → Prop where
  | blank {rest : List Char} (gap : List Char) : gap.all Text.isBlank = true →
      Line (gap ++ rest) [] rest
  | words {line rest : List Char} {values : List (List Char)} (lead trail : List Char) :
      lead.all Text.isBlank = true → Words line values (trail ++ rest) →
      trail.all Text.isBlank = true → Line (lead ++ line) values rest

/-- A text that starts with a quote which nothing closes. -/
inductive Unclosed : Quote → List Char → Prop where
  | single {text : List Char} : '\'' ∉ text → Unclosed .single ('\'' :: text)
  | double {text value : List Char} : DoubleQuoted text value → Unclosed .double ('"' :: text)
  /-- the last backslash would have escaped what came after it -/
  | doubleBackslash {text value : List Char} : DoubleQuoted text value →
      Unclosed .double ('"' :: (text ++ ['\\']))

/-- A line in which a quote is open at the end. -/
def LeavesOpen (quote : Quote) (line : List Char) : Prop :=
  ∃ values rest, Line line values rest ∧ Unclosed quote rest

theorem Word.snoc {line value next values rest : List Char} (hword : Word line value next)
    (hchunk : Chunk next values rest) : Word line (value ++ values) rest := by
  induction hword with
  | one hfirst => exact .more hfirst (.one hchunk)
  | more hfirst _ ih =>
      rw [List.append_assoc]
      exact .more hfirst (ih hchunk)

/-! ## Every text is a line up to its end or up to an open quote -/

theorem Unclosed.extend {head text : List Char}
    (hhead : ∀ text value, DoubleQuoted text value → ∃ value, DoubleQuoted (head ++ text) value)
    (hopen : Unclosed .double ('"' :: text)) : Unclosed .double ('"' :: (head ++ text)) := by
  cases hopen with
  | double hquoted =>
      obtain ⟨value, hmore⟩ := hhead _ _ hquoted
      exact .double hmore
  | doubleBackslash hquoted =>
      obtain ⟨value, hmore⟩ := hhead _ _ hquoted
      rw [← List.append_assoc]
      exact .doubleBackslash hmore

/-- What follows a double quote is closed by another one or by nothing. -/
theorem doubleQuoted_or_unclosed (text : List Char) :
    (∃ body value rest, text = body ++ '"' :: rest ∧ DoubleQuoted body value) ∨
      Unclosed .double ('"' :: text) := by
  induction text using List.twoStepInduction with
  | nil => exact .inr (.double .nil)
  | singleton c =>
      by_cases hquote : c = '"'
      · subst hquote
        exact .inl ⟨[], [], [], rfl, .nil⟩
      by_cases hbackslash : c = '\\'
      · subst hbackslash
        exact .inr (.doubleBackslash .nil)
      · exact .inr (.double (.literal hquote hbackslash .nil))
  | cons_cons c d text ihRest ihTail =>
      by_cases hquote : c = '"'
      · subst hquote
        exact .inl ⟨[], [], d :: text, rfl, .nil⟩
      by_cases hbackslash : c = '\\'
      · subst hbackslash
        -- A backslash takes the next character with it, so that a quote there closes nothing.
        have hpair : ∀ text value, DoubleQuoted text value →
            ∃ value, DoubleQuoted (['\\', d] ++ text) value := by
          intro text value hquoted
          by_cases hescape : d = '"' ∨ d = '\\'
          · exact ⟨_, .escaped hescape hquoted⟩
          · rw [not_or] at hescape
            exact ⟨_, .backslash hescape.1 hescape.2 hquoted⟩
        rcases ihRest with ⟨body, value, rest, rfl, hquoted⟩ | hopen
        · obtain ⟨more, hmore⟩ := hpair _ _ hquoted
          exact .inl ⟨['\\', d] ++ body, more, rest, rfl, hmore⟩
        · exact .inr (hopen.extend hpair)
      · have hliteral : ∀ text value, DoubleQuoted text value →
            ∃ value, DoubleQuoted ([c] ++ text) value :=
          fun _ _ hquoted => ⟨_, .literal hquote hbackslash hquoted⟩
        rcases ihTail d with ⟨body, value, rest, htext, hquoted⟩ | hopen
        · obtain ⟨more, hmore⟩ := hliteral _ _ hquoted
          exact .inl ⟨[c] ++ body, more, rest, by rw [htext]; rfl, hmore⟩
        · exact .inr (hopen.extend hliteral)

/-- What follows a single quote is closed by another one or by nothing. -/
theorem singleQuoted_or_unclosed (text : List Char) :
    (∃ body rest, text = body ++ '\'' :: rest ∧ '\'' ∉ body) ∨
      Unclosed .single ('\'' :: text) := by
  by_cases hquote : '\'' ∈ text
  · obtain ⟨body, rest, htext, hbody⟩ := List.eq_append_cons_of_mem hquote
    exact .inl ⟨body, rest, htext, hbody⟩
  · exact .inr (.single hquote)

/-- A text starts with a blank, with a chunk or with an open quote. -/
theorem front_cases (c : Char) (text : List Char) :
    Text.isBlank c = true ∨
      (∃ value rest, Chunk (c :: text) value rest ∧ rest.length < (c :: text).length) ∨
      ∃ quote, Unclosed quote (c :: text) := by
  by_cases hblank : Text.isBlank c = true
  · exact .inl hblank
  refine .inr ?_
  by_cases hsingle : c = '\''
  · subst hsingle
    rcases singleQuoted_or_unclosed text with ⟨body, rest, rfl, hbody⟩ | hopen
    · have hshorter : rest.length < ('\'' :: (body ++ '\'' :: rest)).length := by
        simp only [List.length_cons, List.length_append]
        omega
      exact .inl ⟨body, rest, .single hbody, hshorter⟩
    · exact .inr ⟨.single, hopen⟩
  by_cases hdouble : c = '"'
  · subst hdouble
    rcases doubleQuoted_or_unclosed text with ⟨body, value, rest, rfl, hquoted⟩ | hopen
    · have hshorter : rest.length < ('"' :: (body ++ '"' :: rest)).length := by
        simp only [List.length_cons, List.length_append]
        omega
      exact .inl ⟨value, rest, .double hquoted, hshorter⟩
    · exact .inr ⟨.double, hopen⟩
  by_cases hbackslash : c = '\\'
  · subst hbackslash
    cases text with
    | nil => exact .inl ⟨_, [], .final, by simp⟩
    | cons d rest => exact .inl ⟨_, rest, .escaped, by simp only [List.length_cons]; omega⟩
  · have hplain : IsPlain c := ⟨by simpa using hblank, hsingle, hdouble, hbackslash⟩
    exact .inl ⟨_, text, .plain hplain, by simp⟩

/-- The end of a text, or an open quote. -/
def Stops (rest : List Char) : Prop :=
  rest = [] ∨ ∃ quote, Unclosed quote rest

theorem Line.cons_blank {c : Char} {line rest : List Char} {values : List (List Char)}
    (hblank : Text.isBlank c = true) (hline : Line line values rest) :
    Line (c :: line) values rest := by
  cases hline with
  | blank gap hgap =>
      exact .blank (c :: gap) (by simp [hblank, hgap])
  | words lead trail hlead hwords htrail =>
      exact .words (c :: lead) trail (by simp [hblank, hlead]) hwords htrail

theorem Line.cons_word {line value rest : List Char} {c : Char} {next : List Char}
    {values : List (List Char)} (hword : Word line value (c :: next))
    (hblank : Text.isBlank c = true) (hline : Line next values rest) :
    Line line (value :: values) rest := by
  cases hline with
  | blank gap hgap =>
      exact .words [] (c :: gap) rfl (.one hword) (by simp [hblank, hgap])
  | words lead trail hlead hwords htrail =>
      exact .words [] trail rfl
        (.more (c :: lead) hword (by simp) (by simp [hblank, hlead]) hwords) htrail

/-- Every text is a line up to where it stops, also with a word under way. -/
theorem exists_line (line : List Char) :
    (∃ values rest, Line line values rest ∧ Stops rest) ∧
      ∀ text value, Word text value line →
        ∃ values rest, Line text values rest ∧ Stops rest := by
  induction hlength : line.length using Nat.strongRecOn generalizing line with
  | ind length ih =>
      cases line with
      | nil =>
          refine ⟨⟨[], [], .blank [] rfl, .inl rfl⟩, fun text value hword => ?_⟩
          exact ⟨[value], [], .words [] [] rfl (.one hword) rfl, .inl rfl⟩
      | cons c next =>
          rcases front_cases c next with hblank | ⟨value, rest, hchunk, hshorter⟩ | ⟨quote, hopen⟩
          · obtain ⟨⟨values, rest, hline, hstops⟩, -⟩ :=
              ih next.length (by simp [← hlength]) next rfl
            exact ⟨⟨values, rest, hline.cons_blank hblank, hstops⟩,
              fun text value hword => ⟨_, rest, hline.cons_word hword hblank, hstops⟩⟩
          · have hgoOn := (ih rest.length (hlength ▸ hshorter) rest rfl).2
            exact ⟨hgoOn _ _ (.one hchunk), fun text before hword => hgoOn _ _ (hword.snoc hchunk)⟩
          · refine ⟨⟨[], c :: next, .blank [] rfl, .inr ⟨quote, hopen⟩⟩,
              fun text value hword => ?_⟩
            exact ⟨[value], c :: next, .words [] [] rfl (.one hword) rfl, .inr ⟨quote, hopen⟩⟩

/-! ## What the reader makes of the grammar -/

/-- What reading a text leads to from a reader. -/
def outcome (r : Reader) (line : List Char) : Except Quote (List (List Char)) :=
  (line.foldl Reader.step r).finish

@[simp]
theorem outcome_cons (r : Reader) (c : Char) (line : List Char) :
    outcome r (c :: line) = outcome (r.step c) line := rfl

theorem outcome_append (r : Reader) (front line : List Char) :
    outcome r (front ++ line) = outcome (front.foldl Reader.step r) line := by
  simp [outcome]

theorem foldl_single {text : List Char} (htext : '\'' ∉ text) (words : List (List Char))
    (word : List Char) :
    text.foldl Reader.step ⟨words, some word, .single⟩ =
      ⟨words, some (text.reverse ++ word), .single⟩ := by
  induction text generalizing word with
  | nil => rfl
  | cons c text ih =>
      rw [List.mem_cons, not_or] at htext
      have hc : c ≠ '\'' := Ne.symm htext.1
      simp [Reader.step, Reader.push, hc, ih htext.2]

theorem foldl_double {text value : List Char} (hquoted : DoubleQuoted text value)
    (words : List (List Char)) (word : List Char) :
    text.foldl Reader.step ⟨words, some word, .double⟩ =
      ⟨words, some (value.reverse ++ word), .double⟩ := by
  induction hquoted generalizing word with
  | nil => rfl
  | literal hquote hbackslash _ ih =>
      simp [Reader.step, Reader.push, hquote, hbackslash, ih]
  | escaped hescape _ ih =>
      simp [Reader.step, Reader.push, Reader.enter, hescape, ih]
  | backslash hquote hbackslash _ ih =>
      simp [Reader.step, Reader.push, Reader.enter, hquote, hbackslash, ih]

/-- Reading a chunk adds its value to the word under way. -/
theorem outcome_chunk {line value rest : List Char} (hchunk : Chunk line value rest)
    (words : List (List Char)) (word : Option (List Char)) :
    outcome ⟨words, word, .plain⟩ line =
      outcome ⟨words, some (value.reverse ++ word.getD []), .plain⟩ rest := by
  have hquote : Text.isBlank '\'' = false := by decide
  have hdouble : Text.isBlank '"' = false := by decide
  have hbackslash : Text.isBlank '\\' = false := by decide
  cases hchunk with
  | @plain c _ hplain =>
      obtain ⟨hblank, hc₁, hc₂, hc₃⟩ := hplain
      simp [Reader.step, Reader.push, hblank, hc₁, hc₂, hc₃]
  | single htext =>
      simp [Reader.step, Reader.enter, hquote, outcome_append, foldl_single htext]
  | double hquoted =>
      simp [Reader.step, Reader.enter, hdouble, outcome_append, foldl_double hquoted]
  | escaped => simp [Reader.step, Reader.enter, Reader.push, hbackslash]
  | final =>
      simp [outcome, Reader.step, Reader.enter, hbackslash, Reader.finish, Reader.push,
        Reader.close]

theorem outcome_word {line value rest : List Char} (hword : Word line value rest)
    (words : List (List Char)) (word : Option (List Char)) :
    outcome ⟨words, word, .plain⟩ line =
      outcome ⟨words, some (value.reverse ++ word.getD []), .plain⟩ rest := by
  induction hword generalizing word with
  | one hchunk => exact outcome_chunk hchunk words word
  | more hchunk _ ih =>
      rw [outcome_chunk hchunk, ih]
      simp

/-- Blanks end the word under way, if there is one. -/
theorem foldl_blanks {gap : List Char} (hgap : gap.all Text.isBlank = true) (hne : gap ≠ [])
    (words : List (List Char)) (word : Option (List Char)) :
    gap.foldl Reader.step ⟨words, word, .plain⟩ = (⟨words, word, .plain⟩ : Reader).close := by
  induction gap generalizing words word with
  | nil => exact absurd rfl hne
  | cons c gap ih =>
      simp only [List.all_cons, Bool.and_eq_true] at hgap
      have hstep : (⟨words, word, .plain⟩ : Reader).step c =
          (⟨words, word, .plain⟩ : Reader).close := by
        simp [Reader.step, hgap.1]
      rw [List.foldl_cons, hstep]
      by_cases hlast : gap = []
      · subst hlast
        rfl
      · cases word <;> simp only [Reader.close] <;> exact ih hgap.2 hlast _ _

theorem foldl_blanks_between {gap : List Char} (hgap : gap.all Text.isBlank = true)
    (words : List (List Char)) :
    gap.foldl Reader.step ⟨words, none, .plain⟩ = ⟨words, none, .plain⟩ := by
  by_cases hne : gap = []
  · subst hne
    rfl
  · exact foldl_blanks hgap hne words none

/-- After words the last one is still under way. -/
theorem outcome_words {line rest : List Char} {values : List (List Char)}
    (hwords : Words line values rest) (words : List (List Char)) :
    ∃ front last, values = front ++ [last] ∧
      outcome ⟨words, none, .plain⟩ line =
        outcome ⟨front.reverse ++ words, some last.reverse, .plain⟩ rest := by
  induction hwords generalizing words with
  | @one line value rest hword =>
      refine ⟨[], value, rfl, ?_⟩
      rw [outcome_word hword]
      simp
  | @more line value next rest values gap hword hne hgap _ ih =>
      obtain ⟨front, last, hvalues, hnext⟩ := ih (value :: words)
      refine ⟨value :: front, last, by rw [hvalues]; rfl, ?_⟩
      rw [outcome_word hword, outcome_append, foldl_blanks hgap hne]
      simpa [Reader.close] using hnext

/-- Reading a line leaves a reader outside quotes, with the words of the line. -/
theorem outcome_line {line rest : List Char} {values : List (List Char)}
    (hline : Line line values rest) :
    ∃ words word, (⟨words, word, .plain⟩ : Reader).close.words = values.reverse ∧
      outcome Reader.start line = outcome ⟨words, word, .plain⟩ rest := by
  cases hline with
  | blank gap hgap =>
      refine ⟨[], none, rfl, ?_⟩
      rw [Reader.start, outcome_append, foldl_blanks_between hgap]
  | words lead trail hlead hwords htrail =>
      obtain ⟨front, last, hvalues, houtcome⟩ := outcome_words hwords []
      rw [Reader.start, outcome_append, foldl_blanks_between hlead, houtcome, outcome_append]
      by_cases hne : trail = []
      · subst hne
        exact ⟨_, _, by simp [Reader.close, hvalues], rfl⟩
      · rw [foldl_blanks htrail hne]
        exact ⟨_, _, by simp [Reader.close, hvalues], rfl⟩

theorem readChars_of_line {line : List Char} {values : List (List Char)}
    (hline : Line line values []) : readChars line = .ok values := by
  obtain ⟨words, word, hwords, houtcome⟩ := outcome_line hline
  calc
    readChars line = outcome ⟨words, word, .plain⟩ [] := houtcome
    _ = .ok (⟨words, word, .plain⟩ : Reader).close.words.reverse := rfl
    _ = .ok values := by rw [hwords, List.reverse_reverse]

theorem outcome_unclosed {quote : Quote} {rest : List Char} (hopen : Unclosed quote rest)
    (words : List (List Char)) (word : Option (List Char)) :
    outcome ⟨words, word, .plain⟩ rest = .error quote := by
  have hsingle : Text.isBlank '\'' = false := by decide
  have hdouble : Text.isBlank '"' = false := by decide
  cases hopen with
  | single htext =>
      simp [outcome, Reader.step, Reader.enter, hsingle, foldl_single htext, Reader.finish]
  | double hquoted =>
      simp [outcome, Reader.step, Reader.enter, hdouble, foldl_double hquoted, Reader.finish]
  | doubleBackslash hquoted =>
      simp [outcome, Reader.step, Reader.enter, hdouble, foldl_double hquoted, Reader.finish]

theorem readChars_of_leavesOpen {quote : Quote} {line : List Char}
    (hopen : LeavesOpen quote line) : readChars line = .error quote := by
  obtain ⟨values, rest, hline, hunclosed⟩ := hopen
  obtain ⟨words, word, -, houtcome⟩ := outcome_line hline
  exact houtcome.trans (outcome_unclosed hunclosed words word)

/-- Every line is in the grammar or leaves a quote open. -/
theorem line_or_leavesOpen (line : List Char) :
    (∃ values, Line line values []) ∨ ∃ quote, LeavesOpen quote line := by
  obtain ⟨⟨values, rest, hline, rfl | ⟨quote, hopen⟩⟩, -⟩ := exists_line line
  · exact .inl ⟨values, hline⟩
  · exact .inr ⟨quote, values, rest, hline, hopen⟩

theorem readChars_eq_ok_iff (line : List Char) (values : List (List Char)) :
    readChars line = .ok values ↔ Line line values [] := by
  refine ⟨fun hread => ?_, readChars_of_line⟩
  rcases line_or_leavesOpen line with ⟨found, hline⟩ | ⟨quote, hopen⟩
  · rw [readChars_of_line hline] at hread
    exact Except.ok.inj hread ▸ hline
  · rw [readChars_of_leavesOpen hopen] at hread
    nomatch hread

theorem readChars_eq_error_iff (line : List Char) (quote : Quote) :
    readChars line = .error quote ↔ LeavesOpen quote line := by
  refine ⟨fun hread => ?_, readChars_of_leavesOpen⟩
  rcases line_or_leavesOpen line with ⟨found, hline⟩ | ⟨found, hopen⟩
  · rw [readChars_of_line hline] at hread
    nomatch hread
  · rw [readChars_of_leavesOpen hopen] at hread
    exact Except.error.inj hread ▸ hopen

theorem map_ofList_eq_iff (values : List (List Char)) (words : List String) :
    values.map String.ofList = words ↔ values = words.map String.toList := by
  constructor
  · rintro rfl
    simp
  · rintro rfl
    simp

theorem read_eq_ok_iff (line : String) (words : List String) :
    Token.read line = .ok words ↔ Line line.toList (words.map String.toList) [] := by
  rw [← readChars_eq_ok_iff, Token.read]
  cases readChars line.toList with
  | error quote => simp [Except.map]
  | ok values => simp [Except.map, map_ofList_eq_iff]

theorem read_eq_error_iff (line : String) (quote : Quote) :
    Token.read line = .error quote ↔ LeavesOpen quote line.toList := by
  rw [← readChars_eq_error_iff, Token.read]
  cases readChars line.toList <;> simp [Except.map]

/-- The reader accepts exactly the lines of the grammar and gives them exactly
their meaning; any other line is refused with the quote that is open at its end. -/
theorem read_iff_grammar (line : String) :
    (∀ words : List String,
      Token.read line = .ok words ↔ Line line.toList (words.map String.toList) []) ∧
    ∀ quote : Quote, Token.read line = .error quote ↔ LeavesOpen quote line.toList :=
  ⟨read_eq_ok_iff line, read_eq_error_iff line⟩

end PipelineShell.LineGrammar
