import PipelineShell.Proofs.Rendering

/-!
# Lines that are put together

A text after which a line stands outside quotes, with nothing escaped, is read in the same
way whatever follows.  So a line can be cut there, and its words are those of the two parts:
one behind the other if a blank stands at the cut, and else with the word before the cut and
the word behind it as one word.  Only a backslash at the end of the first part would come to
mean something else.
-/

namespace PipelineShell

namespace LineGrammar

/-- A text that is read as these words, whatever comes after it. -/
def Settles (text : List Char) (values : List (List Char)) : Prop :=
  ∀ rest, Line (text ++ rest) values rest

/-- The last character is a backslash that is neither quoted nor escaped. -/
def EndsInBackslash (text : List Char) : Prop :=
  ∃ front values, Settles front values ∧ text = front ++ ['\\']

/-- The last character is a blank that is neither quoted nor escaped. -/
def EndsInBlank (text : List Char) : Prop :=
  ∃ front values blank, Settles front values ∧ Text.isBlank blank = true ∧ text = front ++ [blank]

def StartsWithBlank (text : List Char) : Prop :=
  ∃ blank rest, Text.isBlank blank = true ∧ text = blank :: rest

theorem EndsInBackslash.getLast? {text : List Char} (hend : EndsInBackslash text) :
    text.getLast? = some '\\' := by
  obtain ⟨front, values, -, rfl⟩ := hend
  exact List.getLast?_concat

theorem EndsInBlank.getLast? {text : List Char} (hend : EndsInBlank text) :
    ∃ blank, Text.isBlank blank = true ∧ text.getLast? = some blank := by
  obtain ⟨front, values, blank, -, hblank, rfl⟩ := hend
  exact ⟨blank, hblank, List.getLast?_concat⟩

/-! ## What is read does not depend on what follows -/

def WrittenWords (text : List Char) (values : List (List Char)) : Prop :=
  ∀ rest, Words (text ++ rest) values rest

/-- Blanks, or words with blanks around them. -/
inductive Whole : List Char → List (List Char) → Prop where
  | blank {gap : List Char} : gap.all Text.isBlank = true → Whole gap []
  | words {text : List Char} {values : List (List Char)} (lead trail : List Char) :
      lead.all Text.isBlank = true → WrittenWords text values →
      trail.all Text.isBlank = true → Whole (lead ++ (text ++ trail)) values

theorem Whole.settles {text : List Char} {values : List (List Char)} (hwhole : Whole text values) :
    Settles text values := by
  intro rest
  cases hwhole with
  | blank hgap => exact .blank _ hgap
  | words lead trail hlead hwritten htrail =>
      have hwords := hwritten (trail ++ rest)
      have hline := Line.words lead trail hlead hwords htrail
      simpa only [List.append_assoc] using hline

/-- A chunk starts with a character that is no blank. -/
theorem Chunk.starts {line value rest : List Char} (hchunk : Chunk line value rest) :
    ∃ c tail, line = c :: tail ∧ Text.isBlank c = false := by
  cases hchunk with
  | plain hplain => exact ⟨_, _, rfl, hplain.1⟩
  | single | double | escaped | final => exact ⟨_, _, rfl, by decide⟩

theorem Word.starts {line value rest : List Char} (hword : Word line value rest) :
    ∃ c tail, line = c :: tail ∧ Text.isBlank c = false := by
  cases hword with
  | one hchunk | more hchunk _ => exact hchunk.starts

theorem Words.starts {line rest : List Char} {values : List (List Char)}
    (hwords : Words line values rest) : ∃ c tail, line = c :: tail ∧ Text.isBlank c = false := by
  cases hwords with
  | one hfirst | more _ hfirst _ _ _ => exact hfirst.starts

/-- A chunk ends where it ends whatever follows, unless it is a last backslash. -/
theorem Chunk.front {line value next : List Char} (hchunk : Chunk line value next) :
    (line = ['\\'] ∧ next = []) ∨
      ∃ front, line = front ++ next ∧ ∀ rest, Chunk (front ++ rest) value rest := by
  cases hchunk with
  | @plain c _ hplain => exact .inr ⟨[c], rfl, fun _ => .plain hplain⟩
  | single htext =>
      refine .inr ⟨'\'' :: (value ++ ['\'']), by simp, fun rest => ?_⟩
      simpa using Chunk.single htext
  | @double text _ _ hquoted =>
      refine .inr ⟨'"' :: (text ++ ['"']), by simp, fun rest => ?_⟩
      simpa using Chunk.double hquoted
  | @escaped c _ => exact .inr ⟨['\\', c], rfl, fun _ => .escaped⟩
  | final => exact .inl ⟨rfl, rfl⟩

theorem written_append {first text value values : List Char}
    (hfirst : ∀ rest, Chunk (first ++ rest) value rest) (htext : Written text values) :
    Written (first ++ text) (value ++ values) := by
  intro rest
  rw [List.append_assoc]
  exact .more (hfirst _) (htext rest)

theorem Word.front {line value next : List Char} (hword : Word line value next) :
    (next = [] ∧ ∃ front, line = front ++ ['\\'] ∧ (front = [] ∨ ∃ before, Written front before)) ∨
      ∃ front, line = front ++ next ∧ Written front value := by
  induction hword with
  | one hchunk =>
      rcases hchunk.front with ⟨hline, hnext⟩ | ⟨front, hline, hfront⟩
      · exact .inl ⟨hnext, [], hline, .inl rfl⟩
      · exact .inr ⟨front, hline, fun rest => .one (hfront rest)⟩
  | more hchunk hword ih =>
      rcases hchunk.front with ⟨-, rfl⟩ | ⟨first, rfl, hfirst⟩
      · obtain ⟨c, tail, hnil, -⟩ := hword.starts
        nomatch hnil
      rcases ih with ⟨rfl, front, rfl, hbefore⟩ | ⟨front, rfl, hwritten⟩
      · refine .inl ⟨rfl, first ++ front, (List.append_assoc _ _ _).symm, .inr ?_⟩
        rcases hbefore with rfl | ⟨before, hwritten⟩
        · rw [List.append_nil]
          exact ⟨_, fun rest => .one (hfirst rest)⟩
        · exact ⟨_, written_append hfirst hwritten⟩
      · exact .inr ⟨first ++ front, (List.append_assoc _ _ _).symm, written_append hfirst hwritten⟩

theorem WrittenWords.cons {first text value gap : List Char} {values : List (List Char)}
    (hfirst : Written first value) (hne : gap ≠ []) (hgap : gap.all Text.isBlank = true)
    (htext : WrittenWords text values) : WrittenWords (first ++ (gap ++ text)) (value :: values) := by
  intro rest
  have hword := hfirst (gap ++ (text ++ rest))
  simpa only [List.append_assoc] using Words.more gap hword hne hgap (htext rest)

theorem Whole.one {text value : List Char} (trail : List Char) (hwritten : Written text value)
    (htrail : trail.all Text.isBlank = true) : Whole (text ++ trail) [value] := by
  have hwords : WrittenWords text [value] := fun rest => .one (hwritten rest)
  exact .words [] trail rfl hwords htrail

theorem Whole.cons {first text value gap : List Char} {values : List (List Char)}
    (hfirst : Written first value) (hne : gap ≠ []) (hgap : gap.all Text.isBlank = true)
    (hwhole : Whole text values) : Whole (first ++ (gap ++ text)) (value :: values) := by
  cases hwhole with
  | blank htext => exact .one _ hfirst (by simp [hgap, htext])
  | @words text _ lead trail hlead hwritten htrail =>
      have hwords : WrittenWords (first ++ ((gap ++ lead) ++ text)) (value :: values) :=
        hwritten.cons hfirst (by simp [hne]) (by simp [hgap, hlead])
      have hwhole := Whole.words [] trail rfl hwords htrail
      simpa only [List.nil_append, List.append_assoc] using hwhole

theorem Words.front {line next : List Char} {values : List (List Char)}
    (hwords : Words line values next) :
    (next = [] ∧ ∃ front before, line = front ++ ['\\'] ∧ Whole front before) ∨
      ∃ front, line = front ++ next ∧ WrittenWords front values := by
  induction hwords with
  | one hword =>
      rcases hword.front with ⟨hnext, front, hline, rfl | ⟨before, hwritten⟩⟩ |
        ⟨front, hline, hwritten⟩
      · exact .inl ⟨hnext, [], [], hline, .blank rfl⟩
      · have hwhole := Whole.one [] hwritten rfl
        rw [List.append_nil] at hwhole
        exact .inl ⟨hnext, front, _, hline, hwhole⟩
      · exact .inr ⟨front, hline, fun rest => .one (hwritten rest)⟩
  | more gap hword hne hgap _ ih =>
      rcases hword.front with ⟨hnil, -⟩ | ⟨first, rfl, hfirst⟩
      · exact absurd (List.append_eq_nil_iff.1 hnil).1 hne
      rcases ih with ⟨rfl, front, before, rfl, hwhole⟩ | ⟨front, rfl, hwritten⟩
      · refine .inl ⟨rfl, first ++ (gap ++ front), _, ?_, hwhole.cons hfirst hne hgap⟩
        simp only [List.append_assoc]
      · refine .inr ⟨first ++ (gap ++ front), ?_, hwritten.cons hfirst hne hgap⟩
        simp only [List.append_assoc]

theorem Whole.lead {text lead : List Char} {values : List (List Char)}
    (hlead : lead.all Text.isBlank = true) (hwhole : Whole text values) :
    Whole (lead ++ text) values := by
  cases hwhole with
  | blank htext => exact .blank (by simp [hlead, htext])
  | words before trail hbefore hwritten htrail =>
      rw [← List.append_assoc]
      exact .words (lead ++ before) trail (by simp [hlead, hbefore]) hwritten htrail

/-- What stands before a place of a line is whole, unless the line ends there in a backslash
that escapes nothing. -/
theorem Line.front {line rest : List Char} {values : List (List Char)}
    (hline : Line line values rest) :
    (rest = [] ∧ EndsInBackslash line) ∨ ∃ front, line = front ++ rest ∧ Whole front values := by
  cases hline with
  | blank gap hgap => exact .inr ⟨gap, rfl, .blank hgap⟩
  | words lead trail hlead hwords htrail =>
      rcases hwords.front with ⟨hnil, front, before, rfl, hwhole⟩ | ⟨front, rfl, hwritten⟩
      · refine .inl ⟨(List.append_eq_nil_iff.1 hnil).2, lead ++ front, before, ?_, ?_⟩
        · exact (hwhole.lead hlead).settles
        · rw [List.append_assoc]
      · refine .inr ⟨lead ++ (front ++ trail), ?_, .words lead trail hlead hwritten htrail⟩
        simp only [List.append_assoc]

theorem Settles.whole {text : List Char} {values : List (List Char)} (hsettles : Settles text values) :
    Whole text values := by
  -- Any character will do: what matters is that something follows.
  rcases (hsettles [' ']).front with ⟨hnil, -⟩ | ⟨front, htext, hwhole⟩
  · nomatch hnil
  · rwa [List.append_cancel_right htext]

/-! ## The words at a cut -/

theorem Word.append {line value next more rest : List Char} (hfirst : Word line value next)
    (hnext : Word next more rest) : Word line (value ++ more) rest := by
  induction hfirst with
  | one hchunk => exact .more hchunk hnext
  | more hchunk _ ih =>
      rw [List.append_assoc]
      exact .more hchunk (ih hnext)

/-- Words that touch: the last word of the first part goes on in the second part. -/
theorem Words.join {line next rest last first : List Char} {front others : List (List Char)}
    (hline : Words line (front ++ [last]) next) (hnext : Words next (first :: others) rest) :
    Words line (front ++ (last ++ first) :: others) rest := by
  generalize hvalues : front ++ [last] = values at hline
  induction hline generalizing front with
  | one hword =>
      obtain ⟨rfl, hlast⟩ := List.append_eq_singleton_iff.1 hvalues |>.resolve_right (by simp)
      obtain rfl := (List.cons.inj hlast).1
      cases hnext with
      | one hsecond => exact .one (hword.append hsecond)
      | more gap hsecond hne hgap hothers => exact .more gap (hword.append hsecond) hne hgap hothers
  | @more _ value _ _ values gap hword hne hgap hrest ih =>
      cases front with
      | nil =>
          obtain ⟨-, rfl⟩ := List.cons.inj hvalues
          nomatch hrest
      | cons before front =>
          obtain ⟨rfl, hothers⟩ := List.cons.inj hvalues
          exact .more gap hword hne hgap (ih hnext hothers)

theorem Words.ne_nil {line rest : List Char} {values : List (List Char)}
    (hwords : Words line values rest) : values ≠ [] := by
  cases hwords <;> exact List.cons_ne_nil _ _

theorem Line.lead {lead line rest : List Char} {values : List (List Char)}
    (hlead : lead.all Text.isBlank = true) (hline : Line line values rest) :
    Line (lead ++ line) values rest := by
  induction lead with
  | nil => exact hline
  | cons c lead ih =>
      rw [List.all_cons, Bool.and_eq_true] at hlead
      exact (ih hlead.2).cons_blank hlead.1

theorem startsWithBlank_append {gap : List Char} (hgap : gap.all Text.isBlank = true)
    (hne : gap ≠ []) (rest : List Char) : StartsWithBlank (gap ++ rest) := by
  obtain ⟨blank, gap, rfl⟩ := List.exists_cons_of_ne_nil hne
  rw [List.all_cons, Bool.and_eq_true] at hgap
  exact ⟨blank, gap ++ rest, hgap.1, rfl⟩

theorem endsInBlank_append (text : List Char) {gap : List Char} {values : List (List Char)}
    (hgap : gap.all Text.isBlank = true) (hne : gap ≠ [])
    (hwhole : ∀ gap, gap.all Text.isBlank = true → Whole (text ++ gap) values) :
    EndsInBlank (text ++ gap) := by
  obtain ⟨before, blank, rfl⟩ := (List.eq_nil_or_concat' gap).resolve_left hne
  rw [List.all_append, Bool.and_eq_true] at hgap
  refine ⟨text ++ before, values, blank, (hwhole before hgap.1).settles, ?_, ?_⟩
  · simpa using hgap.2
  · rw [List.append_assoc]

theorem Words.not_startsWithBlank {line rest : List Char} {values : List (List Char)}
    (hwords : Words line values rest) : ¬ StartsWithBlank line := by
  obtain ⟨c, tail, rfl, hc⟩ := hwords.starts
  rintro ⟨blank, others, hblank, hstart⟩
  obtain ⟨rfl, -⟩ := List.cons.inj hstart
  simp [hc] at hblank

theorem WrittenWords.join {text next rest : List Char} {values more : List (List Char)}
    (hwritten : WrittenWords text values) (hnext : Words next more rest) :
    ∃ front last first others, values = front ++ [last] ∧ more = first :: others ∧
      Words (text ++ next) (front ++ (last ++ first) :: others) rest := by
  have hwords := hwritten next
  obtain ⟨front, last, rfl⟩ := (List.eq_nil_or_concat' values).resolve_left hwords.ne_nil
  obtain ⟨first, others, rfl⟩ := List.exists_cons_of_ne_nil hnext.ne_nil
  exact ⟨front, last, first, others, rfl, rfl, hwords.join hnext⟩

/-- A line behind a whole text: its words stand behind those of the text, or its first word
goes on with the last word of the text. -/
theorem Whole.append_cases {text next rest : List Char} {values more : List (List Char)}
    (hwhole : Whole text values) (hnext : Line next more rest) :
    ((text = [] ∨ EndsInBlank text ∨ next = rest ∨ StartsWithBlank next) ∧
      Line (text ++ next) (values ++ more) rest) ∨
    (¬ StartsWithBlank next ∧ next ≠ [] ∧ ∃ front last first others,
      values = front ++ [last] ∧ more = first :: others ∧
        Line (text ++ next) (front ++ (last ++ first) :: others) rest) := by
  cases hwhole with
  | blank htext =>
      refine .inl ⟨?_, hnext.lead htext⟩
      by_cases hempty : text = []
      · exact .inl hempty
      · exact .inr (.inl (endsInBlank_append [] htext hempty fun _ => .blank))
  | @words text _ lead trail hlead hwritten htrail =>
      cases hnext with
      | blank gap hgap =>
          refine .inl ⟨?_, ?_⟩
          · by_cases hempty : gap = []
            · exact .inr (.inr (.inl (by rw [hempty, List.nil_append])))
            · exact .inr (.inr (.inr (startsWithBlank_append hgap hempty rest)))
          · have hwords := hwritten ((trail ++ gap) ++ rest)
            have hline := Line.words lead (trail ++ gap) hlead hwords (by simp [htrail, hgap])
            simpa only [List.append_assoc, List.append_nil] using hline
      | @words next _ _ before after hbefore hnext hafter =>
          by_cases hcut : trail ++ before = []
          · obtain ⟨rfl, rfl⟩ := List.append_eq_nil_iff.1 hcut
            obtain ⟨front, last, first, others, hvalues, hmore, hwords⟩ := hwritten.join hnext
            have hstarts := hnext.not_startsWithBlank
            have hne : next ≠ [] := by
              obtain ⟨c, tail, rfl, -⟩ := hnext.starts
              exact List.cons_ne_nil c tail
            refine .inr ⟨hstarts, hne, front, last, first, others, hvalues, hmore, ?_⟩
            have hline := Line.words lead after hlead hwords hafter
            simpa only [List.append_assoc, List.append_nil, List.nil_append] using hline
          · refine .inl ⟨?_, ?_⟩
            · by_cases hempty : trail = []
              · have hne : before ≠ [] := by simpa [hempty] using hcut
                exact .inr (.inr (.inr (startsWithBlank_append hbefore hne next)))
              · have hends : EndsInBlank ((lead ++ text) ++ trail) :=
                  endsInBlank_append (lead ++ text) htrail hempty fun gap hgap => by
                    simpa only [List.append_assoc] using Whole.words lead gap hlead hwritten hgap
                exact .inr (.inl (by simpa only [List.append_assoc] using hends))
            · have hwords := hwritten ((trail ++ before) ++ next)
              have hboth := words_append (trail ++ before) hwords hcut (by simp [htrail, hbefore]) hnext
              have hline := Line.words lead after hlead hboth hafter
              simpa only [List.append_assoc] using hline

theorem Whole.append_of_blank {text next rest : List Char} {values more : List (List Char)}
    (hwhole : Whole text values) (hstarts : StartsWithBlank next) (hnext : Line next more rest) :
    Line (text ++ next) (values ++ more) rest := by
  rcases hwhole.append_cases hnext with ⟨-, hline⟩ | ⟨hnot, -⟩
  · exact hline
  · exact absurd hstarts hnot

theorem Whole.eq_nil {values : List (List Char)} (hwhole : Whole [] values) : values = [] := by
  have hline := hwhole.settles []
  exact Except.ok.inj ((readChars_of_line hline).symm.trans rfl)

/-- The last blank of a text is followed by the words that come next. -/
theorem Whole.append_of_endsInBlank {text next rest : List Char} {values more : List (List Char)}
    (hwhole : Whole text values) (hends : EndsInBlank text) (hnext : Line next more rest) :
    Line (text ++ next) (values ++ more) rest := by
  obtain ⟨front, before, blank, hsettles, hblank, rfl⟩ := hends
  have hlast : Line [blank] [] [] := .blank [blank] (by simp [hblank])
  have hfront := hsettles.whole.append_of_blank ⟨blank, [], hblank, rfl⟩ hlast
  have hvalues : before = values := by
    have hread := readChars_of_line (hwhole.settles [])
    rw [List.append_nil, readChars_of_line hfront, List.append_nil] at hread
    exact Except.ok.inj hread
  subst hvalues
  rw [List.append_assoc]
  exact hsettles.whole.append_of_blank ⟨blank, next, hblank, rfl⟩ (hnext.cons_blank hblank)

/-- A cut of a line at which no word is under way, or none goes on. -/
def CutsBetweenWords (before after : List Char) : Prop :=
  after = [] ∨ StartsWithBlank after ∨ before = [] ∨ EndsInBlank before

theorem Whole.append_of_cut {text next rest : List Char} {values more : List (List Char)}
    (hwhole : Whole text values) (hcut : CutsBetweenWords text next) (hnext : Line next more rest) :
    Line (text ++ next) (values ++ more) rest := by
  rcases hcut with rfl | hstarts | rfl | hends
  · rcases hwhole.append_cases hnext with ⟨-, hline⟩ | ⟨-, hne, -⟩
    · exact hline
    · exact absurd rfl hne
  · exact hwhole.append_of_blank hstarts hnext
  · rw [hwhole.eq_nil]
    exact hnext
  · exact hwhole.append_of_endsInBlank hends hnext

theorem Whole.append_of_not_cut {text next : List Char} {values more : List (List Char)}
    (hwhole : Whole text values) (hcut : ¬ CutsBetweenWords text next) (hnext : Line next more []) :
    ∃ front last first others, values = front ++ [last] ∧ more = first :: others ∧
      Line (text ++ next) (front ++ (last ++ first) :: others) [] := by
  rcases hwhole.append_cases hnext with ⟨hempty | hends | hall | hstarts, -⟩ | ⟨-, -, hjoined⟩
  · exact absurd (.inr (.inr (.inl hempty))) hcut
  · exact absurd (.inr (.inr (.inr hends))) hcut
  · exact absurd (.inl hall) hcut
  · exact absurd (.inr (.inl hstarts)) hcut
  · exact hjoined

/-! ## Reading a line in two parts -/

theorem whole_of_read {line : String} {words : List String} (hread : Token.read line = .ok words)
    (hend : ¬ EndsInBackslash line.toList) : Whole line.toList (words.map String.toList) := by
  rcases ((read_eq_ok_iff line words).1 hread).front with ⟨-, hbackslash⟩ | ⟨front, hline, hwhole⟩
  · exact absurd hbackslash hend
  · rwa [hline, List.append_nil]

/-- A quote that is open in the second part is open in the whole line. -/
theorem leavesOpen_append {text next : List Char} {values : List (List Char)} {quote : Quote}
    (hwhole : Whole text values) (hopen : LeavesOpen quote next) : LeavesOpen quote (text ++ next) := by
  obtain ⟨more, rest, hnext, hunclosed⟩ := hopen
  rcases hwhole.append_cases hnext with ⟨-, hline⟩ | ⟨-, -, front, last, first, others, -, -, hline⟩
  · exact ⟨_, rest, hline, hunclosed⟩
  · exact ⟨_, rest, hline, hunclosed⟩

/-- A line whose first part is read by itself and does not end in a backslash is read part by
part.  At a blank the words of the parts stand one behind the other; at any other cut the last
word of the first part and the first word of the second part are one word. -/
theorem read_append {before after : String} {words : List String}
    (hread : Token.read before = .ok words) (hend : ¬ EndsInBackslash before.toList) :
    (CutsBetweenWords before.toList after.toList →
      Token.read (before ++ after) = (Token.read after).map (words ++ ·)) ∧
    (¬ CutsBetweenWords before.toList after.toList →
      (∀ quote, Token.read after = .error quote → Token.read (before ++ after) = .error quote) ∧
      ∀ more, Token.read after = .ok more → ∃ front last first others,
        words = front ++ [last] ∧ more = first :: others ∧
          Token.read (before ++ after) = .ok (front ++ (last ++ first) :: others)) := by
  have hwhole := whole_of_read hread hend
  have herror : ∀ quote, Token.read after = .error quote →
      Token.read (before ++ after) = .error quote := by
    intro quote hafter
    rw [read_eq_error_iff] at hafter ⊢
    rw [String.toList_append]
    exact leavesOpen_append hwhole hafter
  refine ⟨fun hcut => ?_, fun hcut => ⟨herror, fun more hafter => ?_⟩⟩
  · cases hafter : Token.read after with
    | error quote => exact herror quote hafter
    | ok more =>
        have hline := hwhole.append_of_cut hcut ((read_eq_ok_iff after more).1 hafter)
        rw [← String.toList_append, ← List.map_append] at hline
        exact (read_eq_ok_iff _ _).2 hline
  · obtain ⟨front, last, first, others, hwords, hmore, hline⟩ :=
      hwhole.append_of_not_cut hcut ((read_eq_ok_iff after more).1 hafter)
    obtain ⟨front, rest, rfl, rfl, hrest⟩ := List.map_eq_append_iff.1 hwords
    obtain ⟨last, rfl, rfl⟩ := List.map_eq_singleton_iff.1 hrest
    obtain ⟨first, others, rfl, rfl, rfl⟩ := List.map_eq_cons_iff.1 hmore
    refine ⟨front, last, first, others, rfl, rfl, (read_eq_ok_iff _ _).2 ?_⟩
    simpa using hline

/-- A word that goes on behind the cut, and one that ends there in an escaped blank. -/
theorem read_append_sample :
    let quoted := "echo x\\ 'y '"
    let escaped := "echo x\\ "
    (Token.read quoted = .ok ["echo", "x y "] ∧ ¬ EndsInBackslash quoted.toList ∧
      ¬ CutsBetweenWords quoted.toList "\"\"z w".toList ∧
      ∃ front last first others, ["echo", "x y "] = front ++ [last] ∧ ["z", "w"] = first :: others ∧
        Token.read (quoted ++ "\"\"z w") = .ok (front ++ (last ++ first) :: others)) ∧
    Token.read escaped = .ok ["echo", "x "] ∧ ¬ EndsInBackslash escaped.toList ∧
      CutsBetweenWords escaped.toList " ''".toList ∧
      Token.read (escaped ++ " ''") = (Token.read " ''").map (["echo", "x "] ++ ·) := by
  intro quoted escaped
  have hquoted : Token.read quoted = .ok ["echo", "x y "] := by decide +kernel
  have hescaped : Token.read escaped = .ok ["echo", "x "] := by decide +kernel
  have hquote : quoted.toList.getLast? = some '\'' := by decide +kernel
  have hquotedEnd : ¬ EndsInBackslash quoted.toList :=
    fun hend => absurd (hquote.symm.trans hend.getLast?) (by decide)
  have hescapedEnd : ¬ EndsInBackslash escaped.toList :=
    fun hend => absurd hend.getLast? (by decide +kernel)
  have hnotCut : ¬ CutsBetweenWords quoted.toList "\"\"z w".toList := by
    rintro (hnil | ⟨blank, rest, hblank, hstart⟩ | hnil | hends)
    · exact absurd hnil (by decide)
    · obtain ⟨rfl, -⟩ := List.cons.inj hstart
      exact absurd hblank (by decide)
    · exact absurd hnil (by decide +kernel)
    · obtain ⟨blank, hblank, hlast⟩ := hends.getLast?
      obtain rfl := Option.some.inj (hquote.symm.trans hlast)
      exact absurd hblank (by decide)
  have hcut : CutsBetweenWords escaped.toList " ''".toList :=
    .inr (.inl ⟨' ', "''".toList, by decide, by decide⟩)
  have hnext : Token.read "\"\"z w" = .ok ["z", "w"] := by decide +kernel
  exact ⟨⟨hquoted, hquotedEnd, hnotCut, ((read_append hquoted hquotedEnd).2 hnotCut).2 _ hnext⟩,
    hescaped, hescapedEnd, hcut, (read_append hescaped hescapedEnd).1 hcut⟩

end LineGrammar

end PipelineShell
