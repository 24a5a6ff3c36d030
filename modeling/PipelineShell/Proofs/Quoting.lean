import PipelineShell.Proofs.Rendering

/-!
# Words in any quotes

A word can be quoted in three ways: between single quotes, between double quotes,
or with a backslash before each of its characters.  Whatever its characters are,
blanks, quotes, backslashes and operators among them, a quoted word is read as
itself.  So a line of quoted words, each in its own way and with any blanks between
them, is read as these words.
-/

namespace PipelineShell

open LineGrammar

inductive QuoteStyle where
  /-- a quote inside closes the quotes, stands escaped, and opens them again -/
  | single
  /-- with a backslash before each double quote and each backslash -/
  | double
  /-- a backslash before each character, which leaves no trace of an empty word -/
  | backslashes
  deriving DecidableEq, Repr

namespace QuoteStyle

/-- What stands between double quotes for a word. -/
def doubleBody (word : List Char) : List Char :=
  word.flatMap fun c => if c = '"' ∨ c = '\\' then ['\\', c] else [c]

def quote (style : QuoteStyle) (word : List Char) : List Char :=
  match style with
  | single => quotedChars word
  | double => '"' :: (doubleBody word ++ ['"'])
  | backslashes => word.flatMap fun c => ['\\', c]

theorem doubleQuoted_doubleBody (word : List Char) : DoubleQuoted (doubleBody word) word := by
  induction word with
  | nil => exact .nil
  | cons c word ih =>
      by_cases hescape : c = '"' ∨ c = '\\'
      · have hbody : doubleBody (c :: word) = '\\' :: c :: doubleBody word := by
          simp [doubleBody, hescape]
        rw [hbody]
        exact .escaped hescape ih
      · have hbody : doubleBody (c :: word) = c :: doubleBody word := by
          simp [doubleBody, hescape]
        rw [hbody]
        rw [not_or] at hescape
        exact .literal hescape.1 hescape.2 ih

theorem written_double (word : List Char) : Written (double.quote word) word := by
  intro rest
  apply Word.one
  have hchunk : Chunk ('"' :: (doubleBody word ++ '"' :: rest)) word rest :=
    .double (doubleQuoted_doubleBody word)
  simpa [quote] using hchunk

/-- Each escaped character is a chunk of its own. -/
theorem written_backslashes {word : List Char} (hne : word ≠ []) :
    Written (backslashes.quote word) word := by
  induction word with
  | nil => exact absurd rfl hne
  | cons c word ih =>
      intro rest
      by_cases hlast : word = []
      · subst hlast
        exact .one .escaped
      · have hfirst : Chunk ('\\' :: c :: (backslashes.quote word ++ rest)) [c]
            (backslashes.quote word ++ rest) := .escaped
        exact .more hfirst (ih hlast rest)

/-- A quoted word is read as itself, whatever comes after it. -/
theorem written_quote {style : QuoteStyle} {word : List Char}
    (hwritable : style = backslashes → word ≠ []) : Written (style.quote word) word := by
  cases style with
  | single => exact written_quotedChars word
  | double => exact written_double word
  | backslashes => exact written_backslashes (hwritable rfl)

end QuoteStyle

/-! ## Lines of quoted words -/

/-- A word of a line, with the blanks that come after it. -/
structure QuotedWord where
  style : QuoteStyle
  word : String
  gap : List Char
  writable : style = .backslashes → word ≠ ""
  gap_blank : gap.all Text.isBlank = true

/-- Quoted words with blanks before, between and after them. -/
structure QuotedLine where
  lead : List Char
  items : List QuotedWord
  lead_blank : lead.all Text.isBlank = true
  /-- words that touch would be one word -/
  separated : ∀ item ∈ items.dropLast, item.gap ≠ []

def QuotedWord.text (item : QuotedWord) : List Char :=
  item.style.quote item.word.toList ++ item.gap

namespace QuotedLine

def text (line : QuotedLine) : String :=
  String.ofList (line.lead ++ line.items.flatMap QuotedWord.text)

def words (line : QuotedLine) : List String :=
  line.items.map QuotedWord.word

theorem word_text (item : QuotedWord) (rest : List Char) :
    Word (item.text ++ rest) item.word.toList (item.gap ++ rest) := by
  have hwritten : Written (item.style.quote item.word.toList) item.word.toList := by
    apply QuoteStyle.written_quote
    intro hstyle hempty
    exact item.writable hstyle (String.toList_eq_nil_iff.1 hempty)
  rw [QuotedWord.text, List.append_assoc]
  exact hwritten (item.gap ++ rest)

/-- What is left after the words is the gap after the last of them. -/
theorem words_items {items : List QuotedWord} (hne : items ≠ [])
    (hseparated : ∀ item ∈ items.dropLast, item.gap ≠ []) :
    Words (items.flatMap QuotedWord.text) (items.map fun item => item.word.toList)
      (items.getLast hne).gap := by
  induction items with
  | nil => exact absurd rfl hne
  | cons item items ih =>
      cases items with
      | nil =>
          apply Words.one
          simpa using word_text item []
      | cons next items =>
          have hgap : item.gap ≠ [] := hseparated item List.mem_cons_self
          have hrest : ∀ later ∈ (next :: items).dropLast, later.gap ≠ [] := by
            intro later hlater
            exact hseparated later (List.mem_cons_of_mem _ hlater)
          exact .more item.gap (word_text item _) hgap item.gap_blank
            (ih (List.cons_ne_nil _ _) hrest)

/-- A line of quoted words is read as these words, in whichever way each of them is
quoted and whichever blanks stand around them. -/
theorem read_quotedLine (line : QuotedLine) : Token.read line.text = .ok line.words := by
  rw [read_eq_ok_iff, text, String.toList_ofList, words, List.map_map]
  by_cases hne : line.items = []
  · rw [hne]
    exact .blank line.lead line.lead_blank
  · have hwords := words_items hne line.separated
    rw [← List.append_nil (line.items.getLast hne).gap] at hwords
    exact .words line.lead _ line.lead_blank hwords (line.items.getLast hne).gap_blank

/-- A quote, a blank, an escaped quote, an empty word and an operator. -/
example :
    let line : QuotedLine :=
      ⟨['\t'], [⟨.single, "it's", [' '], by decide, by decide⟩,
        ⟨.backslashes, "\\ ", ['\u3000', ' '], by decide, by decide⟩,
        ⟨.double, "a\"b", [' '], by decide, by decide⟩,
        ⟨.single, "", [' '], by decide, by decide⟩,
        ⟨.backslashes, "|", [], by decide, by decide⟩], by decide, by decide⟩
    line.text = "\t'it'\\''s' \\\\\\ \u3000 \"a\\\"b\" '' \\|" ∧
      line.words = ["it's", "\\ ", "a\"b", "", "|"] := by
  decide +kernel

end QuotedLine

end PipelineShell
