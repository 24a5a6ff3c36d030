import Mathlib.Data.Nat.Digits.Defs
import PipelineShell.Builtin

/-!
# Showing the end of a history

A history is shown with its entries numbered from one, and a word after `history` that writes
a number below 2^64 asks for so many of the last lines.  These keep their numbers, so that
what is shown is the end of what `history` alone shows: nothing for zero, and everything
for a number that is large enough.  Every other word is refused by name.
-/

namespace PipelineShell

/-! ## Words that write a number -/

/-- A number written in decimal digits, perhaps after a plus sign.  It may begin with
zeros. -/
def Writes (word : String) (n : Nat) : Prop :=
  ∃ digits : List Nat, digits ≠ [] ∧ (∀ d ∈ digits, d < 10) ∧
    n = Nat.ofDigits 10 digits.reverse ∧
    (word.toList = digits.map Nat.digitChar ∨ word.toList = '+' :: digits.map Nat.digitChar)

namespace Builtin

/-- The digit that a character stands for. -/
def digitOf (c : Char) : Nat := c.toNat - '0'.toNat

theorem digitOf_digitChar {d : Nat} (hd : d < 10) : digitOf d.digitChar = d := by
  rw [digitOf, Nat.toNat_digitChar_of_lt_ten hd]
  exact Nat.add_sub_cancel_left 48 d

theorem digitOf_lt {c : Char} (hc : c.isDigit = true) : digitOf c < 10 := by
  obtain ⟨-, hnine⟩ := Char.isDigit_iff_toNat.1 hc
  have hcode : '9'.toNat = '0'.toNat + 9 := rfl
  rw [digitOf]
  omega

theorem digitChar_digitOf {c : Char} (hc : c.isDigit = true) : (digitOf c).digitChar = c := by
  apply Char.toNat_inj.1
  rw [Nat.toNat_digitChar_of_lt_ten (digitOf_lt hc)]
  exact Nat.add_sub_cancel' (Char.isDigit_iff_toNat.1 hc).1

theorem digitsValue_eq (cs : List Char) :
    digitsValue cs = Nat.ofDigits 10 (cs.map digitOf).reverse := by
  rw [digitsValue, List.foldl_eq_foldr_reverse, Nat.ofDigits_eq_foldr, ← List.map_reverse,
    List.foldr_map]
  congr 1
  funext c n
  rw [digitOf, Nat.cast_id]
  omega

/-- The digits of a word, after a plus sign if it begins with one. -/
def unsigned (cs : List Char) : List Char :=
  match cs with
  | '+' :: rest => rest
  | cs => cs

theorem unsigned_eq_iff {cs digits : List Char} (hdigits : digits.head? ≠ some '+') :
    unsigned cs = digits ↔ cs = digits ∨ cs = '+' :: digits := by
  rw [unsigned.eq_def]
  split
  · rename_i rest
    constructor
    · rintro rfl
      exact .inr rfl
    · rintro (rfl | hcs)
      · exact absurd rfl hdigits
      · exact (List.cons.inj hcs).2
  · rename_i hplus
    constructor
    · exact .inl
    · rintro (rfl | rfl)
      · rfl
      · exact absurd rfl (hplus digits)

theorem writes_iff {word : String} {n : Nat} :
    Writes word n ↔ unsigned word.toList ≠ [] ∧ (∀ c ∈ unsigned word.toList, c.isDigit = true) ∧
      n = digitsValue (unsigned word.toList) := by
  constructor
  · rintro ⟨digits, hne, hdigits, rfl, hword⟩
    have hchars : ∀ c ∈ digits.map Nat.digitChar, c.isDigit = true := by
      intro c hc
      obtain ⟨d, hd, rfl⟩ := List.mem_map.1 hc
      rw [Nat.isDigit_digitChar]
      exact decide_eq_true (hdigits d hd)
    have hhead : (digits.map Nat.digitChar).head? ≠ some '+' := fun hplus =>
      Bool.false_ne_true (hchars '+' (List.mem_of_head? hplus))
    have hback : (digits.map Nat.digitChar).map digitOf = digits := by
      calc (digits.map Nat.digitChar).map digitOf = digits.map id := by
            rw [List.map_map]
            exact List.map_congr_left fun d hd => digitOf_digitChar (hdigits d hd)
        _ = digits := List.map_id digits
    rw [(unsigned_eq_iff hhead).2 hword, digitsValue_eq, hback]
    exact ⟨by simpa using hne, hchars, rfl⟩
  · rintro ⟨hne, hchars, rfl⟩
    have hhead : (unsigned word.toList).head? ≠ some '+' := fun hplus =>
      Bool.false_ne_true (hchars '+' (List.mem_of_head? hplus))
    have hback : ((unsigned word.toList).map digitOf).map Nat.digitChar = unsigned word.toList := by
      calc ((unsigned word.toList).map digitOf).map Nat.digitChar
          = (unsigned word.toList).map id := by
            rw [List.map_map]
            exact List.map_congr_left fun c hc => digitChar_digitOf (hchars c hc)
        _ = unsigned word.toList := List.map_id _
    refine ⟨(unsigned word.toList).map digitOf, by simpa using hne, ?_, digitsValue_eq _, ?_⟩
    · intro d hd
      obtain ⟨c, hc, rfl⟩ := List.mem_map.1 hd
      exact digitOf_lt (hchars c hc)
    · rw [hback]
      exact (unsigned_eq_iff hhead).1 rfl

/-- A count is a number that is written and that fits into a word of the machine. -/
theorem count?_eq_some_iff {word : String} {n : Nat} :
    count? word = some n ↔ Writes word n ∧ n < 2 ^ 64 := by
  rw [writes_iff]
  change (if (unsigned word.toList).isEmpty || !(unsigned word.toList).all Char.isDigit then none
    else if digitsValue (unsigned word.toList) < 2 ^ 64 then
      some (digitsValue (unsigned word.toList)) else none) = some n ↔ _
  by_cases hwritten : unsigned word.toList ≠ [] ∧ ∀ c ∈ unsigned word.toList, c.isDigit = true
  · rw [if_neg (by simpa using hwritten)]
    constructor
    · intro hcount
      split at hcount
      · rename_i hfits
        obtain rfl := Option.some.inj hcount
        exact ⟨⟨hwritten.1, hwritten.2, rfl⟩, hfits⟩
      · nomatch hcount
    · rintro ⟨⟨-, -, rfl⟩, hfits⟩
      rw [if_pos hfits]
  · rw [if_pos (by simpa [imp_iff_not_or] using hwritten)]
    exact iff_of_false nofun fun hcount => hwritten ⟨hcount.1.1, hcount.1.2.1⟩

end Builtin

/-! ## The lines of a history -/

/-- A line that shows an entry: its number to the right of at least five columns, two
blanks, and the entry. -/
def numberedLine (number : Nat) (entry : String) : String :=
  String.ofList ((Nat.toDigits 10 number).leftpad 5 ' ' ++ ' ' :: ' ' :: entry.toList ++ ['\n'])

/-- The lines of some entries, numbered from one. -/
def numberedLines (entries : List String) : List String :=
  entries.mapIdx fun i entry => numberedLine (i + 1) entry

/-- What a history with some entries shows if so many of its last lines are asked for. -/
structure ShowsLast (entries : List String) (n : Nat) (everything output : String) : Prop where
  lines : ∃ front last, numberedLines entries = front ++ last ∧
    last.length = min n entries.length ∧ output = String.join last
  /-- the end of what is shown without a count -/
  isEnd : ∃ front, everything = front ++ output
  nothing : n = 0 ∨ entries = [] → output = ""
  all : entries.length ≤ n → output = everything

namespace History

theorem listingLine_eq (entry : String) (number : Nat) :
    listingLine (entry, number) = numberedLine number entry := by
  apply String.toList_inj.1
  have hcolumn : (column number).toList = (Nat.toDigits 10 number).leftpad 5 ' ' := by
    rw [column, Nat.toString_eq_repr, String.toList_append, String.toList_ofList, Nat.toList_repr,
      ← String.length_toList, Nat.toList_repr]
    rfl
  simp [listingLine, numberedLine, hcolumn]

theorem listing_eq (h : History) : h.listing = numberedLines h.entries := by
  rw [numberedLines, eq_comm, List.mapIdx_eq_iff]
  intro i
  rw [listing, List.getElem?_map, List.getElem?_zipIdx, Option.map_map]
  apply Option.map_congr
  intro entry _
  exact (listingLine_eq entry (1 + i)).trans (by rw [Nat.add_comm])

theorem length_numberedLines (entries : List String) :
    (numberedLines entries).length = entries.length := List.length_mapIdx

/-- The whole listing in two parts, of which the second has so many lines or all of them. -/
theorem exists_lastLines (h : History) (n : Nat) :
    ∃ front, numberedLines h.entries = front ++ h.lastLines (some n) ∧
      (h.lastLines (some n)).length = min n h.entries.length := by
  refine ⟨h.listing.take (h.entries.length - n), ?_, ?_⟩
  · rw [← listing_eq]
    exact (List.take_append_drop _ _).symm
  · rw [lastLines, List.length_drop, listing_eq, length_numberedLines]
    omega

theorem list_none (h : History) : h.list none = String.join (numberedLines h.entries) := by
  rw [list, lastLines, listing_eq]

theorem showsLast_list (h : History) (n : Nat) :
    ShowsLast h.entries n (h.list none) (h.list (some n)) := by
  obtain ⟨front, hlines, hlength⟩ := h.exists_lastLines n
  have hwhole : h.list none = String.join front ++ h.list (some n) := by
    rw [list_none, hlines, String.join_append]
    rfl
  refine ⟨⟨front, h.lastLines (some n), hlines, hlength, rfl⟩, ⟨String.join front, hwhole⟩, ?_, ?_⟩
  · intro hnone
    have hempty : (h.lastLines (some n)).length = 0 := by
      rcases hnone with rfl | hentries
      · rw [hlength, Nat.zero_min]
      · rw [hlength, hentries, List.length_nil, Nat.min_zero]
    rw [list, List.length_eq_zero_iff.1 hempty]
    rfl
  · intro hlarge
    have hfront : front.length = 0 := by
      have hsum := congrArg List.length hlines
      rw [length_numberedLines, List.length_append, hlength, Nat.min_eq_right hlarge] at hsum
      omega
    rw [hwhole, List.length_eq_zero_iff.1 hfront]
    exact String.empty_append.symm

end History

/-! ## The answer to a word -/

/-- How `history` answers a word that is no flag. -/
structure AnswersCount (state : ShellState) (around : Surroundings) (word everything : String)
    (outcome : BuiltinOutcome) : Prop where
  shown : ∀ n, Writes word n → n < 2 ^ 64 →
    outcome.error = none ∧ ShowsLast state.history.entries n everything outcome.output
  /-- no number is written, or one that is too large -/
  refused : (∀ n, Writes word n → 2 ^ 64 ≤ n) →
    outcome.output = "" ∧
      outcome.error = some ("history: " ++ word ++ ": numeric argument required\n")
  state : outcome.state = state
  files : outcome.files = around.files

namespace Builtin

theorem answersCount_of_count {word : String} {n : Nat} (hcount : count? word = some n)
    (state : ShellState) (around : Surroundings) (records : List LogRecord) :
    AnswersCount state around word (state.history.list none)
      ⟨state.history.list (some n), none, state, around.files, records⟩ := by
  obtain ⟨hwrites, hfits⟩ := count?_eq_some_iff.1 hcount
  refine ⟨?_, fun hlarge => absurd (hlarge n hwrites) (Nat.not_le_of_lt hfits), rfl, rfl⟩
  intro m hm hfits
  obtain rfl : n = m :=
    Option.some.inj (hcount.symm.trans (count?_eq_some_iff.2 ⟨hm, hfits⟩))
  exact ⟨rfl, state.history.showsLast_list n⟩

theorem answersCount_of_none {word : String} (hcount : count? word = none) (everything : String)
    (state : ShellState) (around : Surroundings) (records : List LogRecord) :
    AnswersCount state around word everything
      ⟨"", some ("history: " ++ word ++ ": numeric argument required\n"), state, around.files,
        records⟩ := by
  refine ⟨?_, fun _ => ⟨rfl, rfl⟩, rfl, rfl⟩
  intro n hn hfits
  nomatch hcount.symm.trans (count?_eq_some_iff.2 ⟨hn, hfits⟩)

/-- After `history` a word that is no flag shows so many of the last lines of the listing if it
writes a number below 2^64, and is refused otherwise; nothing is changed. -/
theorem history_answers_count {word : String} (hread : word ≠ "-r") (hwrite : word ≠ "-w")
    (happend : word ≠ "-a") (rest : List String) (state : ShellState) (around : Surroundings) :
    let everything := (Builtin.history.run [] state around).output
    everything = String.join (numberedLines state.history.entries) ∧
      AnswersCount state around word everything
        (Builtin.history.run (word :: rest) state around) := by
  intro everything
  have hflag : HistoryFlag.ofWord? word = none := by
    rw [HistoryFlag.ofWord?.eq_def]
    split <;> first | contradiction | rfl
  have hrun : Builtin.history.run (word :: rest) state around =
      { runHistory (word :: rest) state around with
        records := startRecord .history (word :: rest) ::
          (runHistory (word :: rest) state around).records } := rfl
  refine ⟨state.history.list_none, ?_⟩
  rw [hrun, runHistory.eq_def]
  simp only [hflag]
  cases hcount : count? word with
  | some n => exact answersCount_of_count hcount state around _
  | none => exact answersCount_of_none hcount _ state around _

/-- A count may have a sign and zeros before it; the lines keep their numbers. -/
theorem history_answers_count_signed :
    let state : ShellState := ⟨utf8 "/", none, ⟨["ls", "pwd", "cd a"], 0⟩, false⟩
    let around : Surroundings := ⟨FileSystem.empty, Place.root, ⟨[]⟩⟩
    let outcome := Builtin.history.run ["+002", "x"] state around
    AnswersCount state around "+002" (Builtin.history.run [] state around).output outcome ∧
      Writes "+002" 2 ∧ outcome.output = "    2  pwd\n    3  cd a\n" := by
  intro state around outcome
  have hwrites : Writes "+002" 2 :=
    ⟨[0, 0, 2], by decide, by decide, by decide, by decide⟩
  exact ⟨(history_answers_count (by decide) (by decide) (by decide) ["x"] state around).2, hwrites,
    by decide +kernel⟩

/-- Words without digits, with a blank or a minus sign, or too large are no counts. -/
example :
    ["", "+", "-", "++1", "-1", " 1", "1 ", "0x1", "18446744073709551616"].map count? =
        List.replicate 9 none ∧
      count? "018446744073709551615" = some (2 ^ 64 - 1) := by
  decide +kernel

end Builtin

end PipelineShell
