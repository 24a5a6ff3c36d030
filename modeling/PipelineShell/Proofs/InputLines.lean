import Mathlib.Data.List.TakeWhile
import PipelineShell.History
import PipelineShell.LineReader

/-!
# The lines of an input

An input is cut into lines at its line feeds, and a line may end in a carriage
return and a line feed.  Taking lines one by one from a buffer gives the lines of
the whole input in order, wherever the blocks end.  Since no byte of a longer
character is ASCII, a text is cut into texts.
-/

namespace PipelineShell

/-! ## Cutting a text at an ASCII byte -/

theorem utf8_ofList (cs : List Char) :
    utf8 (String.ofList cs) = cs.flatMap String.utf8EncodeChar := by
  simp [utf8, String.toByteArray_ofList, List.utf8Encode]

theorem utf8_append (s t : String) : utf8 (s ++ t) = utf8 s ++ utf8 t := by
  rw [← String.ofList_toList (s := s ++ t), String.toList_append, utf8_ofList,
    List.flatMap_append, ← utf8_ofList, ← utf8_ofList, String.ofList_toList, String.ofList_toList]

theorem utf8_injective {s t : String} (h : utf8 s = utf8 t) : s = t :=
  Option.some.inj ((Bytes.text?_utf8 s).symm.trans (h ▸ Bytes.text?_utf8 t))

/-- A character with an ASCII byte is that byte. -/
theorem utf8EncodeChar_of_mem {c : Char} {b : UInt8} (hmem : b ∈ String.utf8EncodeChar c)
    (hascii : b < 128) : String.utf8EncodeChar c = [b] := by
  have hb : b.toNat < 128 := by simpa [UInt8.lt_iff_toNat_lt] using hascii
  unfold String.utf8EncodeChar at hmem ⊢
  simp only at hmem ⊢
  -- the bytes of a longer character are at least 128
  split at hmem
  · simp_all
  · exfalso
    split at hmem
    · simp only [List.mem_cons, List.not_mem_nil, or_false] at hmem
      rcases hmem with rfl | rfl <;> simp at hb <;> omega
    · split at hmem
      · simp only [List.mem_cons, List.not_mem_nil, or_false] at hmem
        rcases hmem with rfl | rfl | rfl <;> simp at hb <;> omega
      · simp only [List.mem_cons, List.not_mem_nil, or_false] at hmem
        rcases hmem with rfl | rfl | rfl | rfl <;> simp at hb <;> omega

/-- An ASCII byte of a text is a character, and there the text can be cut. -/
theorem utf8_cut {s : String} {front rest : Bytes} {b : UInt8} (hascii : b < 128)
    (hcut : utf8 s = front ++ b :: rest) :
    ∃ before c after, s.toList = before ++ c :: after ∧ front = utf8 (String.ofList before) ∧
      String.utf8EncodeChar c = [b] ∧ rest = utf8 (String.ofList after) := by
  rw [← String.ofList_toList (s := s)] at hcut
  simp only [utf8_ofList] at hcut ⊢
  generalize s.toList = cs at hcut ⊢
  induction cs generalizing front with
  | nil => simp at hcut
  | cons c cs ih =>
      rw [List.flatMap_cons] at hcut
      have hbeyond : ∀ middle, front = String.utf8EncodeChar c ++ middle →
          cs.flatMap String.utf8EncodeChar = middle ++ b :: rest →
          ∃ before d after, c :: cs = before ++ d :: after ∧
            front = before.flatMap String.utf8EncodeChar ∧ String.utf8EncodeChar d = [b] ∧
            rest = after.flatMap String.utf8EncodeChar := by
        intro middle hfront hmiddle
        obtain ⟨before, d, after, rfl, rfl, hd, hrest⟩ := ih hmiddle
        exact ⟨c :: before, d, after, rfl, by rw [hfront, List.flatMap_cons], hd, hrest⟩
      rcases List.append_eq_append_iff.1 hcut with ⟨middle, hfront, hmiddle⟩ |
        ⟨middle, hchar, hmiddle⟩
      · exact hbeyond middle hfront hmiddle
      · cases middle with
        | nil => exact hbeyond [] (by simpa using hchar.symm) (by simpa using hmiddle.symm)
        | cons first middle =>
            obtain ⟨rfl, hrest⟩ := List.cons.inj hmiddle
            have hsingle := utf8EncodeChar_of_mem (c := c) (by simp [hchar]) hascii
            obtain ⟨rfl, rfl⟩ : front = [] ∧ middle = [] := by
              have hlength := congrArg List.length (hsingle.symm.trans hchar)
              simp only [List.length_append, List.length_cons, List.length_nil] at hlength
              exact ⟨List.eq_nil_of_length_eq_zero (by omega),
                List.eq_nil_of_length_eq_zero (by omega)⟩
            exact ⟨[], c, cs, rfl, rfl, hsingle, hrest⟩

theorem utf8EncodeChar_injective {c d : Char}
    (h : String.utf8EncodeChar c = String.utf8EncodeChar d) : c = d := by
  have hsingle : utf8 (String.ofList [c]) = utf8 (String.ofList [d]) := by
    rw [utf8_ofList, utf8_ofList, List.flatMap_singleton, List.flatMap_singleton, h]
  simpa using congrArg String.toList (utf8_injective hsingle)

/-- Bytes on both sides of an ASCII byte are a text if both sides are. -/
theorem text?_cut (front rest : Bytes) {c : Char} {b : UInt8}
    (hchar : String.utf8EncodeChar c = [b]) (hascii : b < 128) :
    Bytes.text? (front ++ b :: rest) =
      (Bytes.text? front).bind fun before =>
        (Bytes.text? rest).map fun after =>
          String.ofList (before.toList ++ c :: after.toList) := by
  cases htext : Bytes.text? (front ++ b :: rest) with
  | some s =>
      obtain ⟨before, d, after, hs, rfl, hd, rfl⟩ :=
        utf8_cut hascii (Bytes.eq_utf8_of_text? htext).symm
      obtain rfl := utf8EncodeChar_injective (hd.trans hchar.symm)
      rw [Bytes.text?_utf8, Bytes.text?_utf8, Option.bind_some, Option.map_some,
        String.toList_ofList, String.toList_ofList, ← hs, String.ofList_toList]
  | none =>
      cases hfront : Bytes.text? front with
      | none => rfl
      | some before =>
          cases hrest : Bytes.text? rest with
          | none => rfl
          | some after =>
              have hwhole : front ++ b :: rest =
                  utf8 (String.ofList (before.toList ++ c :: after.toList)) := by
                rw [utf8_ofList, List.flatMap_append, List.flatMap_cons, hchar, ← utf8_ofList,
                  ← utf8_ofList, String.ofList_toList, String.ofList_toList,
                  ← Bytes.eq_utf8_of_text? hfront, ← Bytes.eq_utf8_of_text? hrest]
                rfl
              rw [hwhole, Bytes.text?_utf8] at htext
              nomatch htext

theorem text?_nil : Bytes.text? [] = some "" := Bytes.text?_utf8 ""

/-- A text before an ASCII byte. -/
theorem text?_concat (front : Bytes) {c : Char} {b : UInt8}
    (hchar : String.utf8EncodeChar c = [b]) (hascii : b < 128) :
    Bytes.text? (front ++ [b]) =
      (Bytes.text? front).map fun before => String.ofList (before.toList ++ [c]) := by
  rw [text?_cut front [] hchar hascii, text?_nil]
  cases Bytes.text? front <;> rfl

/-! ## The first line of an input -/

/-- A line without its end: a line feed and a carriage return before it. -/
def lineBody (raw : Bytes) : Bytes :=
  if raw.getLast? = some LineReader.lineFeed then dropReturn raw.dropLast else raw

theorem dropReturn_concat (line : Bytes) :
    dropReturn (line ++ [LineReader.carriageReturn]) = line := by
  simp [dropReturn, LineReader.carriageReturn]

theorem dropReturn_of_getLast? {line : Bytes}
    (hline : line.getLast? ≠ some LineReader.carriageReturn) : dropReturn line = line :=
  if_neg (by simpa [LineReader.carriageReturn] using hline)

theorem mem_of_mem_dropReturn {line : Bytes} {b : UInt8} (hb : b ∈ dropReturn line) : b ∈ line := by
  rw [dropReturn] at hb
  split at hb
  · exact List.dropLast_subset _ hb
  · exact hb

/-- An input has a line feed, the first of which ends its first line, or it is
one unfinished line. -/
theorem input_cases (input : Bytes) :
    LineReader.lineFeed ∉ input ∨
      ∃ line rest, LineReader.lineFeed ∉ line ∧ input = line ++ LineReader.lineFeed :: rest := by
  by_cases hfeed : LineReader.lineFeed ∈ input
  · obtain ⟨line, rest, hinput, hline⟩ := List.eq_append_cons_of_mem hfeed
    exact .inr ⟨line, rest, hline, hinput⟩
  · exact .inl hfeed

theorem takeWhile_ne_of_not_mem {line : Bytes} (hline : LineReader.lineFeed ∉ line) :
    line.takeWhile (· != LineReader.lineFeed) = line := by
  rw [List.takeWhile_eq_self_iff]
  intro b hb
  simpa using ne_of_mem_of_not_mem hb hline

theorem rawLine_of_lineFeed {line : Bytes} (hline : LineReader.lineFeed ∉ line) (rest : Bytes) :
    LineReader.rawLine (line ++ LineReader.lineFeed :: rest) = line ++ [LineReader.lineFeed] := by
  have htake : (line ++ LineReader.lineFeed :: rest).takeWhile (· != LineReader.lineFeed) =
      line := by
    rw [List.takeWhile_append_of_pos (List.takeWhile_eq_self_iff.1
      (takeWhile_ne_of_not_mem hline)), List.takeWhile_cons_of_neg (by simp), List.append_nil]
  rw [LineReader.rawLine, htake, List.append_cons, List.take_left' (by simp)]

theorem rawLine_of_not_mem {input : Bytes} (hinput : LineReader.lineFeed ∉ input) :
    LineReader.rawLine input = input := by
  rw [LineReader.rawLine, takeWhile_ne_of_not_mem hinput, List.take_of_length_le (by omega)]

theorem contentLines_of_lineFeed {line : Bytes} (hline : LineReader.lineFeed ∉ line)
    (rest : Bytes) :
    contentLines (line ++ LineReader.lineFeed :: rest) = dropReturn line :: contentLines rest := by
  have hcut : (line ++ LineReader.lineFeed :: rest).splitOn 10 = line :: rest.splitOn 10 :=
    List.splitOnP_append_cons_of_forall_mem
      (fun _ hb => beq_eq_false_iff_ne.2 (ne_of_mem_of_not_mem hb hline)) _ rfl rest
  obtain ⟨first, more, hrest⟩ := List.exists_cons_of_ne_nil (List.splitOn_ne_nil 10 rest)
  simp only [contentLines, hcut, hrest]
  simp

theorem contentLines_of_not_mem {input : Bytes} (hinput : LineReader.lineFeed ∉ input) :
    contentLines input = if input.isEmpty then [] else [input] := by
  have hcut : input.splitOn 10 = [input] :=
    List.splitOnP_eq_singleton fun _ hb => beq_eq_false_iff_ne.2 (ne_of_mem_of_not_mem hb hinput)
  simp [contentLines, hcut]

/-- The lines of an input are its first line and the lines behind it. -/
theorem contentLines_eq_cons {input : Bytes} (hinput : input ≠ []) :
    contentLines input = lineBody (LineReader.rawLine input) ::
      contentLines (input.drop (LineReader.rawLine input).length) := by
  rcases input_cases input with hfeed | ⟨line, rest, hline, rfl⟩
  · have hlast : input.getLast? ≠ some LineReader.lineFeed :=
      fun h => hfeed (List.mem_of_getLast? h)
    rw [rawLine_of_not_mem hfeed, contentLines_of_not_mem hfeed, lineBody, if_neg hlast,
      List.drop_length, if_neg (by simpa using hinput)]
    rfl
  · rw [rawLine_of_lineFeed hline, contentLines_of_lineFeed hline, lineBody,
      if_pos List.getLast?_concat, List.dropLast_concat, List.append_cons line _ rest, List.drop_left]

/-- Taking a line from a buffer takes the first line of all that is left. -/
theorem takeLine_eq_some {buffered rest raw buffered' rest' : Bytes}
    (htake : LineReader.takeLine buffered rest = some (raw, buffered', rest')) :
    buffered ++ rest ≠ [] ∧ raw = LineReader.rawLine (buffered ++ rest) ∧
      buffered' ++ rest' = (buffered ++ rest).drop raw.length := by
  simp only [LineReader.takeLine] at htake
  split at htake
  · cases htake
  rename_i hne
  refine ⟨by simpa using hne, ?_⟩
  split at htake <;> rename_i hlength <;>
    simp only [Option.some.injEq, Prod.mk.injEq] at htake <;> obtain ⟨rfl, rfl, rfl⟩ := htake
  · exact ⟨rfl, by rw [List.drop_append_of_le_length hlength]⟩
  · generalize hline : LineReader.rawLine (buffered ++ rest) = line at hlength ⊢
    have hle : line.length ≤ buffered.length + rest.length := by
      rw [← hline]
      simp only [LineReader.rawLine, List.length_take, List.length_append]
      omega
    have hfilled : line.length - buffered.length ≤ (rest.take
        ((line.length - buffered.length + (LineReader.blockSize - 1)) / LineReader.blockSize *
          LineReader.blockSize)).length := by
      simp only [List.length_take, LineReader.blockSize]
      omega
    have hbuffered : buffered.drop line.length = [] := List.drop_eq_nil_of_le (by omega)
    exact ⟨rfl, by rw [← List.drop_append_of_le_length hfilled, List.take_append_drop,
      List.drop_append, hbuffered, List.nil_append]⟩

theorem takeLine_eq_none {buffered rest : Bytes} :
    LineReader.takeLine buffered rest = none ↔ buffered ++ rest = [] := by
  simp only [LineReader.takeLine]
  split
  · simp_all
  · split <;> simp_all

/-! ## Lines of text -/

/-- The last character of a text if it is ASCII. -/
theorem getLast?_utf8 (s : String) {c : Char} {b : UInt8} (hchar : String.utf8EncodeChar c = [b])
    (hascii : b < 128) : (utf8 s).getLast? = some b ↔ s.toList.getLast? = some c := by
  constructor
  · intro hlast
    obtain ⟨front, hfront⟩ := List.getLast?_eq_some_iff.1 hlast
    obtain ⟨before, d, after, hs, -, hd, hrest⟩ := utf8_cut hascii hfront
    obtain rfl := utf8EncodeChar_injective (hd.trans hchar.symm)
    obtain rfl : after = [] := by
      simpa using congrArg String.toList (utf8_injective (t := "") hrest.symm)
    rw [hs, List.getLast?_concat]
  · intro hlast
    obtain ⟨before, hs⟩ := List.getLast?_eq_some_iff.1 hlast
    rw [← String.ofList_toList (s := s), hs, utf8_ofList, List.flatMap_append,
      List.flatMap_singleton, hchar, List.getLast?_concat]

theorem dropEnd_return (cs : List Char) : LineReader.dropEnd (cs ++ ['\r', '\n']) = cs := by
  simp [LineReader.dropEnd]

theorem dropEnd_lineFeed {cs : List Char} (hcs : cs.getLast? ≠ some '\r') :
    LineReader.dropEnd (cs ++ ['\n']) = cs := by
  rcases List.eq_nil_or_concat cs with rfl | ⟨before, c, rfl⟩
  · rfl
  · have hc : c ≠ '\r' := by simpa using hcs
    simp [LineReader.dropEnd, hc]

theorem dropEnd_unfinished {cs : List Char} (hcs : cs.getLast? ≠ some '\n') :
    LineReader.dropEnd cs = cs := by
  rcases List.eq_nil_or_concat cs with rfl | ⟨before, c, rfl⟩
  · rfl
  · have hc : c ≠ '\n' := by simpa using hcs
    simp [LineReader.dropEnd, hc]

theorem utf8EncodeChar_lineFeed : String.utf8EncodeChar '\n' = [LineReader.lineFeed] := rfl

theorem utf8EncodeChar_carriageReturn :
    String.utf8EncodeChar '\r' = [LineReader.carriageReturn] := rfl

/-- The end of a line of text is cut off before or after it is decoded. -/
theorem text?_lineBody (raw : Bytes) :
    (lineBody raw).text? =
      raw.text?.map fun s => String.ofList (LineReader.dropEnd s.toList) := by
  by_cases hfeed : raw.getLast? = some LineReader.lineFeed
  · obtain ⟨line, rfl⟩ := List.getLast?_eq_some_iff.1 hfeed
    rw [lineBody, if_pos hfeed, List.dropLast_concat,
      text?_concat line utf8EncodeChar_lineFeed (by decide)]
    by_cases hreturn : line.getLast? = some LineReader.carriageReturn
    · obtain ⟨before, rfl⟩ := List.getLast?_eq_some_iff.1 hreturn
      rw [dropReturn_concat, text?_concat before utf8EncodeChar_carriageReturn (by decide)]
      cases Bytes.text? before with
      | none => rfl
      | some s => simp [dropEnd_return]
    · rw [dropReturn_of_getLast? hreturn]
      cases htext : Bytes.text? line with
      | none => rfl
      | some s =>
          rw [Bytes.eq_utf8_of_text? htext, getLast?_utf8 s utf8EncodeChar_carriageReturn
            (by decide)] at hreturn
          simp [dropEnd_lineFeed hreturn]
  · rw [lineBody, if_neg hfeed]
    cases htext : raw.text? with
    | none => rfl
    | some s =>
        rw [Bytes.eq_utf8_of_text? htext, getLast?_utf8 s utf8EncodeChar_lineFeed
          (by decide)] at hfeed
        simp [dropEnd_unfinished hfeed]

/-- The line that the bytes of a line stand for, if they are UTF-8. -/
def typed? (line : Bytes) : Option String :=
  line.text?.map fun s => String.ofList (LineReader.erase s.toList)

theorem line?_eq_typed? (raw : Bytes) : LineReader.line? raw = typed? (lineBody raw) := by
  rw [typed?, text?_lineBody, LineReader.line?, Option.map_map]
  simp [Function.comp_def]

/-- A text with the byte of an ASCII character has that character. -/
theorem mem_of_mem_utf8 {s : String} {c : Char} {b : UInt8}
    (hchar : String.utf8EncodeChar c = [b]) (hascii : b < 128) (hmem : b ∈ utf8 s) :
    c ∈ s.toList := by
  obtain ⟨front, rest, hcut⟩ := List.append_of_mem hmem
  obtain ⟨before, d, after, hs, -, hd, -⟩ := utf8_cut hascii hcut
  obtain rfl := utf8EncodeChar_injective (hd.trans hchar.symm)
  simp [hs]

theorem mem_utf8_of_mem {s : String} {c : Char} {b : UInt8}
    (hchar : String.utf8EncodeChar c = [b]) (hmem : c ∈ s.toList) : b ∈ utf8 s := by
  rw [← String.ofList_toList (s := s), utf8_ofList]
  exact List.mem_flatMap.2 ⟨c, hmem, by simp [hchar]⟩

theorem lineFeed_mem_utf8_iff {s : String} : LineReader.lineFeed ∈ utf8 s ↔ '\n' ∈ s.toList :=
  ⟨mem_of_mem_utf8 utf8EncodeChar_lineFeed (by decide), mem_utf8_of_mem utf8EncodeChar_lineFeed⟩

/-- Without a backspace a line stands for its own text. -/
theorem typed?_of_not_mem {line : Bytes} (hbackspace : 8 ∉ line) : typed? line = line.text? := by
  rw [typed?]
  cases htext : line.text? with
  | none => rfl
  | some s =>
      have hs : '\x08' ∉ s.toList := by
        intro hmem
        apply hbackspace
        rw [Bytes.eq_utf8_of_text? htext]
        exact mem_utf8_of_mem rfl hmem
      have herase : LineReader.erase s.toList = s.toList := if_neg (by simpa using hs)
      rw [Option.map_some, herase, String.ofList_toList]

/-- What holds of the lines of an input if it holds of the empty input, of an
unfinished line, and of a finished line and all lines behind it. -/
theorem contentLines_induction {P : Bytes → Prop} (empty : P [])
    (unfinished : ∀ line, LineReader.lineFeed ∉ line → line ≠ [] → P line)
    (finished : ∀ line rest, LineReader.lineFeed ∉ line → P rest →
      P (line ++ LineReader.lineFeed :: rest)) (input : Bytes) : P input := by
  induction hlength : input.length using Nat.strongRecOn generalizing input with
  | ind n ih =>
      rcases input_cases input with hfeed | ⟨line, rest, hline, rfl⟩
      · by_cases hempty : input = []
        · exact hempty ▸ empty
        · exact unfinished input hfeed hempty
      · refine finished line rest hline (ih rest.length ?_ rest rfl)
        simp only [List.length_append, List.length_cons] at hlength
        omega

theorem isSome_text?_cut (front rest : Bytes) :
    (Bytes.text? (front ++ LineReader.lineFeed :: rest)).isSome ↔
      (Bytes.text? front).isSome ∧ (Bytes.text? rest).isSome := by
  rw [text?_cut front rest utf8EncodeChar_lineFeed (by decide)]
  cases Bytes.text? front <;> cases Bytes.text? rest <;> simp

theorem isSome_text?_dropReturn {line : Bytes} :
    (dropReturn line).text?.isSome ↔ line.text?.isSome := by
  by_cases hreturn : line.getLast? = some LineReader.carriageReturn
  · obtain ⟨before, rfl⟩ := List.getLast?_eq_some_iff.1 hreturn
    rw [dropReturn_concat, text?_concat before utf8EncodeChar_carriageReturn (by decide),
      Option.isSome_map]
  · rw [dropReturn_of_getLast? hreturn]

/-- A line of an input is a piece of it between line feeds, perhaps without a
carriage return at its end. -/
theorem piece_of_mem_contentLines {input line : Bytes} (hline : line ∈ contentLines input) :
    ∃ piece, (line = piece ∨ line = dropReturn piece) ∧ LineReader.lineFeed ∉ piece ∧
      piece ⊆ input ∧ (input.text?.isSome → piece.text?.isSome) := by
  induction input using contentLines_induction with
  | empty => nomatch hline
  | unfinished whole hfeed hne =>
      obtain rfl : line = whole := by simpa [contentLines_of_not_mem hfeed, hne] using hline
      exact ⟨line, .inl rfl, hfeed, List.Subset.refl _, id⟩
  | finished first rest hfirst ih =>
      rw [contentLines_of_lineFeed hfirst] at hline
      rcases List.mem_cons.1 hline with rfl | hline
      · exact ⟨first, .inr rfl, hfirst, List.subset_append_left _ _,
          fun htext => ((isSome_text?_cut first rest).1 htext).1⟩
      · obtain ⟨piece, hpiece, hfeed, hsub, htext⟩ := ih hline
        exact ⟨piece, hpiece, hfeed,
          fun b hb => List.mem_append_right _ (List.mem_cons_of_mem _ (hsub hb)),
          fun hwhole => htext ((isSome_text?_cut first rest).1 hwhole).2⟩

/-- All lines of a text are texts. -/
theorem isSome_text?_of_mem_contentLines {input line : Bytes} (hinput : input.text?.isSome)
    (hline : line ∈ contentLines input) : line.text?.isSome := by
  obtain ⟨piece, rfl | rfl, -, -, htext⟩ := piece_of_mem_contentLines hline
  · exact htext hinput
  · exact isSome_text?_dropReturn.2 (htext hinput)

/-- An input is a text if all its lines are. -/
theorem isSome_text?_of_forall_contentLines {input : Bytes}
    (hlines : ∀ line ∈ contentLines input, line.text?.isSome) : input.text?.isSome := by
  induction input using contentLines_induction with
  | empty => exact Option.isSome_iff_exists.2 ⟨_, text?_nil⟩
  | unfinished whole hfeed hne =>
      apply hlines
      rw [contentLines_of_not_mem hfeed, if_neg (by simpa using hne)]
      exact List.mem_singleton_self whole
  | finished first rest hfirst ih =>
      rw [contentLines_of_lineFeed hfirst] at hlines
      obtain ⟨hline, hrest⟩ := List.forall_mem_cons.1 hlines
      exact (isSome_text?_cut first rest).2 ⟨isSome_text?_dropReturn.1 hline, ih hrest⟩

/-- The lines of an input hold only bytes of the input. -/
theorem mem_of_mem_contentLines {input line : Bytes} (hline : line ∈ contentLines input) {b : UInt8}
    (hb : b ∈ line) : b ∈ input := by
  obtain ⟨piece, rfl | rfl, -, hsub, -⟩ := piece_of_mem_contentLines hline
  · exact hsub hb
  · exact hsub (mem_of_mem_dropReturn hb)

/-- No line of an input holds a line feed. -/
theorem lineFeed_not_mem_of_mem_contentLines {input line : Bytes} (hline : line ∈ contentLines input) :
    LineReader.lineFeed ∉ line := by
  obtain ⟨piece, rfl | rfl, hfeed, -, -⟩ := piece_of_mem_contentLines hline
  · exact hfeed
  · exact fun hmem => hfeed (mem_of_mem_dropReturn hmem)

end PipelineShell
