import Mathlib.Data.List.Induction
import PipelineShell.Proofs.Stages

/-!
# Groups of words between pipes

The stages of a line are the only way to group its words in which no word but the pipes is
lost, no group is empty, and two words that follow one another stand in one group exactly if
no pipe stands between them.  How many pipes stand between two groups does not matter, nor do
pipes at the ends.
-/

namespace PipelineShell

namespace PipeGroups

/-- The words of a line that are no pipes. -/
def withoutPipes (words : List String) : List String :=
  words.filter fun word => word != "|"

def IsGroup (group : List String) : Prop :=
  group ≠ [] ∧ "|" ∉ group

/-- Two words follow one another in one of the groups, and `earlier` is all that the groups
hold before them. -/
def StandTogether (groups : List (List String)) (earlier : List String)
    (word next : String) : Prop :=
  ∃ before start rest after,
    groups = before ++ (start ++ word :: next :: rest) :: after ∧
      before.flatten ++ start = earlier

/-- Groups that are cut at the pipes of a line and nowhere else. -/
structure CutAtPipes (words : List String) (groups : List (List String)) : Prop where
  isGroup : ∀ group ∈ groups, IsGroup group
  flatten : groups.flatten = withoutPipes words
  /-- two words with nothing but pipes between them, so that they are neighbours in the
  concatenation of the groups -/
  together : ∀ front word between next back,
    words = front ++ word :: (between ++ next :: back) → word ≠ "|" → next ≠ "|" →
    withoutPipes between = [] →
    (StandTogether groups (withoutPipes front) word next ↔ "|" ∉ between)

/-- Groups with one or more pipes between neighbours. -/
inductive Spaced : List (List String) → List String → Prop where
  | one (group : List String) : Spaced [group] group
  | more (group : List String) (pipes : ℕ) {groups : List (List String)} {words : List String} :
      Spaced groups words →
      Spaced (group :: groups) (group ++ (List.replicate (pipes + 1) "|" ++ words))

/-- Groups with one or more pipes between neighbours and any number of pipes at both ends. -/
inductive Piped : List (List String) → List String → Prop where
  | pipes (count : ℕ) : Piped [] (List.replicate count "|")
  | groups (lead trail : ℕ) {groups : List (List String)} {words : List String} :
      Spaced groups words →
      Piped groups (List.replicate lead "|" ++ (words ++ List.replicate trail "|"))

theorem withoutPipes_append (front back : List String) :
    withoutPipes (front ++ back) = withoutPipes front ++ withoutPipes back :=
  List.filter_append front back

theorem withoutPipes_cons {word : String} (hword : word ≠ "|") (words : List String) :
    withoutPipes (word :: words) = word :: withoutPipes words := by
  simp [withoutPipes, hword]

theorem withoutPipes_eq_self_iff {words : List String} :
    withoutPipes words = words ↔ "|" ∉ words := by
  rw [withoutPipes, List.filter_eq_self]
  constructor
  · intro hwords hpipe
    simpa using hwords "|" hpipe
  · intro hpipe word hword
    rw [bne_iff_ne]
    rintro rfl
    exact hpipe hword

/-! ## Stages from left to right -/

theorem splitStages_append_pipe (front back : List String) :
    splitStages (front ++ "|" :: back) = splitStages front ++ splitStages back := by
  simp only [splitStages_eq]
  rw [List.splitOn_append_cons_self, List.filter_append]

theorem splitStages_group {group : List String} (hgroup : IsGroup group) :
    splitStages group = [group] := by
  have hne : group.isEmpty = false := by simpa using hgroup.1
  rw [splitStages_eq, List.splitOn_eq_singleton hgroup.2]
  simp [hne]

/-- Pipes at the front are skipped. -/
theorem splitStages_lead (pipes : ℕ) (words : List String) :
    splitStages (List.replicate pipes "|" ++ words) = splitStages words := by
  induction pipes with
  | zero => rfl
  | succ pipes ih =>
      rw [List.replicate_succ, List.cons_append]
      exact (splitStages_append_pipe [] _).trans ih

/-- Pipes at the end are skipped. -/
theorem splitStages_trail (words : List String) (pipes : ℕ) :
    splitStages (words ++ List.replicate pipes "|") = splitStages words := by
  induction pipes with
  | zero => rw [List.replicate_zero, List.append_nil]
  | succ pipes ih =>
      rw [List.replicate_succ', ← List.append_assoc, splitStages_append_pipe, ih]
      exact List.append_nil _

/-- A word that starts a stage or goes on with one is kept, a pipe is not. -/
theorem flatten_consWord (word : String) (stages : List (List String)) :
    (consWord word stages).flatten = withoutPipes [word] ++ stages.flatten := by
  by_cases hpipe : word = "|"
  · simp [consWord, withoutPipes, hpipe]
  · cases stages <;> simp [consWord, withoutPipes, hpipe]

theorem flatten_splitStages (words : List String) :
    (splitStages words).flatten = withoutPipes words := by
  rw [splitStages, List.flatten_filter_not_isEmpty]
  induction words with
  | nil => rfl
  | cons word words ih =>
      rw [List.foldr_cons, flatten_consWord, ih, ← withoutPipes_append]
      rfl

/-- What has been read of a line: the stages that are finished and the words of the one that
is under way. -/
theorem exists_stage_under_way (front : List String) :
    ∃ finished current, "|" ∉ current ∧ finished.flatten ++ current = withoutPipes front ∧
      ∀ back, splitStages (front ++ back) = finished ++ splitStages (current ++ back) := by
  induction front using List.reverseRecOn with
  | nil => exact ⟨[], [], List.not_mem_nil, rfl, fun _ => rfl⟩
  | append_singleton front word ih =>
      by_cases hpipe : word = "|"
      · subst hpipe
        refine ⟨splitStages front, [], List.not_mem_nil, ?_, fun back => ?_⟩
        · rw [List.append_nil, flatten_splitStages, withoutPipes_append]
          exact (List.append_nil _).symm
        · rw [List.append_assoc, List.singleton_append]
          exact splitStages_append_pipe front back
      · obtain ⟨finished, current, hcurrent, hflatten, hsplit⟩ := ih
        refine ⟨finished, current ++ [word], ?_, ?_, fun back => ?_⟩
        · simpa [hcurrent] using Ne.symm hpipe
        · rw [← List.append_assoc, hflatten, withoutPipes_append]
          simp [withoutPipes, hpipe]
        · rw [List.append_assoc, List.append_assoc]
          exact hsplit ([word] ++ back)

/-- A stage goes on up to the next pipe. -/
theorem splitStages_append_of_group {group : List String} (hgroup : IsGroup group)
    (back : List String) :
    ∃ rest after, splitStages (group ++ back) = (group ++ rest) :: after := by
  have hstage : ∀ rest, "|" ∉ rest → IsGroup (group ++ rest) := by
    intro rest hrest
    refine ⟨by simp [hgroup.1], ?_⟩
    rw [List.mem_append, not_or]
    exact ⟨hgroup.2, hrest⟩
  by_cases hpipe : "|" ∈ back
  · obtain ⟨rest, after, rfl, hrest⟩ := List.eq_append_cons_of_mem hpipe
    refine ⟨rest, splitStages after, ?_⟩
    rw [← List.append_assoc, splitStages_append_pipe, splitStages_group (hstage rest hrest)]
    rfl
  · exact ⟨back, [], splitStages_group (hstage back hpipe)⟩

/-! ## Words that stand together -/

/-- Two words without a pipe between them are read into one stage. -/
theorem standTogether_splitStages {front back : List String} {word next : String}
    (hword : word ≠ "|") (hnext : next ≠ "|") :
    StandTogether (splitStages (front ++ word :: next :: back)) (withoutPipes front)
      word next := by
  obtain ⟨finished, current, hcurrent, hflatten, hsplit⟩ := exists_stage_under_way front
  have hgroup : IsGroup (current ++ [word, next]) := by
    refine ⟨by simp, ?_⟩
    simp [hcurrent, Ne.symm hword, Ne.symm hnext]
  obtain ⟨rest, after, hstage⟩ := splitStages_append_of_group hgroup back
  refine ⟨finished, current, rest, after, ?_, hflatten⟩
  rw [hsplit]
  simpa using hstage

/-- A word that ends groups stands together with none of the groups that follow. -/
theorem not_standTogether_append {left right : List (List String)} {earlier : List String}
    {word next : String} (hleft : left.flatten = earlier ++ [word]) :
    ¬ StandTogether (left ++ right) earlier word next := by
  rintro ⟨before, start, rest, after, hgroups, hearlier⟩
  have hlength := congrArg List.length hleft
  rw [← hearlier] at hlength
  -- Behind `left` the group of both words would come too late, and within it their group alone
  -- would hold one word too many.
  rcases List.append_eq_append_iff.1 hgroups with ⟨more, hbefore, -⟩ | ⟨more, hmore, hrest⟩
  · simp [hbefore] at hlength
  · cases more with
    | nil => simp [hmore] at hlength
    | cons first more =>
        obtain ⟨hfirst, -⟩ := List.cons.inj hrest
        simp [hmore, ← hfirst] at hlength

theorem cutAtPipes_splitStages (words : List String) : CutAtPipes words (splitStages words) where
  isGroup := fun _ => stage_of_mem_splitStages
  flatten := flatten_splitStages words
  together := by
    rintro front word between next back rfl hword hnext hbetween
    constructor
    · intro htogether hpipe
      obtain ⟨first, second, hcut⟩ := List.append_of_mem hpipe
      have hwords : front ++ word :: (between ++ next :: back) =
          (front ++ word :: first) ++ "|" :: (second ++ next :: back) := by
        simp [hcut]
      have hfirst : withoutPipes first = [] := by
        rw [hcut, withoutPipes_append, List.append_eq_nil_iff] at hbetween
        exact hbetween.1
      have hleft : (splitStages (front ++ word :: first)).flatten = withoutPipes front ++ [word] := by
        rw [flatten_splitStages, withoutPipes_append, withoutPipes_cons hword, hfirst]
      rw [hwords, splitStages_append_pipe] at htogether
      exact not_standTogether_append hleft htogether
    · intro hpipe
      obtain rfl : between = [] := by
        rw [← withoutPipes_eq_self_iff.2 hpipe, hbetween]
      exact standTogether_splitStages hword hnext

/-! ## No other grouping -/

/-- Words that stand together do so in the first group or behind it. -/
theorem standTogether_cons_iff (group : List String) (groups : List (List String))
    (earlier : List String) (word next : String) :
    StandTogether (group :: groups) earlier word next ↔
      (∃ rest, group = earlier ++ word :: next :: rest) ∨
        ∃ others, earlier = group ++ others ∧ StandTogether groups others word next := by
  constructor
  · rintro ⟨before, start, rest, after, hgroups, rfl⟩
    cases before with
    | nil => exact .inl ⟨rest, (List.cons.inj hgroups).1⟩
    | cons first before =>
        obtain ⟨rfl, hrest⟩ := List.cons.inj hgroups
        refine .inr ⟨before.flatten ++ start, ?_, before, start, rest, after, hrest, rfl⟩
        rw [List.flatten_cons, List.append_assoc]
  · rintro (⟨rest, rfl⟩ | ⟨others, rfl, before, start, rest, after, rfl, rfl⟩)
    · exact ⟨[], earlier, rest, groups, rfl, rfl⟩
    · refine ⟨group :: before, start, rest, after, rfl, ?_⟩
      rw [List.flatten_cons, List.append_assoc]

theorem standTogether_behind_iff (group : List String) (groups : List (List String))
    (earlier : List String) (word next : String) :
    StandTogether (group :: groups) (group ++ earlier) word next ↔
      StandTogether groups earlier word next := by
  rw [standTogether_cons_iff]
  simp

theorem StandTogether.exists_flatten {groups : List (List String)} {earlier : List String}
    {word next : String} (htogether : StandTogether groups earlier word next) :
    ∃ later, groups.flatten = earlier ++ word :: next :: later := by
  obtain ⟨before, start, rest, after, rfl, rfl⟩ := htogether
  exact ⟨rest ++ after.flatten, by simp⟩

/-- If all words that stand together in one grouping do so in another one, its first group is
not longer. -/
theorem length_le_of_standTogether {group other : List String}
    {groups others : List (List String)} (hne : other ≠ [])
    (hflatten : (group :: groups).flatten = (other :: others).flatten)
    (htogether : ∀ earlier word next, StandTogether (group :: groups) earlier word next →
      StandTogether (other :: others) earlier word next) :
    group.length ≤ other.length := by
  rw [List.flatten_cons, List.flatten_cons] at hflatten
  rcases List.append_eq_append_iff.1 hflatten with ⟨more, rfl, -⟩ | ⟨more, hgroup, -⟩
  · rw [List.length_append]
    exact Nat.le_add_right _ _
  cases more with
  | nil => rw [hgroup, List.append_nil]
  | cons next more =>
      -- The last word of the shorter group and the next one stand together in the longer one.
      obtain ⟨earlier, word, rfl⟩ := (List.eq_nil_or_concat' other).resolve_left hne
      have hlonger : StandTogether (group :: groups) earlier word next := by
        rw [standTogether_cons_iff, hgroup, List.append_assoc, List.singleton_append]
        exact .inl ⟨more, rfl⟩
      rcases (standTogether_cons_iff _ _ _ _ _).1 (htogether _ _ _ hlonger) with
        ⟨rest, hrest⟩ | ⟨rest, hrest, -⟩
      · simpa using congrArg List.length hrest
      · simpa using congrArg List.length hrest

/-- Groupings of the same words are the same if the same words stand together. -/
theorem eq_of_standTogether {groups others : List (List String)}
    (hgroups : ∀ group ∈ groups, IsGroup group) (hothers : ∀ group ∈ others, IsGroup group)
    (hflatten : groups.flatten = others.flatten)
    (htogether : ∀ earlier word next,
      StandTogether groups earlier word next ↔ StandTogether others earlier word next) :
    groups = others := by
  induction groups generalizing others with
  | nil =>
      cases others with
      | nil => rfl
      | cons other others =>
          have hother := (hothers other List.mem_cons_self).1
          simp [hother] at hflatten
  | cons group groups ih =>
      obtain ⟨hgroup, hrest⟩ := List.forall_mem_cons.1 hgroups
      cases others with
      | nil => simp [hgroup.1] at hflatten
      | cons other others =>
          obtain ⟨hother, hothersRest⟩ := List.forall_mem_cons.1 hothers
          have hlength : group.length = other.length := Nat.le_antisymm
            (length_le_of_standTogether hother.1 hflatten fun _ _ _ => (htogether _ _ _).1)
            (length_le_of_standTogether hgroup.1 hflatten.symm fun _ _ _ => (htogether _ _ _).2)
          obtain ⟨rfl, hflattenRest⟩ := List.append_inj hflatten hlength
          have hsame : groups = others := by
            apply ih hrest hothersRest hflattenRest
            intro earlier word next
            rw [← standTogether_behind_iff group groups, ← standTogether_behind_iff group others]
            exact htogether _ _ _
          rw [hsame]

/-- Words that follow one another without the pipes have only pipes between them. -/
theorem exists_neighbours {words earlier later : List String} {word next : String}
    (hwords : withoutPipes words = earlier ++ word :: next :: later) :
    ∃ front between back, words = front ++ word :: (between ++ next :: back) ∧
      withoutPipes front = earlier ∧ withoutPipes between = [] ∧ word ≠ "|" ∧ next ≠ "|" := by
  obtain ⟨front, rest, rfl, hfront, hrest⟩ := List.filter_eq_append_iff.1 hwords
  obtain ⟨lead, tail, rfl, hlead, hword, htail⟩ := List.filter_eq_cons_iff.1 hrest
  obtain ⟨between, back, rfl, hbetween, hnext, -⟩ := List.filter_eq_cons_iff.1 htail
  have hskipped : withoutPipes lead = [] := List.filter_eq_nil_iff.2 hlead
  refine ⟨front ++ lead, between, back, by simp, ?_, List.filter_eq_nil_iff.2 hbetween,
    by simpa using hword, by simpa using hnext⟩
  rw [withoutPipes_append, hskipped, List.append_nil]
  exact hfront

theorem CutAtPipes.standTogether {words : List String} {groups others : List (List String)}
    (hgroups : CutAtPipes words groups) (hothers : CutAtPipes words others)
    {earlier : List String} {word next : String}
    (htogether : StandTogether groups earlier word next) :
    StandTogether others earlier word next := by
  obtain ⟨later, hlater⟩ := htogether.exists_flatten
  rw [hgroups.flatten] at hlater
  obtain ⟨front, between, back, hline, rfl, hbetween, hword, hnext⟩ := exists_neighbours hlater
  rw [hothers.together front word between next back hline hword hnext hbetween]
  exact (hgroups.together front word between next back hline hword hnext hbetween).1 htogether

theorem CutAtPipes.unique {words : List String} {groups others : List (List String)}
    (hgroups : CutAtPipes words groups) (hothers : CutAtPipes words others) : groups = others :=
  eq_of_standTogether hgroups.isGroup hothers.isGroup
    (hgroups.flatten.trans hothers.flatten.symm)
    fun _ _ _ => ⟨hgroups.standTogether hothers, hothers.standTogether hgroups⟩

/-! ## Groups with pipes around them -/

theorem Spaced.splitStages {groups : List (List String)} {words : List String}
    (hspaced : Spaced groups words) (hgroups : ∀ group ∈ groups, IsGroup group) :
    splitStages words = groups := by
  induction hspaced with
  | one group => exact splitStages_group (hgroups group List.mem_cons_self)
  | more group pipes _ ih =>
      obtain ⟨hgroup, hrest⟩ := List.forall_mem_cons.1 hgroups
      rw [List.replicate_succ, List.cons_append, splitStages_append_pipe, splitStages_group hgroup,
        splitStages_lead, ih hrest]
      rfl

theorem Piped.splitStages {groups : List (List String)} {words : List String}
    (hpiped : Piped groups words) (hgroups : ∀ group ∈ groups, IsGroup group) :
    splitStages words = groups := by
  cases hpiped with
  | pipes count => exact splitStages_trail [] count
  | groups lead trail hspaced =>
      rw [splitStages_lead, splitStages_trail, hspaced.splitStages hgroups]

theorem IsGroup.cons {group : List String} (hgroup : IsGroup group) {word : String}
    (hword : word ≠ "|") : IsGroup (word :: group) := by
  refine ⟨List.cons_ne_nil _ _, ?_⟩
  rw [List.mem_cons, not_or]
  exact ⟨Ne.symm hword, hgroup.2⟩

/-- A word before groups without pipes at the front joins the first one. -/
theorem Spaced.exists_cons {groups : List (List String)} {words : List String}
    (hspaced : Spaced groups words) (hgroups : ∀ group ∈ groups, IsGroup group) {word : String}
    (hword : word ≠ "|") :
    ∃ more, (∀ group ∈ more, IsGroup group) ∧ Spaced more (word :: words) := by
  cases hspaced with
  | one group =>
      obtain ⟨hgroup, hnone⟩ := List.forall_mem_cons.1 hgroups
      exact ⟨_, List.forall_mem_cons.2 ⟨hgroup.cons hword, hnone⟩, .one _⟩
  | more group pipes hrest =>
      obtain ⟨hgroup, hothers⟩ := List.forall_mem_cons.1 hgroups
      exact ⟨_, List.forall_mem_cons.2 ⟨hgroup.cons hword, hothers⟩,
        .more (word :: group) pipes hrest⟩

/-- One more word at the front: a pipe changes no group, any other word joins the first group or
is one of its own. -/
theorem Piped.exists_cons {groups : List (List String)} {words : List String}
    (hpiped : Piped groups words) (hgroups : ∀ group ∈ groups, IsGroup group) (word : String) :
    ∃ more, (∀ group ∈ more, IsGroup group) ∧ Piped more (word :: words) := by
  by_cases hword : word = "|"
  · subst hword
    refine ⟨groups, hgroups, ?_⟩
    cases hpiped with
    | pipes count => exact .pipes (count + 1)
    | groups lead trail hspaced => exact .groups (lead + 1) trail hspaced
  · have hsingle : IsGroup [word] := ⟨by simp, by simpa using Ne.symm hword⟩
    cases hpiped with
    | pipes count =>
        exact ⟨[[word]], List.forall_mem_singleton.2 hsingle, .groups 0 count (.one [word])⟩
    | groups lead trail hspaced =>
        cases lead with
        | zero =>
            obtain ⟨more, hmore, hjoined⟩ := hspaced.exists_cons hgroups hword
            exact ⟨more, hmore, .groups 0 trail hjoined⟩
        | succ lead =>
            refine ⟨[word] :: groups, List.forall_mem_cons.2 ⟨hsingle, hgroups⟩, ?_⟩
            have hapart := Piped.groups 0 trail (Spaced.more [word] lead hspaced)
            simpa using hapart

theorem exists_piped (words : List String) :
    ∃ groups, (∀ group ∈ groups, IsGroup group) ∧ Piped groups words := by
  induction words with
  | nil => exact ⟨[], by simp, .pipes 0⟩
  | cons word words ih =>
      obtain ⟨groups, hgroups, hpiped⟩ := ih
      exact hpiped.exists_cons hgroups word

theorem splitStages_eq_iff_cutAtPipes (words : List String) (groups : List (List String)) :
    splitStages words = groups ↔ CutAtPipes words groups := by
  constructor
  · rintro rfl
    exact cutAtPipes_splitStages words
  · exact (cutAtPipes_splitStages words).unique

theorem splitStages_eq_iff_piped (words : List String) (groups : List (List String)) :
    splitStages words = groups ↔ (∀ group ∈ groups, IsGroup group) ∧ Piped groups words := by
  constructor
  · rintro rfl
    obtain ⟨groups, hgroups, hpiped⟩ := exists_piped words
    rw [hpiped.splitStages hgroups]
    exact ⟨hgroups, hpiped⟩
  · rintro ⟨hgroups, hpiped⟩
    exact hpiped.splitStages hgroups

/-- There are no stages exactly in lines of pipes. -/
theorem splitStages_eq_nil_iff (words : List String) :
    splitStages words = [] ↔ ∃ pipes, words = List.replicate pipes "|" := by
  constructor
  · intro hnone
    obtain ⟨-, hpiped⟩ := (splitStages_eq_iff_piped words []).1 hnone
    generalize hgroups : ([] : List (List String)) = groups at hpiped
    cases hpiped with
    | pipes count => exact ⟨count, rfl⟩
    | groups lead trail hspaced => cases hspaced <;> nomatch hgroups
  · rintro ⟨pipes, rfl⟩
    exact splitStages_trail [] pipes

/-- The stages of a line are its only grouping that is cut at the pipes and nowhere else, and
groups are the stages exactly of the lines that put one or more pipes between them and any
number of pipes around them. -/
theorem splitStages_only_cut (words : List String) (groups : List (List String)) :
    (splitStages words = groups ↔ CutAtPipes words groups) ∧
      (splitStages words = groups ↔ (∀ group ∈ groups, IsGroup group) ∧ Piped groups words) :=
  ⟨splitStages_eq_iff_cutAtPipes words groups, splitStages_eq_iff_piped words groups⟩

example : splitStages ["|", "a", "|", "|", "b", "x", "|"] = [["a"], ["b", "x"]] := by decide

end PipeGroups

end PipelineShell
