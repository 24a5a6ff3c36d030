import PipelineShell.Proofs.HistoryFile
import PipelineShell.Proofs.LineEffects

/-!
# Every entry is appended once

A history counts how many of its entries need no appending.  However it is used, the
texts that were appended are together the entries from those that were loaded up to
the mark, and nothing is appended that was there at the start.  What is pending
behind the mark is written by the next append that does not fail: one that fails
changes neither the history nor the files.
-/

namespace PipelineShell

namespace History

/-- A history as a session starts with it: a new one, or the one of a file. -/
def Starts (h : History) : Prop := h = empty ∨ ∃ fs here p, History.load fs here p = .ok h

theorem appended_record (h : History) (lines : List String) :
    (h.record lines).appended = h.appended := rfl

theorem appended_readFrom (h : History) (fs : FileSystem) (here : Place) (p : Path) :
    (h.readFrom fs here p).1.appended = h.appended := by
  rw [readFrom]
  cases fs.readFile here p with
  | error e => rfl
  | ok content => exact h.appended_record _

/-- All entries count as appended at the start. -/
theorem appended_of_starts {h : History} (hstarts : h.Starts) : h.appended = h.entries.length := by
  rcases hstarts with rfl | ⟨fs, here, p, hload⟩
  · rfl
  · rw [load] at hload
    split at hload <;> cases hload <;> rfl

theorem pending_settle (h : History) : h.settle.pending = [] := List.drop_length

/-! ## Using a history -/

/-- What is done with a history. -/
inductive Operation where
  | push (line : String)
  | readFrom (p : Path)
  | writeTo (p : Path)
  | save (p : Path)
  | list (limit : Option Nat)
  | appendTo (p : Path)
  /-- what others do to the files in between -/
  | disturb (files : FileSystem)

/-- A history in use. -/
structure Usage where
  history : History
  files : FileSystem
  /-- what each append that did not fail has written, in order -/
  written : List Bytes
  /-- what each listing has shown -/
  shown : List String

/-- The start of using a history. -/
def Usage.start (h : History) (files : FileSystem) : Usage := ⟨h, files, [], []⟩

/-- Carry out an operation in a working directory. -/
def Usage.perform (here : Place) (u : Usage) : Operation → Usage
  | .push line => { u with history := u.history.push line }
  | .readFrom p => { u with history := (u.history.readFrom u.files here p).1 }
  | .writeTo p => { u with files := (u.history.writeTo u.files here p).1 }
  | .save p => { u with files := (u.history.save u.files here p).1 }
  | .list limit => { u with shown := u.shown ++ [u.history.list limit] }
  | .appendTo p =>
    match u.history.appendTo u.files here p with
    | ((h, files), .ok ()) =>
      { u with history := h, files := files, written := u.written ++ [render u.history.pending] }
    | ((h, files), .error _) => { u with history := h, files := files }
  | .disturb files => { u with files := files }

def Usage.run (here : Place) (u : Usage) (ops : List Operation) : Usage :=
  ops.foldl (Usage.perform here) u

/-- An append that is done, with all that it does. -/
structure Appended (here : Place) (p : Path) (before after : Usage) : Prop where
  written : after.written = before.written ++ [render before.history.pending]
  entries : after.history.entries = before.history.entries
  nothing_pending : after.history.pending = []
  mark : after.history.appended = before.history.entries.length
  keeps : before.files.Keeps after.files
  /-- the path has what was pending behind what it had -/
  gains : Gains before.files after.files here p (render before.history.pending)

section Steps

variable {here : Place}

/-- Appending is done, or fails and changes nothing. -/
theorem Usage.perform_appendTo_cases (u : Usage) (p : Path) :
    ((u.history.appendTo u.files here p).2 = .ok () ∧
      Appended here p u (u.perform here (.appendTo p))) ∨
    ∃ e, (u.history.appendTo u.files here p).2 = .error e ∧ u.perform here (.appendTo p) = u := by
  rcases u.history.appendTo_cases u.files here p with ⟨written, hstore, happend⟩ | ⟨e, happend⟩
  · obtain ⟨hkeeps, hgains⟩ := gains_of_store hstore
    rw [Usage.perform, happend]
    exact .inl ⟨rfl, rfl, rfl, pending_settle _, rfl, hkeeps, hgains⟩
  · rw [Usage.perform, happend]
    exact .inr ⟨e, rfl, rfl⟩

/-- An operation adds entries behind those that are there and leaves the mark, or it is
an append that is done. -/
theorem Usage.perform_cases (u : Usage) (op : Operation) :
    (∃ more, (u.perform here op).history = ⟨u.history.entries ++ more, u.history.appended⟩ ∧
      (u.perform here op).written = u.written) ∨
    ∃ p, Appended here p u (u.perform here op) := by
  have hsame : u.history = ⟨u.history.entries ++ [], u.history.appended⟩ := by
    rw [List.append_nil]
  cases op with
  | push line => exact .inl ⟨_, rfl, rfl⟩
  | readFrom p =>
      refine .inl ⟨recalled u.files here p, ?_, rfl⟩
      rw [← entries_readFrom, ← u.history.appended_readFrom u.files here p]
      rfl
  | writeTo p | save p | list limit | disturb files => exact .inl ⟨[], hsame, rfl⟩
  | appendTo p =>
      rcases u.perform_appendTo_cases p with ⟨-, hdone⟩ | ⟨e, -, hunchanged⟩
      · exact .inr ⟨p, hdone⟩
      · rw [hunchanged]
        exact .inl ⟨[], hsame, rfl⟩

/-- Entries are only added at the end. -/
theorem Usage.entries_prefix_run (u : Usage) (ops : List Operation) :
    u.history.entries <+: (u.run here ops).history.entries := by
  induction ops generalizing u with
  | nil => exact List.prefix_rfl
  | cons op ops ih =>
      have hstep : u.history.entries <+: (u.perform here op).history.entries := by
        rcases u.perform_cases op with ⟨more, hhistory, -⟩ | ⟨p, hdone⟩
        · rw [hhistory]
          exact List.prefix_append _ _
        · exact ⟨[], (List.append_nil _).trans hdone.entries.symm⟩
      exact hstep.trans (ih (u.perform here op))

/-! ## What was appended -/

/-- The account of what was appended since a history was started. -/
structure Accounted (start : History) (u : Usage) : Prop where
  loaded : start.entries.length ≤ u.history.appended
  mark : u.history.appended ≤ u.history.entries.length
  /-- what was written are the entries from those at the start up to the mark -/
  written : u.written.flatten =
    render ((u.history.entries.take u.history.appended).drop start.entries.length)

theorem accounted_start {h : History} (hstarts : h.Starts) (files : FileSystem) :
    Accounted h (Usage.start h files) := by
  have hmark := appended_of_starts hstarts
  refine ⟨Nat.le_of_eq hmark.symm, Nat.le_of_eq hmark, ?_⟩
  simp [Usage.start, hmark, render]

variable {start : History} {u : Usage}

theorem Accounted.perform (haccounted : Accounted start u) (op : Operation) :
    Accounted start (u.perform here op) := by
  obtain ⟨hloaded, hmark, hwritten⟩ := haccounted
  rcases u.perform_cases op with ⟨more, hhistory, hsame⟩ | ⟨p, hdone⟩
  · refine ⟨?_, ?_, ?_⟩ <;> rw [hhistory]
    · exact hloaded
    · exact hmark.trans (List.prefix_append _ _).length_le
    · rw [hsame, hwritten, List.take_append_of_le_length hmark]
  · refine ⟨?_, ?_, ?_⟩ <;> rw [hdone.mark]
    · exact hloaded.trans hmark
    · rw [hdone.entries]
    · calc
        (u.perform here op).written.flatten = u.written.flatten ++ render u.history.pending := by
          rw [hdone.written, List.flatten_concat]
        _ = render ((u.history.entries.take u.history.appended).drop start.entries.length ++
              u.history.entries.drop u.history.appended) := by
          rw [hwritten, pending, render_append]
        _ = render ((u.history.entries.take u.history.appended ++
              u.history.entries.drop u.history.appended).drop start.entries.length) := by
          rw [List.drop_append_of_le_length (by rw [List.length_take]; omega)]
        _ = render (((u.perform here op).history.entries.take u.history.entries.length).drop
              start.entries.length) := by
          rw [List.take_append_drop, hdone.entries, List.take_length]

theorem Accounted.run (haccounted : Accounted start u) (ops : List Operation) :
    Accounted start (u.run here ops) := by
  induction ops generalizing u with
  | nil => exact haccounted
  | cons op ops ih => exact ih (haccounted.perform op)

/-- However a history is used, every entry behind those at the start is appended once and
in order: entries are only added at the end, the texts that were appended are together the
entries from those at the start up to the mark, an append that is done writes all that is
pending, and one that fails changes nothing. -/
theorem appended_once (hstarts : start.Starts) (files : FileSystem) (earlier later : List Operation) :
    let mid := (Usage.start start files).run here earlier
    let u := mid.run here later
    start.entries <+: mid.history.entries ∧ mid.history.entries <+: u.history.entries ∧
      start.entries.length ≤ u.history.appended ∧ u.history.appended ≤ u.history.entries.length ∧
      u.written.flatten =
        render ((u.history.entries.take u.history.appended).drop start.entries.length) ∧
      ∀ p, ((u.history.appendTo u.files here p).2 = .ok () →
          Appended here p u (u.perform here (.appendTo p))) ∧
        ∀ e, (u.history.appendTo u.files here p).2 = .error e →
          u.perform here (.appendTo p) = u := by
  intro mid u
  have haccounted : Accounted start u := ((accounted_start hstarts files).run earlier).run later
  refine ⟨(Usage.start start files).entries_prefix_run earlier, mid.entries_prefix_run later,
    haccounted.loaded, haccounted.mark, haccounted.written, fun p => ?_⟩
  rcases u.perform_appendTo_cases p with ⟨hok, hdone⟩ | ⟨e, herror, hunchanged⟩
  · refine ⟨fun _ => hdone, fun e herror => ?_⟩
    nomatch hok.symm.trans herror
  · refine ⟨fun hok => ?_, fun _ _ => hunchanged⟩
    nomatch hok.symm.trans herror

end Steps

theorem appended_once_sample :
    let files := (oneFile (utf8 "old\n")).attachDevices
    let loaded : History := ⟨["old"], 1⟩
    let earlier : List Operation := [.push "a", .appendTo (utf8 "/dev/full"), .readFrom (utf8 "/h"),
      .appendTo (utf8 "/new")]
    let later : List Operation := [.push "b", .save (utf8 "/h"), .appendTo (utf8 "/new")]
    let u := ((Usage.start loaded files).run Place.root earlier).run Place.root later
    loaded.Starts ∧ u.history.entries = ["old", "a", "old", "b"] ∧
      u.written = [utf8 "a\nold\n", utf8 "b\n"] ∧
      u.written.flatten =
        render ((u.history.entries.take u.history.appended).drop loaded.entries.length) ∧
      u.files.readFile Place.root (utf8 "/new") = .ok (utf8 "a\nold\nb\n") := by
  have hload : History.load (oneFile (utf8 "old\n")) Place.root (utf8 "/h") = .ok ⟨["old"], 1⟩ := by
    decide +kernel
  have hstarts : Starts ⟨["old"], 1⟩ := .inr ⟨_, _, _, hload⟩
  exact ⟨hstarts, by decide +kernel, by decide +kernel,
    (appended_once hstarts _ _ _).2.2.2.2.1, by decide +kernel⟩

end History

end PipelineShell
