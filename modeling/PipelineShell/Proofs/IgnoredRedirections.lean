import PipelineShell.Proofs.AlikeRuns
import PipelineShell.Proofs.StateThreading

/-!
# Redirections before the last stage

The redirection of a stage that others follow counts for nothing but a warning in the log.
Setting a stage up reads its name and its arguments only, unless it is the last one, so
that two pipelines whose stages have the same names and arguments set up the same stages.
The warning stands in the file of the log when the stages act, and a stage that reads this
file finds it there.  Where no stage does, the pipelines do the same.
-/

namespace PipelineShell

/-- Commands with the same name and arguments, whatever redirections they have. -/
structure Command.SameTask (command command' : Command) : Prop where
  name : command'.name = command.name
  args : command'.args = command.args

/-- Pipelines that differ at most in the redirections of the stages before the last one. -/
structure Pipeline.SameTasks (p q : Pipeline) : Prop where
  front : List.Forall₂ Command.SameTask p.front q.front
  last : q.last = p.last

/-- A command without its redirection. -/
def Command.bare (command : Command) : Command :=
  { command with redirect := none, operator := none, target := none }

theorem Command.sameTask_bare (command : Command) : command.SameTask command.bare := ⟨rfl, rfl⟩

/-- A pipeline of which only the last stage keeps its redirection. -/
def Pipeline.bare (p : Pipeline) : Pipeline :=
  ⟨p.front.map Command.bare ++ [p.last], List.concat_ne_nil _ _⟩

theorem Pipeline.sameTasks_bare (p : Pipeline) : p.SameTasks p.bare where
  front := by
    have hfront : p.bare.front = p.front.map Command.bare := List.dropLast_concat
    rw [hfront, List.forall₂_map_right_iff]
    exact List.forall₂_same.2 fun command _ => command.sameTask_bare
  last := List.getLast_concat

namespace Executor

variable {ex : Executor}

/-- No stage of a pipeline takes notice of what the file of the log holds, be it what it finds
there when its turn comes or anything else. -/
def LeavesLog (ex : Executor) (w : World) (p : Pipeline) : Prop :=
  ∀ held files, ex.openRedirect (ex.announced w p) p.last = .ok (held, files) →
    ∀ rooms i stage, (ex.stagesOf w p)[i]? = some stage →
      ex.Unaware w.journal.location? held (ex.found w p held files rooms i) stage
        (sinks (i + 1 == p.commands.length) (rooms.getD i 0) stage.1 held)
        (ex.ranUpTo w p held files rooms i).setting

/-! ## What is read of a stage that others follow -/

section Tasks

variable {command command' : Command}

theorem setUpStage_of_sameTask (htask : command.SameTask command')
    (held : Option FileSystem.Handle) (run : Run) (resolution : Resolution) (stdout stderr : Sink) :
    ex.setUpStage held run command' resolution stdout stderr =
      ex.setUpStage held run command resolution stdout stderr := by
  cases resolution with
  | builtin b => rw [setUpStage, setUpStage, htask.args]
  | notFound => rw [setUpStage, setUpStage, htask.name]
  | external program =>
      rw [setUpStage, setUpStage, start, start, htask.name, htask.args]

theorem enter_of_sameTask (htask : command.SameTask command') (run : Run) (index : Nat)
    (resolution : Resolution) :
    run.enter index command' resolution = run.enter index command resolution := by
  have hrecords : stageRecords index command' resolution =
      stageRecords index command resolution := by
    simp only [stageRecords, htask.name, htask.args]
  rw [Run.enter, Run.enter, hrecords]

theorem forall₂_sameTask_commands {p q : Pipeline} (htasks : p.SameTasks q) :
    List.Forall₂ Command.SameTask p.commands q.commands := by
  rw [← List.dropLast_append_getLast p.commands_ne_nil,
    ← List.dropLast_append_getLast q.commands_ne_nil]
  refine List.rel_append htasks.front (.cons ?_ .nil)
  have hlast : q.commands.getLast q.commands_ne_nil = p.commands.getLast p.commands_ne_nil :=
    htasks.last
  rw [hlast]
  exact ⟨rfl, rfl⟩

theorem map_name_commands {p q : Pipeline} (htasks : p.SameTasks q) :
    q.commands.map Command.name = p.commands.map Command.name := by
  generalize hq : q.commands = commands', hp : p.commands = commands
  have hcommands := forall₂_sameTask_commands htasks
  rw [hp, hq] at hcommands
  clear hp hq
  induction hcommands with
  | nil => rfl
  | cons htask _ ih => rw [List.map_cons, List.map_cons, htask.name, ih]

end Tasks

/-! ## What is settled before the first stage -/

section Settled

variable {w w' : World} {p q : Pipeline}

theorem resolve_of_agrees (hworlds : w.Agrees w') (name : String) :
    ex.resolve w' name = ex.resolve w name := by
  simp only [resolve, hworlds.state, hworlds.files.isExecutable,
    SearchPath.lookup_sameBut hworlds.files]

theorem resolveRecords_of_agrees (hworlds : w.Agrees w') (name : String) :
    ex.resolveRecords w' name = ex.resolveRecords w name := by
  simp only [resolveRecords, SearchPath.lookupRecords_sameBut hworlds.files]

/-- The names stand for the same. -/
theorem map_snd_stagesOf (hworlds : w.Agrees w') (htasks : p.SameTasks q) :
    (ex.stagesOf w' q).map Prod.snd = (ex.stagesOf w p).map Prod.snd := by
  have hnames := congrArg (List.map (ex.resolve w)) (map_name_commands htasks)
  rw [List.map_map, List.map_map] at hnames
  rw [stagesOf, stagesOf, List.map_map, List.map_map]
  refine Eq.trans ?_ hnames
  exact List.map_congr_left fun command _ => resolve_of_agrees hworlds command.name

/-- Nothing is logged of the redirections before the last stage but the warnings. -/
theorem openingRecords_of_sameTasks (hworlds : w.Agrees w') (htasks : p.SameTasks q) :
    ex.openingRecords w' q =
      p.commands.flatMap (fun command => ex.resolveRecords w command.name) ++
        q.front.flatMap ignoredRecords ++ openRecords w p.last := by
  have hnames := congrArg (List.flatMap (ex.resolveRecords w)) (map_name_commands htasks)
  rw [List.flatMap_map, List.flatMap_map] at hnames
  have hopening : openRecords w' p.last = openRecords w p.last := by
    rw [openRecords, openRecords, hworlds.state]
  simp only [openingRecords, resolveRecords_of_agrees hworlds, htasks.last, hopening, hnames]

/-- The room of a pipe at first depends on what reads from it. -/
def roomFor (room : Nat) : Resolution → Nat
  | .external _ => room
  | _ => 0

theorem firstRooms_eq (stages : List (Command × Resolution)) : firstRooms stages =
    (Flow.firstRooms ((stages.map Prod.snd).length - 1)).zipWith roomFor
      (stages.map Prod.snd).tail := by
  rw [List.length_map, ← List.map_tail, List.zipWith_map_right]
  rfl

/-- The pipes get the same room at first. -/
theorem firstRooms_of_sameTasks (hworlds : w.Agrees w') (htasks : p.SameTasks q) :
    firstRooms (ex.stagesOf w' q) = firstRooms (ex.stagesOf w p) := by
  rw [firstRooms_eq, firstRooms_eq, map_snd_stagesOf hworlds htasks]

variable (ex) in
theorem agrees_announced (hworlds : w.Agrees w') (p q : Pipeline) :
    (ex.announced w p).Agrees (ex.announced w' q) := (hworlds.tell _ _).flush

/-- Runs put the room in their pipes right in the same way if the same goes through them. -/
theorem settledRooms_congr {held : Option FileSystem.Handle} {start start' : Run}
    {stages stages' : List (Command × Resolution)}
    (hflows : ∀ rooms, (ex.runStages held start' rooms stages').flows =
      (ex.runStages held start rooms stages).flows) (tries : Nat) (rooms : List Nat) :
    ex.settledRooms held start' stages' tries rooms =
      ex.settledRooms held start stages tries rooms := by
  induction tries generalizing rooms with
  | zero => rfl
  | succ tries ih =>
      rw [settledRooms, settledRooms, hflows]
      cases Flow.corrected? rooms (ex.runStages held start rooms stages).flows.reverse with
      | none => rfl
      | some corrected => exact ih corrected

end Settled

/-! ## Stage by stage -/

/-- Two pipelines whose redirections are open, with the same room in their pipes. -/
structure Paired (ex : Executor) (w w' : World) (p q : Pipeline)
    (held : Option FileSystem.Handle) (files files' : FileSystem) : Prop where
  worlds : w.Agrees w'
  tasks : p.SameTasks q
  opened : ex.openRedirect (ex.announced w p) p.last = .ok (held, files)
  files : FileSystem.SameBut w.journal.location? files files'
  leaves : ex.LeavesLog w p

namespace Paired

variable {w w' : World} {p q : Pipeline} {held : Option FileSystem.Handle}
  {files files' : FileSystem}

theorem length_commands (hpaired : ex.Paired w w' p q held files files') :
    q.commands.length = p.commands.length :=
  (forall₂_sameTask_commands hpaired.tasks).length_eq.symm

theorem length_front (hpaired : ex.Paired w w' p q held files files') :
    q.front.length = p.front.length := hpaired.tasks.front.length_eq.symm

/-- Each stage has the same task in both pipelines, and writes to the same. -/
theorem stage (hpaired : ex.Paired w w' p q held files files') {i : Nat} {command : Command}
    {resolution : Resolution} (hstage : (ex.stagesOf w p)[i]? = some (command, resolution))
    (room : Nat) :
    ∃ command', (ex.stagesOf w' q)[i]? = some (command', resolution) ∧
      command.SameTask command' ∧
      sinks (i + 1 == q.commands.length) room command' held =
        sinks (i + 1 == p.commands.length) room command held := by
  obtain ⟨hcommand, hresolve⟩ := resolve_of_stagesOf hstage
  obtain ⟨hi, hget⟩ := List.getElem?_eq_some_iff.1 hcommand
  have hi' : i < q.commands.length := hpaired.length_commands ▸ hi
  have htask : command.SameTask q.commands[i] := by
    have hnth := (List.forall₂_iff_get.1 (forall₂_sameTask_commands hpaired.tasks)).2 i hi hi'
    rw [← hget]
    exact hnth
  refine ⟨q.commands[i], ?_, htask, ?_⟩
  · rw [stagesOf, List.getElem?_map, List.getElem?_eq_getElem hi', Option.map_some,
      resolve_of_agrees hpaired.worlds, htask.name, hresolve]
  · rw [hpaired.length_commands]
    by_cases hlast : i + 1 = p.commands.length
    · have hsame : q.commands[i] = command := by
        have hp : p.commands[i] = p.last := by
          rw [Pipeline.last, List.getLast_eq_getElem]
          simp only [← hlast, Nat.add_sub_cancel]
        have hq : q.commands[i] = q.last := by
          rw [Pipeline.last, List.getLast_eq_getElem]
          simp only [hpaired.length_commands, ← hlast, Nat.add_sub_cancel]
        rw [hq, hpaired.tasks.last, ← hp, hget]
      rw [hsame]
    · have hfront : (i + 1 == p.commands.length) = false := by simpa using hlast
      rw [hfront]
      rfl

/-- The turn of a stage comes in runs that are alike: it is set up alike. -/
theorem setUpStage (hpaired : ex.Paired w w' p q held files files') {rooms : List Nat}
    {past past' : List Event} {i : Nat} {command : Command} {resolution : Resolution}
    (hstage : (ex.stagesOf w p)[i]? = some (command, resolution))
    (hbefore : (ex.preparedUpTo w p held files rooms i).1.Alike w.journal.location? past past'
      (ex.preparedUpTo w' q held files' rooms i).1) :
    ∃ command', (ex.stagesOf w' q)[i]? = some (command', resolution) ∧
      let out := sinks (i + 1 == p.commands.length) (rooms.getD i 0) command held
      let set := ex.setUpStage held
        ((ex.preparedUpTo w p held files rooms i).1.enter i command resolution) command resolution
        out.1 out.2
      let set' := ex.setUpStage held
        ((ex.preparedUpTo w' q held files' rooms i).1.enter i command' resolution) command'
        resolution out.1 out.2
      sinks (i + 1 == q.commands.length) (rooms.getD i 0) command' held = out ∧
        set.1.Alike w.journal.location? past past' set'.1 ∧
        Stage.Alike (Started.EndsAlike w.journal.location?
          (ex.ranUpTo w p held files rooms i).setting) set.2 set'.2 := by
  obtain ⟨command', hstage', htask, hout⟩ := hpaired.stage hstage (rooms.getD i 0)
  have hunaware := hpaired.leaves held files hpaired.opened rooms i _ hstage
  rw [found_of_stage hstage] at hunaware
  obtain ⟨hset, hready⟩ := alike_setUpStage (hbefore.enter i command resolution) hunaware
  refine ⟨command', hstage', hout, ?_⟩
  rw [enter_of_sameTask htask, setUpStage_of_sameTask htask]
  exact ⟨hset, hready⟩

theorem preparedUpTo (hpaired : ex.Paired w w' p q held files files') (rooms : List Nat)
    (i : Nat) (hi : i ≤ p.front.length) :
    (ex.preparedUpTo w p held files rooms i).1.Alike w.journal.location?
      ((ex.openingRecords w p).map .record) ((ex.openingRecords w' q).map .record)
      (ex.preparedUpTo w' q held files' rooms i).1 := by
  induction i with
  | zero =>
      have hworlds := ex.agrees_announced hpaired.worlds p q
      exact ⟨hworlds.withFiles hpaired.files, rfl, rfl, rfl, [], (List.append_nil _).symm,
        (List.append_nil _).symm⟩
  | succ i ih =>
      have hnotLast : i + 1 ≠ p.commands.length := by
        rw [← Executor.length_front]
        exact Nat.ne_of_lt (Nat.succ_lt_succ hi)
      have hcount : i < p.commands.length := by
        rw [← Executor.length_front]
        exact Nat.lt_succ_of_lt hi
      obtain ⟨⟨command, resolution⟩, hstage⟩ := exists_stage ex w hcount
      obtain ⟨command', hstage', -, hset, -⟩ := hpaired.setUpStage hstage (ih (Nat.le_of_lt hi))
      have hpipe : sinks (i + 1 == p.commands.length) (rooms.getD i 0) command held =
          (.pipe (rooms.getD i 0), .terminal) := by
        rw [beq_eq_false_iff_ne.2 hnotLast]
        rfl
      rw [hpipe] at hset
      rw [preparedUpTo_succ hstage, preparedUpTo_succ hstage']
      exact hset

/-- All stages are set up, and the runs are alike. -/
theorem prepared (hpaired : ex.Paired w w' p q held files files') (rooms : List Nat) :
    (ex.prepared w p held files rooms).1.Alike w.journal.location?
      ((ex.openingRecords w p).map .record) ((ex.openingRecords w' q).map .record)
      (ex.prepared w' q held files' rooms).1 := by
  have hbefore := hpaired.preparedUpTo rooms p.front.length (Nat.le_refl _)
  obtain ⟨command', hstage', hout, hset, -⟩ :=
    hpaired.setUpStage getElem?_stagesOf_last hbefore
  rw [← hpaired.length_front, getElem?_stagesOf_last] at hstage'
  obtain ⟨rfl, hresolve⟩ := Prod.mk.inj (Option.some.inj hstage')
  have hfront : ex.preparedUpTo w' q held files' rooms p.front.length =
      ex.preparedFront w' q held files' rooms := by
    rw [← hpaired.length_front, preparedUpTo_front]
  have hlast : (p.front.length + 1 == p.commands.length) = true := by
    rw [Executor.length_front, beq_self_eq_true]
  rw [hpaired.tasks.last] at hresolve hset
  rw [hlast, hfront, preparedUpTo_front] at hset
  rw [prepared_eq, prepared_eq]
  simp only [preparedLast, lastTurn, hpaired.tasks.last, hpaired.length_front, hresolve]
  exact hset

/-- Each stage is set up alike. -/
theorem ready (hpaired : ex.Paired w w' p q held files files') (rooms : List Nat) {i : Nat}
    {stage : Stage} (hready : (ex.prepared w p held files rooms).2[i]? = some stage) :
    ∃ stage', (ex.prepared w' q held files' rooms).2[i]? = some stage' ∧
      Stage.Alike (Started.EndsAlike w.journal.location?
        (ex.ranUpTo w p held files rooms i).setting) stage stage' := by
  rw [getElem?_prepared] at hready
  obtain ⟨⟨command, resolution⟩, hstage, rfl⟩ := Option.map_eq_some_iff.1 hready
  have hi : i ≤ p.front.length := by
    have hcount := (List.getElem?_eq_some_iff.1 hstage).1
    rw [length_stagesOf, ← Executor.length_front] at hcount
    exact Nat.le_of_lt_succ hcount
  obtain ⟨command', hstage', hout, -, hset⟩ :=
    hpaired.setUpStage hstage (hpaired.preparedUpTo rooms i hi)
  rw [snd_setUpStage, snd_setUpStage, ← found_of_stage hstage] at hset
  refine ⟨_, ?_, hset⟩
  rw [getElem?_prepared, hstage', Option.map_some, hout, found_of_stage hstage']

/-- The stages run alike. -/
theorem ranUpTo (hpaired : ex.Paired w w' p q held files files') (rooms : List Nat) (i : Nat)
    (hi : i ≤ p.commands.length) :
    (ex.ranUpTo w p held files rooms i).Alike w.journal.location?
      ((ex.openingRecords w p).map .record) ((ex.openingRecords w' q).map .record)
      (ex.ranUpTo w' q held files' rooms i) := by
  induction i with
  | zero => exact hpaired.prepared rooms
  | succ i ih =>
      rw [← length_prepared ex w p held files rooms] at hi
      have hready := List.getElem?_eq_getElem hi
      obtain ⟨stage', hready', halike⟩ := hpaired.ready rooms hready
      rw [ranUpTo_succ hready, ranUpTo_succ hready']
      rw [length_prepared] at hi
      exact alike_runStage (ih (Nat.le_of_lt hi)) halike

theorem rooms (hpaired : ex.Paired w w' p q held files files') :
    ex.rooms w' q held files' = ex.rooms w p held files := by
  rw [Executor.rooms, Executor.rooms, firstRooms_of_sameTasks hpaired.worlds hpaired.tasks]
  apply settledRooms_congr
  intro rooms
  rw [runStages_eq_ranUpTo, runStages_eq_ranUpTo, hpaired.length_commands]
  exact (hpaired.ranUpTo rooms _ (Nat.le_refl _)).flows

end Paired

/-! ## Pipelines that differ in redirections before the last stage -/

section Effect

variable {w w' : World} {p q : Pipeline}

/-- What two pipelines have in common that have run. -/
structure SameEffect (ex : Executor) (w w' : World) (p q : Pipeline) : Prop where
  result : (ex.execute w' q).result = (ex.execute w p).result
  world : (ex.execute w p).world.Agrees (ex.execute w' q).world
  seen : ∀ outlet, seenOn outlet (ex.execute w' q).events = seenOn outlet (ex.execute w p).events
  /-- each warns of its own redirections, and all else is logged and shown alike -/
  events : ∃ before later,
    (ex.execute w p).events = (before ++ p.front.flatMap ignoredRecords).map .record ++ later ∧
      (ex.execute w' q).events = (before ++ q.front.flatMap ignoredRecords).map .record ++ later

theorem sameEffect_of_alike (hworlds : w.Agrees w') (htasks : p.SameTasks q)
    (hresult : (ex.execute w' q).result = (ex.execute w p).result)
    (hworld : (ex.execute w p).world.Agrees (ex.execute w' q).world)
    (hevents : ∃ later, (ex.execute w p).events = (ex.openingRecords w p).map .record ++ later ∧
      (ex.execute w' q).events = (ex.openingRecords w' q).map .record ++ later) :
    ex.SameEffect w w' p q := by
  obtain ⟨later, hlater, hlater'⟩ := hevents
  refine ⟨hresult, hworld, fun outlet => ?_,
    p.commands.flatMap fun command => ex.resolveRecords w command.name,
    (openRecords w p.last).map .record ++ later, ?_, ?_⟩
  · rw [hlater, hlater', seenOn_append, seenOn_append, seenOn_records, seenOn_records]
  · rw [hlater, openingRecords, List.map_append, List.append_assoc]
  · rw [hlater', openingRecords_of_sameTasks hworlds htasks, List.map_append, List.append_assoc]

theorem execute_of_refused {e : LineError}
    (hopen : ex.openRedirect (ex.announced w p) p.last = .error e) :
    ex.execute w p =
      ⟨w.log (ex.openingRecords w p), (ex.openingRecords w p).map .record, .error e⟩ := by
  simp only [execute, hopen]

theorem sameEffect_of_sameTasks (hleaves : ex.LeavesLog w p) (hworlds : w.Agrees w')
    (htasks : p.SameTasks q) : ex.SameEffect w w' p q := by
  have hannounced := ex.agrees_announced hworlds p q
  have hopens := @openRedirect_sameBut ex _ _ p.last _ hannounced.state hannounced.files
  rcases hopens.error_or_ok with
    ⟨e, hopen, hopen'⟩ | ⟨⟨held, files⟩, ⟨held', files'⟩, hopen, hopen', hheld, hfiles⟩
  · rw [← htasks.last] at hopen'
    apply sameEffect_of_alike hworlds htasks <;>
      rw [execute_of_refused hopen, execute_of_refused hopen']
    · exact hworlds.tell _ _
    · exact ⟨[], (List.append_nil _).symm, (List.append_nil _).symm⟩
  · obtain rfl : held' = held := hheld
    rw [← htasks.last] at hopen'
    have hpaired : ex.Paired w w' p q held' files files' :=
      ⟨hworlds, htasks, hopen, hfiles, hleaves⟩
    have halike := hpaired.ranUpTo (ex.rooms w p held' files) _ (Nat.le_refl _)
    apply sameEffect_of_alike hworlds htasks <;>
      rw [execute_eq_ranUpTo hopen, execute_eq_ranUpTo hopen', hpaired.rooms,
        hpaired.length_commands]
    · exact halike.world
    · exact halike.events

/-- One line after another leaves worlds that differ at most in the log. -/
theorem agrees_after (hworlds : w.Agrees w') {lines lines' : List Pipeline}
    (htasks : List.Forall₂ Pipeline.SameTasks lines lines')
    (hleaves : ∀ before p, before ++ [p] <+: lines → ex.LeavesLog (ex.after w before) p) :
    (ex.after w lines).Agrees (ex.after w' lines') := by
  induction htasks generalizing w w' with
  | nil => exact hworlds
  | @cons p q lines lines' htask htasks ih =>
      have hfirst := hleaves [] p (List.prefix_append [p] lines)
      refine ih (sameEffect_of_sameTasks hfirst hworlds htask).world ?_
      intro before next hbefore
      exact hleaves (p :: before) next ((List.prefix_cons_inj p).2 hbefore)

/-- Redirections before the last stage have no effect but a warning in the log, unless a stage
takes notice of what the file of the log holds: pipelines that differ only in them end alike,
show the same, and leave the same state and the same files apart from that one, as if only the
last stage had a redirection.  So do lines that are run one after another. -/
theorem front_redirections_ignored (hworlds : w.Agrees w') :
    (∀ p q : Pipeline, p.SameTasks q → ex.LeavesLog w p → ex.SameEffect w w' p q) ∧
      (∀ p : Pipeline, ex.LeavesLog w p → ex.SameEffect w w' p p.bare) ∧
      ∀ lines lines' : List Pipeline, List.Forall₂ Pipeline.SameTasks lines lines' →
        (∀ before p, before ++ [p] <+: lines → ex.LeavesLog (ex.after w before) p) →
        (ex.after w lines).Agrees (ex.after w' lines') := by
  refine ⟨?_, ?_, ?_⟩
  · intro p q htasks hleaves
    exact sameEffect_of_sameTasks hleaves hworlds htasks
  · intro p hleaves
    exact sameEffect_of_sameTasks hleaves hworlds p.sameTasks_bare
  · intro lines lines' htasks hleaves
    exact agrees_after hworlds htasks hleaves

end Effect

/-- A desk with a log that takes all records. -/
def loggedDesk : World :=
  { desk with
    files := desk.files.insert [utf8 "log"] (.file [] FileSystem.newFileMode)
    journal := { setup := ⟨.file (.atEnd [utf8 "log"]), .debug⟩, stamp := ⟨1, "", ""⟩ } }

/-- Programs that look at their input only take no notice of any file, and of the builtins only
`history -r` does. -/
theorem leavesLog_reversing (w : World) {p : Pipeline}
    (hread : ∀ command ∈ p.commands, command.args.head? ≠ some "-r") : reversing.LeavesLog w p := by
  intro held files hopen rooms i stage hstage
  obtain ⟨command, resolution⟩ := stage
  obtain ⟨hcommand, -⟩ := resolve_of_stagesOf hstage
  constructor
  · rintro b - ⟨file, rest, place, -, hargs, -⟩
    exact hread command (List.mem_of_getElem? hcommand) (congrArg List.head? hargs)
  · rintro path - files' hfiles
    refine .ok fun after hafter => ?_
    exact ⟨rfl, rfl, rfl, rfl, hafter, ⟨fun _ => rfl, fun _ => rfl⟩⟩

/-- A text that goes through a pipe to a file, with another redirection before the pipe. -/
def storedText (redirect : Option Redirect) (operator target : Option String) : Pipeline :=
  ⟨[⟨"echo", ["hi"], redirect, operator, target⟩,
    ⟨"/tool", [], some .stdoutTruncate, some ">", some "out"⟩], List.cons_ne_nil _ _⟩

/-- The file before the pipe is not made, and one that is not named is not missed, though the
logs are told of both. -/
theorem front_redirections_ignored_stored :
    let p := storedText (some .stdoutTruncate) (some ">") (some "other")
    let q := storedText (some .stderrAppend) (some "2>>") none
    reversing.LeavesLog loggedDesk p ∧ loggedDesk.Agrees loggedDesk ∧ p.SameTasks q ∧
      reversing.SameEffect loggedDesk loggedDesk p q ∧
      reversing.SameEffect loggedDesk loggedDesk p p.bare ∧
      (reversing.after loggedDesk [p]).Agrees (reversing.after loggedDesk [q]) ∧
      (reversing.execute loggedDesk p).result = .ok () ∧
      (reversing.execute loggedDesk p).world.files.find Place.root (utf8 "/other") =
        .error .notFound ∧
      (reversing.execute loggedDesk p).world.files.readFile Place.root (utf8 "/out") =
        .ok (utf8 "\nih") ∧
      (reversing.execute loggedDesk q).world.files.readFile Place.root (utf8 "/log") ≠
        (reversing.execute loggedDesk p).world.files.readFile Place.root (utf8 "/log") := by
  intro p q
  have hleaves : ∀ w, reversing.LeavesLog w p := fun w =>
    leavesLog_reversing w (by simp [p, storedText])
  have htasks : p.SameTasks q := ⟨.cons ⟨rfl, rfl⟩ .nil, rfl⟩
  have hagrees := World.Agrees.refl loggedDesk
  obtain ⟨hpair, hbare, hlines⟩ := @front_redirections_ignored reversing _ _ hagrees
  refine ⟨hleaves _, hagrees, htasks, hpair p q htasks (hleaves _), hbare p (hleaves _), ?_,
    by decide +kernel, by decide +kernel, by decide +kernel, by decide +kernel⟩
  apply hlines [p] [q] (.cons htasks .nil)
  intro before next hbefore
  have hnext : next ∈ [p] :=
    hbefore.subset (List.mem_append_right before (List.mem_singleton_self next))
  rw [List.mem_singleton.1 hnext]
  exact hleaves _

/-- A pipeline that recalls the log, with a redirection before the pipe or without. -/
def recallsLog (redirect : Option Redirect) (operator target : Option String) : Pipeline :=
  ⟨[⟨"echo", ["a"], redirect, operator, target⟩,
    ⟨"history", ["-r", "/log"], none, none, none⟩], List.cons_ne_nil _ _⟩

/-- The warning of a redirection is an entry of the history if the log is recalled. -/
theorem front_redirection_recalled :
    ¬ ∀ (ex : Executor) (w : World) (p q : Pipeline), p.SameTasks q →
      (ex.execute w q).world.state = (ex.execute w p).world.state := by
  intro hclaim
  have hsame := hclaim reversing loggedDesk
    (recallsLog (some .stdoutTruncate) (some ">") (some "f")) (recallsLog none none none)
    ⟨.cons ⟨rfl, rfl⟩ .nil, rfl⟩
  have hentries := congrArg (fun state : ShellState => state.history.entries.length) hsame
  exact absurd hentries (by decide +kernel)

end Executor

end PipelineShell
